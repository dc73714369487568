import Relay.Proofs.Gathering
import Relay.Proofs.Orchestrator.Deeds

/-!
# What launching makes of a redirect target

One redirect target of a pipeline is watched while the sinks of a stage are opened.  Opening the
other target leaves the watched one alone (`openSink_other`).  A stage that has the watched target
gathers in it from then on, behind what it held or from an empty file (`openSinks_gathers`); a stage
that does not have it leaves it alone (`openSinks_beside`), and so does a launch that is refused
(`openSinks_refused`).
-/

namespace Relay

/-! ## The targets of the stages -/

namespace Pipeline

def target? (p : Pipeline) : Stream → Option Text
  | .stdout => p.stdoutTarget
  | .stderr => p.stderrTarget

def targetAt? (p : Pipeline) (i : Nat) : Stream → Option Text
  | .stdout => Orchestrator.stdoutTargetOf p i
  | .stderr => p.stderrTarget

def firstOf (p : Pipeline) : Stream → Nat
  | .stdout => p.stages.length - 1
  | .stderr => 0

def modeAt (i : Nat) : Stream → OpenMode
  | .stdout => .truncate
  | .stderr => Orchestrator.stderrMode i

variable {p : Pipeline} {i : Nat} {s : Stream}

theorem targetAt?_of_lt (h : i < p.firstOf s) : p.targetAt? i s = none := by
  cases s with
  | stdout =>
    have hne : ¬ i + 1 = p.stages.length := by
      have h' : i < p.stages.length - 1 := h
      omega
    exact if_neg hne
  | stderr => exact absurd h (Nat.not_lt_zero i)

theorem targetAt?_of_ge (hi : i < p.stages.length) (h : p.firstOf s ≤ i) :
    p.targetAt? i s = p.target? s := by
  cases s with
  | stdout =>
    have heq : i + 1 = p.stages.length := by
      have h' : p.stages.length - 1 ≤ i := h
      omega
    exact if_pos heq
  | stderr => rfl

theorem target?_of_targetAt? {x : Text} (h : p.targetAt? i s = some x) : p.target? s = some x := by
  cases s with
  | stdout =>
    have h' : (if i + 1 = p.stages.length then p.stdoutTarget else none) = some x := h
    split at h'
    · exact h'
    · cases h'
  | stderr => exact h

theorem modeAt_ne_update (i : Nat) (s : Stream) : modeAt i s ≠ .update := by
  cases s with
  | stdout => nofun
  | stderr =>
    show (if i = 0 then OpenMode.truncate else .append) ≠ .update
    split <;> nofun

theorem modeAt_eq (hi : i < p.stages.length) (h : p.firstOf s ≤ i) :
    modeAt i s = if i = p.firstOf s then .truncate else .append := by
  cases s with
  | stdout =>
    have heq : i = p.stages.length - 1 := by
      have h' : p.stages.length - 1 ≤ i := h
      omega
    exact (if_pos heq).symm
  | stderr => rfl

end Pipeline

/-! ## A watched target -/

namespace Host

/-- A host on which the watched target is apart from the other one, if there is one. -/
structure Watches (h : Host) (x : Text) (y? : Option Text) : Prop where
  sound : h.files.Sound
  different : ∀ y, y? = some y → h.Different x y

variable {h h' : Host} {x y : Text} {y? : Option Text} {mode : OpenMode} {d : Nat}

theorem Watches.wrote (hr : h.Watches x y?) {ds : List Nat} (hw : h.Wrote ds h') :
    h'.Watches x y? :=
  ⟨hw.files.sound hr.sound, fun y hy => hw.different (hr.different y hy)⟩

theorem Watches.opened_own (hr : h.Watches x y?) (ho : h.openTarget x mode = .ok (d, h')) :
    h'.Watches x y? :=
  ⟨sound_of_openTarget hr.sound ho, fun y hy => (hr.different y hy).opened hr.sound ho⟩

theorem Watches.opened_other (hr : h.Watches x y?) (hy : y? = some y)
    (ho : h.openTarget y mode = .ok (d, h')) : h'.Watches x y? := by
  refine ⟨sound_of_openTarget hr.sound ho, fun z hz => ?_⟩
  obtain rfl : y = z := Option.some.inj (hy.symm.trans hz)
  exact ((hr.different y hy).symm.opened hr.sound ho).symm

/-- Closing changes nothing that is to be seen of a target. -/
theorem look_close (h : Host) (d : Nat) (x : Text) : (h.close d).look x = h.look x := by
  have hfolders : h.files.SameFolders (h.close d).files := fun _ => Iff.rfl
  have hplace : (h.close d).place? x = h.place? x := by
    unfold Host.place?
    split
    · exact hfolders.place? _ _
    · rfl
  have hentry : Host.entry? (h.close d) x = h.entry? x := by
    unfold Host.entry?
    rw [hplace]
    rfl
  unfold Host.look bytes? Host.number?
  rw [hentry]
  rfl

end Host

/-- A sink does not write to what a target stands for. -/
def Sink.Elsewhere (k : Sink) (h : Host) (x : Text) : Prop :=
  ∀ d, k.descriptor? = some d → h.Elsewhere d x

theorem Sink.Elsewhere.apart {k k' : Sink} {h : Host} {x : Text} (he : k'.Elsewhere h x) {n : Nat}
    (hn : h.number? x = some n) (hd : ∀ d, k'.descriptor? = some d → k.descriptor? ≠ some d) :
    k.Apart k' h n :=
  ⟨hd, fun d hk f hf => he d hk f hf n hn⟩

namespace Orchestrator

variable {h h' : Host} {x : Text} {y? target? : Option Text} {mode : OpenMode} {k : Sink}

/-! ## One sink -/

theorem openSink_some {ω : Type} [FileStore ω] (w : ω) (y : Text) (mode : OpenMode) :
    openSink w (some y) mode = match FileStore.openTarget w y mode with
      | .ok (d, w') => .ok (.file { target := y, descriptor := d }, w')
      | .error cause => .error (.redirect y cause) := by
  simp only [openSink, Sink.openTarget, FileSink.openTarget]
  cases FileStore.openTarget w y mode <;> rfl

theorem openSink_cases (ho : openSink h target? mode = .ok (k, h')) :
    target? = none ∧ k = .empty ∧ h' = h ∨
      ∃ y d, target? = some y ∧ h.openTarget y mode = .ok (d, h') ∧
        k = .file { target := y, descriptor := d } := by
  cases target? with
  | none =>
    cases ho
    exact .inl ⟨rfl, rfl, rfl⟩
  | some y =>
    rw [openSink_some] at ho
    split at ho
    · rename_i d h₁ hopen
      cases ho
      exact .inr ⟨y, d, rfl, hopen, rfl⟩
    · cases ho

theorem openSink_other (hr : h.Watches x y?) (hy : ∀ y, target? = some y → y? = some y)
    (ho : openSink h target? mode = .ok (k, h')) :
    h'.Watches x y? ∧ h'.look x = h.look x ∧ k.Elsewhere h' x := by
  rcases openSink_cases ho with ⟨-, rfl, rfl⟩ | ⟨y, d, ht, hopen, rfl⟩
  · exact ⟨hr, rfl, nofun⟩
  · have hdiff := hr.different y (hy y ht)
    refine ⟨hr.opened_other (hy y ht) hopen, Host.look_of_openTarget hr.sound hdiff hopen, ?_⟩
    intro d' hd'
    cases hd'
    exact Host.elsewhere_of_openTarget hr.sound hdiff hopen

/-- A sink on the watched target gathers behind what the target held, or from an empty file. -/
theorem gathers_of_openTarget {d : Nat} (hs : h.files.Sound)
    (ho : h.openTarget x mode = .ok (d, h')) (hmode : mode ≠ .update)
    (plain : ∀ device, h.entry? x ≠ some (.device device)) :
    ∃ n, h'.number? x = some n ∧
      (Sink.file { target := x, descriptor := d }).Gathers h' n
        (if mode = .truncate then [] else (h.bytes? x).getD []) := by
  obtain ⟨n, hn⟩ := Host.exists_number? hs ho plain
  exact ⟨n, hn, Sink.gathers_opened hs ho hmode hn⟩

/-- A sink gathers on when the other target is opened, whose sink does not write to its file. -/
theorem gathers_beside {k' : Sink} {n : Nat} {c : Bytes} (hr : h.Watches x y?)
    (hn : h.number? x = some n) (hg : k.Gathers h n c) (hy : ∀ y, target? = some y → y? = some y)
    (ho : openSink h target? mode = .ok (k', h')) :
    h'.number? x = some n ∧ k.Gathers h' n c ∧ k.Apart k' h' n := by
  obtain ⟨hr', hlook, helse⟩ := openSink_other hr hy ho
  have hentry : h'.entry? x = h.entry? x := congrArg Prod.fst hlook
  have hn' : h'.number? x = some n := by
    unfold Host.number?
    rw [hentry]
    exact hn
  have hcontent : h'.files.content n = h.files.content n := by
    have hbytes : h'.bytes? x = h.bytes? x := congrArg Prod.snd hlook
    unfold Host.bytes? at hbytes
    rw [hn, hn'] at hbytes
    exact Option.some.inj hbytes
  -- the sink's own descriptor is older than the new one
  have hfresh : ∀ d, k.descriptor? = some d →
      h'.files.openFile? d = h.files.openFile? d ∧ k'.descriptor? ≠ some d := by
    intro d hd
    rcases openSink_cases ho with ⟨-, rfl, rfl⟩ | ⟨y, d', -, hopen, rfl⟩
    · exact ⟨rfl, nofun⟩
    · obtain ⟨-, l, -, hopened, -⟩ := Host.openTarget_eq_ok hopen hr.sound
      obtain ⟨f, rfl, hf⟩ := hg
      obtain rfl : f.descriptor = d := Option.some.inj hd
      obtain ⟨file, hfile, -⟩ := hf.atEnd.opened
      have hlt := FileTree.lt_of_openFile? hfile
      have hne : f.descriptor ≠ d' := by
        rw [hopened.descriptor]
        exact Nat.ne_of_lt hlt
      exact ⟨hopened.openFile? _ hne, fun heq => hne (Option.some.inj heq).symm⟩
  refine ⟨hn', hg.of_same (fun d hd => (hfresh d hd).1) hcontent (Host.lt_of_number? hr'.sound hn'),
    helse.apart hn' fun d hd' hd => (hfresh d hd).2 hd'⟩

/-! ## Both sinks of a stage -/

section Stage

variable {p : Pipeline} {i : Nat} {s : Stream}

theorem openSinks_eq_ok {ω : Type} [FileStore ω] {w w' : ω} {out err : Sink}
    (ho : openSinks w p i = (.ok (out, err), w')) :
    ∃ w₁, openSink w (p.targetAt? i .stderr) (Pipeline.modeAt i .stderr) = .ok (err, w₁) ∧
      openSink w₁ (p.targetAt? i .stdout) (Pipeline.modeAt i .stdout) = .ok (out, w') := by
  unfold openSinks at ho
  split at ho
  · cases ho
  · rename_i err' w₁ herr
    split at ho
    · cases ho
    · rename_i hout
      cases ho
      exact ⟨w₁, herr, hout⟩

theorem openSinks_eq_error {ω : Type} [FileStore ω] {w w' : ω} {e : Refusal}
    (ho : openSinks w p i = (.error e, w')) :
    openSink w (p.targetAt? i .stderr) (Pipeline.modeAt i .stderr) = .error e ∧ w' = w ∨
      ∃ err w₁, openSink w (p.targetAt? i .stderr) (Pipeline.modeAt i .stderr) = .ok (err, w₁) ∧
        openSink w₁ (p.targetAt? i .stdout) (Pipeline.modeAt i .stdout) = .error e ∧
          w' = err.abandon w₁ := by
  unfold openSinks at ho
  split at ho
  · rename_i herr
    cases ho
    exact .inl ⟨herr, rfl⟩
  · rename_i err w₁ herr
    split at ho
    · rename_i hout
      cases ho
      exact .inr ⟨err, w₁, herr, hout, rfl⟩
    · cases ho

/-- What the file of a watched target holds when the stage `i` has opened it. -/
def startOf (h : Host) (x : Text) (i : Nat) (s : Stream) : Bytes :=
  if Pipeline.modeAt i s = .truncate then [] else (h.bytes? x).getD []

/-- The watched target stays apart from the other one. -/
theorem openSinks_watches (hr : h.Watches x (p.target? s.other)) (hx : p.target? s = some x)
    {out err : Sink} (ho : openSinks h p i = (.ok (out, err), h')) :
    h'.Watches x (p.target? s.other) := by
  obtain ⟨h₁, herr, hout⟩ := openSinks_eq_ok ho
  cases s with
  | stderr =>
    have hy : ∀ y, p.targetAt? i .stdout = some y → p.target? .stdout = some y :=
      fun y hy => Pipeline.target?_of_targetAt? hy
    rcases openSink_cases herr with ⟨hnone, -⟩ | ⟨y, d, hopened, hopen, -⟩
    · cases hx.symm.trans hnone
    · cases hx.symm.trans hopened
      exact (openSink_other (hr.opened_own hopen) hy hout).1
  | stdout =>
    have hy : ∀ y, p.targetAt? i .stderr = some y → p.target? .stderr = some y := fun y hy => hy
    have hr₁ := (openSink_other hr hy herr).1
    rcases openSink_cases hout with ⟨-, -, rfl⟩ | ⟨y, d, hopened, hopen, -⟩
    · exact hr₁
    · cases hx.symm.trans (Pipeline.target?_of_targetAt? hopened)
      exact hr₁.opened_own hopen

/-- A stage that has the watched target gathers in it. -/
theorem openSinks_gathers (hr : h.Watches x (p.target? s.other)) {t : Task}
    (haim : p.targetAt? i s = some x) (plain : ∀ device, h.entry? x ≠ some (.device device))
    (ho : openSinks h p i = (.ok (t.stdout.sink, t.stderr.sink), h')) :
    ∃ n, h'.number? x = some n ∧ t.Gathers s h' n (startOf h x i s) := by
  obtain ⟨h₁, herr, hout⟩ := openSinks_eq_ok ho
  cases s with
  | stderr =>
    rw [haim] at herr
    rcases openSink_cases herr with ⟨hnone, -⟩ | ⟨y, d, hy, hopen, hk⟩
    · cases hnone
    · cases hy
      have hr₁ := hr.opened_own hopen
      have hy : ∀ y, p.targetAt? i .stdout = some y → p.target? .stdout = some y :=
        fun y hy => Pipeline.target?_of_targetAt? hy
      obtain ⟨n, hn, hg⟩ :=
        gathers_of_openTarget hr.sound hopen (Pipeline.modeAt_ne_update i _) plain
      rw [← hk] at hg
      obtain ⟨hn', hg', hapart⟩ := gathers_beside hr₁ hn hg hy hout
      exact ⟨n, hn', hg', hapart⟩
  | stdout =>
    have hy : ∀ y, p.targetAt? i .stderr = some y → p.target? .stderr = some y := fun y hy => hy
    obtain ⟨hr₁, hlook, helse⟩ := openSink_other hr hy herr
    have hentry : h₁.entry? x = h.entry? x := congrArg Prod.fst hlook
    have hbytes : h₁.bytes? x = h.bytes? x := congrArg Prod.snd hlook
    rw [haim] at hout
    rcases openSink_cases hout with ⟨hnone, -⟩ | ⟨y, d, hy', hopen, hk⟩
    · cases hnone
    · cases hy'
      rw [← hentry] at plain
      obtain ⟨n, hn, hg⟩ :=
        gathers_of_openTarget hr₁.sound hopen (Pipeline.modeAt_ne_update i _) plain
      rw [← hk, hbytes] at hg
      -- the descriptor of the error output is older than the new one
      have hne : ∀ d', t.stderr.sink.descriptor? = some d' → d' ≠ d := by
        intro d' hd'
        rcases openSink_cases herr with ⟨-, hk', -⟩ | ⟨y, d'', -, hopen', hk'⟩
        · rw [hk'] at hd'
          cases hd'
        · rw [hk'] at hd'
          cases hd'
          obtain ⟨-, l, -, hopened, -⟩ := Host.openTarget_eq_ok hopen hr₁.sound
          obtain ⟨entry, -, -, hfile⟩ := Host.openFile?_of_openTarget hr.sound hopen'
          have hlt := FileTree.lt_of_openFile? hfile
          rw [hopened.descriptor]
          exact Nat.ne_of_lt hlt
      have helse' : t.stderr.sink.Elsewhere h' x := fun d' hd' =>
        (helse d' hd').opened hr₁.sound hopen (hne d' hd') (.inl rfl)
      refine ⟨n, hn, hg, helse'.apart hn fun d' hd' hd => ?_⟩
      have hown : t.stdout.sink.descriptor? = some d := by
        rw [hk]
        rfl
      exact hne d' hd' (Option.some.inj (hd.symm.trans hown))

/-- A stage that does not have the watched target leaves it alone. -/
theorem openSinks_beside (hr : h.Watches x (p.target? s.other)) (hx : p.target? s = some x)
    {t : Task} (hnone : p.targetAt? i s = none)
    (ho : openSinks h p i = (.ok (t.stdout.sink, t.stderr.sink), h')) :
    h'.look x = h.look x ∧ ∀ z, (t.drain z).sink.Elsewhere h' x := by
  cases s with
  | stderr =>
    rw [show p.targetAt? i .stderr = p.target? .stderr from rfl, hx] at hnone
    cases hnone
  | stdout =>
    obtain ⟨h₁, herr, hout⟩ := openSinks_eq_ok ho
    have hy : ∀ y, p.targetAt? i .stderr = some y → p.target? .stderr = some y := fun y hy => hy
    obtain ⟨-, hlook, helse⟩ := openSink_other hr hy herr
    rw [hnone] at hout
    rcases openSink_cases hout with ⟨-, hk, rfl⟩ | ⟨y, d, hy, -⟩
    · refine ⟨hlook, fun z => ?_⟩
      cases z with
      | stdout =>
        intro d hd
        have hd' : t.stdout.sink.descriptor? = some d := hd
        rw [hk] at hd'
        cases hd'
      | stderr => exact helse
    · cases hy

/-- A launch that is refused leaves the watched target alone, unless it has emptied it. -/
theorem openSinks_refused (hr : h.Watches x (p.target? s.other)) (hx : p.target? s = some x)
    {e : Refusal} (ho : openSinks h p i = (.error e, h')) :
    h'.Watches x (p.target? s.other) ∧
      ((s = .stderr → i ≠ 0 ∧ ∃ n, h.number? x = some n) → h'.look x = h.look x) := by
  rcases openSinks_eq_error ho with ⟨-, rfl⟩ | ⟨err, h₁, herr, -, rfl⟩
  · exact ⟨hr, fun _ => rfl⟩
  have hw : h₁.Wrote err.descriptor?.toList (err.abandon h₁) :=
    Sink.abandon_within err.keeps_wrote h₁
  cases s with
  | stdout =>
    have hy : ∀ y, p.targetAt? i .stderr = some y → p.target? .stderr = some y := fun y hy => hy
    obtain ⟨hr₁, hlook, helse⟩ := openSink_other hr hy herr
    refine ⟨hr₁.wrote hw, fun _ => Eq.trans (hw.look fun d hd => ?_) hlook⟩
    exact helse d (Option.mem_toList.1 hd)
  | stderr =>
    rw [show p.targetAt? i .stderr = p.target? .stderr from rfl, hx] at herr
    rcases openSink_cases herr with ⟨hnone, -⟩ | ⟨y, d, hy, hopen, rfl⟩
    · cases hnone
    · cases hy
      refine ⟨(hr.opened_own hopen).wrote hw, fun hkeep => ?_⟩
      obtain ⟨hi, n, hn⟩ := hkeep rfl
      have hn' := Host.number?_of_openTarget hr.sound hopen hn
      have hmode : Pipeline.modeAt i .stderr = .append := if_neg hi
      rw [hmode] at hopen
      obtain ⟨-, hcontent⟩ := Host.atEnd_of_openTarget hr.sound hopen nofun hn'
      have hlook : h₁.look x = h.look x := by
        unfold Host.look Host.bytes?
        rw [Host.number?_eq_some_iff.1 hn, Host.number?_eq_some_iff.1 hn', hn, hn', Option.map_some,
          Option.map_some, hcontent, Host.bytes?, hn]
        rfl
      exact (Host.look_close h₁ d x).trans hlook

end Stage

end Orchestrator

end Relay
