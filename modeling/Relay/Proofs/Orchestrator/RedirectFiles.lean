import Relay.Proofs.Orchestrator.Watch

/-!
# The redirect files of a run

The target of the error output collects what all stages of the latest run wrote there
(`collected_of_run`).  That of the standard output is left alone until the last stage is launched,
and then it holds what that stage printed (`lastOnly_of_run`).  What goes to a file is not kept in
memory as well.

Both follow from the phases of a watched target (`Inv.watch`).  When the last stage opens its target
is a matter of single steps (`Deed.opens_iff`).
-/

namespace Relay.Orchestrator

/-! ## What outcomes keep in memory -/

section Memory

variable {ω : Type} [FileStore ω] {p : Pipeline} {settings : Settings} {world : ω}
  {o₀ o : Orchestrator ω} {ts : List (Transition ω)}

/-- An outcome is that of a worker of the run, and it keeps the lines of an output that the sink of
the worker accepted, unless they went to a redirect target. -/
theorem Inv.lines_of_outcome (h : o.Inv) (ht : Traces ts 0 o) {i : Nat} {r : Outcome}
    (hr : o.outcomes[i]? = some r) :
    ∃ j k, o.workers[j]? = some k ∧ k.generation = o.generation ∧ k.task.index = i ∧
      k.task.outcome? = some r ∧ ∀ s, r.lines s =
        if o.pipeline.targetAt? i s = none then Drain.accepted (Task.output s (journal ts j))
        else [] := by
  obtain ⟨k, hk, hg, hout, hcall⟩ := h.linked i r hr
  obtain ⟨j, hj⟩ := List.mem_iff_getElem?.1 (mem_workers_of_settled hk)
  have hi : (o.outcomes.take i).length = i :=
    List.length_take_of_le (Nat.le_of_lt (List.getElem?_eq_some_iff.1 hr).1)
  have hindex : k.task.index = (o.outcomes.take i).length := congrArg Call.index hcall
  have htask : o.tasks[j]? = some k.task := getElem?_tasks.2 ⟨k, hj, rfl⟩
  have htarget : ∀ s, (k.task.drain s).sink.target? = o.pipeline.targetAt? i s := by
    intro s
    have hsame : (k.task.drain s).sink.target? =
        o.pipeline.targetAt? (o.outcomes.take i).length s := by
      cases s with
      | stdout => exact congrArg Call.stdoutTarget hcall
      | stderr => exact congrArg Call.stderrTarget hcall
    rw [hsame, hi]
  refine ⟨j, k, hj, hg, hindex.trans hi, hout, fun s => ?_⟩
  rw [(ht.traced j _ (Nat.zero_le j) htask).lines hout s, htarget]

/-- Lines that went to a redirect target are not in memory. -/
theorem Inv.lines_eq_nil (h : o.Inv) (ht : Traces ts 0 o) {s : Stream} {x : Text}
    (hx : o.pipeline.target? s = some x) {i : Nat} {r : Outcome} (hr : o.outcomes[i]? = some r)
    (hi : o.pipeline.firstOf s ≤ i) : r.lines s = [] := by
  obtain ⟨j, k, -, -, -, -, hlines⟩ := h.lines_of_outcome ht hr
  obtain ⟨-, stage, hstage, -⟩ := h.placed hr
  have haim := Pipeline.targetAt?_of_ge (List.getElem?_eq_some_iff.1 hstage).1 hi
  rw [hlines, haim, hx]
  exact if_neg (Option.some_ne_none x)

theorem Inv.stderr_eq_nil (h : o.Inv) (ht : Traces ts 0 o) {e : Text}
    (he : o.pipeline.stderrTarget = some e) {r : Outcome} (hr : r ∈ o.outcomes) :
    r.stderr = [] := by
  obtain ⟨i, hi⟩ := List.mem_iff_getElem?.1 hr
  exact h.lines_eq_nil ht (s := .stderr) he hi (Nat.zero_le i)

theorem Inv.stdoutLines_eq_nil (h : o.Inv) (ht : Traces ts 0 o) {q : Text}
    (hq : o.pipeline.stdoutTarget = some q) : o.stdoutLines = [] := by
  unfold stdoutLines
  cases hfinal : o.finalOutcome? with
  | none => rfl
  | some r =>
    unfold Orchestrator.finalOutcome? at hfinal
    split at hfinal
    · cases hfinal
    · have hlast : r.index = o.pipeline.stages.length - 1 := by
        simpa using List.find?_some hfinal
      obtain ⟨i, hi⟩ := List.mem_iff_getElem?.1 (List.mem_of_find?_eq_some hfinal)
      have hindex := (h.placed hi).1
      exact h.lines_eq_nil ht (s := .stdout) hq hi (Nat.le_of_eq (hlast.symm.trans hindex))

end Memory

/-! ## The stages of a run -/

section Stages

variable {ω : Type}

/-- How many stages were launched since the state `o`. -/
def launchedSince (o' o : Orchestrator ω) : Nat := o'.tasks.length - o.tasks.length

/-- The task of the stage `i` of a run that is watched from the state `o` on. -/
def taskSince? (o' o : Orchestrator ω) (i : Nat) : Option Task := o'.tasks[o.tasks.length + i]?

def journalSince [FileStore ω] (ts : List (Transition ω)) (o : Orchestrator ω) (i : Nat) :
    List Task.Notice :=
  journal ts (o.tasks.length + i)

variable {o m o' : Orchestrator ω}

theorem exists_taskSince? {i : Nat} (hi : i < o'.launchedSince o) :
    ∃ t, o'.taskSince? o i = some t := by
  unfold launchedSince at hi
  exact ⟨_, List.getElem?_eq_getElem (by omega)⟩

/-- All tasks but the latest are over. -/
theorem Inv.over_of_lt (h : o.Inv) {i : Nat} {t : Task} (ht : o.tasks[i]? = some t)
    (hi : i + 1 < o.tasks.length) : t.outcome?.isSome = true := by
  cases hr : t.outcome? with
  | some r => rfl
  | none =>
    obtain ⟨k, hk, rfl⟩ := getElem?_tasks.1 ht
    obtain ⟨ks, hks, rfl⟩ := h.of_undone hk hr
    rw [tasks, hks, List.length_map, List.length_append, List.length_singleton] at hi
    exact absurd hi (Nat.lt_irrefl _)

theorem Placed.launchedSince_le (placed : Placed o m) (h : m.Inv) :
    m.launchedSince o ≤ m.pipeline.stages.length := by
  rcases Nat.eq_zero_or_pos (m.launchedSince o) with hzero | hpos
  · rw [hzero]
    exact Nat.zero_le _
  · have hlast : m.launchedSince o - 1 < m.launchedSince o := by omega
    obtain ⟨t, ht⟩ := exists_taskSince? hlast
    have hindex := placed.index _ t ht
    obtain ⟨k, hk, rfl⟩ := getElem?_tasks.1 ht
    obtain ⟨s, hs, -⟩ := (h.fits k (List.mem_of_getElem? hk)).stage
    have hlt := (List.getElem?_eq_some_iff.1 hs).1
    omega

end Stages

/-! ## When the last stage opens its target -/

section Opens

variable {h h' : Host} {q : Text} {y? : Option Text} {p : Pipeline} {i : Nat}

/-- The sink of another target opens nothing on the watched one, and closes nothing. -/
theorem not_opens_of_openSink {target? : Option Text} {mode : OpenMode} {k : Sink}
    (hr : h.Watches q y?) (hy : ∀ y, target? = some y → y? = some y)
    (ho : openSink h target? mode = .ok (k, h')) :
    ¬ h.Opens h' q ∧ h.files.openFiles.length ≤ h'.files.openFiles.length := by
  rcases openSink_cases ho with ⟨-, -, rfl⟩ | ⟨y, d, ht, hopen, -⟩
  · exact ⟨Host.not_opens_self _ q, Nat.le_refl _⟩
  · obtain ⟨-, l, -, hopened, -⟩ := Host.openTarget_eq_ok hopen hr.sound
    refine ⟨Host.not_opens_of_openTarget hr.sound (hr.different y (hy y ht)) hopen, ?_⟩
    rw [hopened.openFiles]
    exact Nat.le_succ _

/-- A stage opens the target of the standard output if and only if it is the last one. -/
theorem opens_of_openSinks (hr : h.Watches q p.stderrTarget) (hq : p.stdoutTarget = some q)
    {out err : Sink} (ho : openSinks h p i = (.ok (out, err), h')) :
    h.Opens h' q ↔ i + 1 = p.stages.length := by
  obtain ⟨h₁, herr, hout⟩ := openSinks_eq_ok ho
  obtain ⟨hnot, hle⟩ := not_opens_of_openSink hr (fun _ hy => hy) herr
  have hr₁ := (openSink_other hr (fun _ hy => hy) herr).1
  by_cases hi : i + 1 = p.stages.length
  · have haim : p.targetAt? i .stdout = some q := (if_pos hi).trans hq
    rw [haim] at hout
    rcases openSink_cases hout with ⟨hnone, -⟩ | ⟨y, d, hy, hopen, -⟩
    · cases hnone
    · cases hy
      exact iff_of_true (Host.opens_of_openTarget hr₁.sound hopen hle) hi
  · have haim : p.targetAt? i .stdout = none := if_neg hi
    rw [haim] at hout
    cases hout
    exact iff_of_false hnot hi

theorem not_opens_of_refused (hr : h.Watches q p.stderrTarget) {e : Refusal}
    (ho : openSinks h p i = (.error e, h')) : ¬ h.Opens h' q := by
  rcases openSinks_eq_error ho with ⟨-, rfl⟩ | ⟨err, h₁, herr, -, rfl⟩
  · exact Host.not_opens_self _ q
  · rcases openSink_cases herr with ⟨-, rfl, rfl⟩ | ⟨y, d, -, hopen, rfl⟩
    · exact Host.not_opens_self _ q
    · exact Host.not_opens_of_close hr.sound hopen q

variable {o m o' : Orchestrator Host} {st : Step Host} {ts : List (Transition Host)}

/-- A step opens the target of the standard output if and only if it launches the last stage. -/
theorem Deed.opens_iff (hd : m.Deed st o') (placed : Placed o m) (hp : m.pipeline = o.pipeline)
    (hq : o.pipeline.stdoutTarget = some q) (hr : m.world.Watches q o.pipeline.stderrTarget)
    (hgen : o'.generation ≤ o.generation + 1) (calm : ∀ w, st ≠ .disturb w) :
    m.world.Opens o'.world q ↔ m.launchedSince o < o'.launchedSince o ∧
      o'.launchedSince o = o.pipeline.stages.length := by
  have hsame : ¬ m.world.Opens o'.world q → o'.tasks.length = m.tasks.length →
      (m.world.Opens o'.world q ↔ m.launchedSince o < o'.launchedSince o ∧
        o'.launchedSince o = o.pipeline.stages.length) := by
    intro hnot hlen
    refine iff_of_false hnot fun hlt => ?_
    unfold launchedSince at hlt
    rw [hlen] at hlt
    exact Nat.lt_irrefl _ hlt.1
  cases hd with
  | rest _ ht hw =>
    refine hsame ?_ (congrArg List.length ht)
    rw [hw]
    exact Host.not_opens_self _ q
  | @work _ _ _ t signal _ hbefore _ hafter hw =>
    refine hsame ?_ ?_
    · rw [hw]
      exact (t.step_wrote m.world signal).world.not_opens q
    · rw [hbefore, hafter, List.length_append, List.length_append]
      rfl
  | disturb w => exact absurd rfl (calm w)
  | @launch _ _ i t _ hnext _ hopen htasks =>
    obtain ⟨hi, -⟩ := placed.of_isNext hnext hgen
    have hlen : o'.tasks.length = m.tasks.length + 1 := by
      rw [htasks, List.length_append, List.length_singleton]
    rw [hp] at hopen
    rw [opens_of_openSinks hr hq hopen]
    unfold launchedSince
    omega
  | refuse _ _ _ hopen ht =>
    rw [hp] at hopen
    exact hsame (not_opens_of_refused hr hopen) (congrArg List.length ht)

/-- No deed takes a task away. -/
theorem Deed.length_le {ω : Type} [FileStore ω] {m o' : Orchestrator ω} {st : Step ω}
    (hd : m.Deed st o') : m.tasks.length ≤ o'.tasks.length := by
  cases hd with
  | rest _ ht => exact Nat.le_of_eq (congrArg List.length ht).symm
  | work _ _ hbefore _ hafter =>
    rw [hbefore, hafter, List.length_append, List.length_append]
    exact Nat.le_refl _
  | disturb => exact Nat.le_refl _
  | launch _ _ _ _ ht =>
    rw [ht, List.length_append]
    exact Nat.le_add_right _ _
  | refuse _ _ _ _ ht => exact Nat.le_of_eq (congrArg List.length ht).symm

/-- During a run the target of the standard output is opened if and only if the last stage is
launched. -/
theorem Inv.opens_iff (hinv : o.Inv) (hrun : o.running = false) (ht : History o ts m)
    (hgen : m.generation ≤ o.generation + 1) (hq : o.pipeline.stdoutTarget = some q)
    (hr : o.world.Watches q o.pipeline.stderrTarget) (spared : Undisturbed .stdout q ts) :
    (∃ t ∈ ts, (∀ w, t.step ≠ .disturb w) ∧ t.before.world.Opens t.after.world q) ↔
      m.launchedSince o = o.pipeline.stages.length := by
  induction ht with
  | nil =>
    have hpos := List.length_pos_iff.2 ((Pipeline.isValid_iff _).1 hinv.valid).1
    unfold launchedSince
    refine iff_of_false (by simp) ?_
    omega
  | @snoc ts m m' st ht hs ih =>
    have hinv' := hinv.history ht
    have hle := (hinv'.next hs).2.generation_le
    have hspared : Undisturbed .stdout q ts := fun t hmem => spared t (List.mem_append_left _ hmem)
    obtain ⟨placed, hr', -⟩ := hinv.watch (s := .stdout) hrun ht (by omega) hq hr hspared
    have hd := hinv'.deed hs
    have hp := (hinv.pipeline_history ht).1
    have hlen := hd.length_le
    have hmost : m'.launchedSince o ≤ o.pipeline.stages.length := by
      rw [← (hinv.pipeline_history (ht.snoc hs)).1]
      exact (placed.concat hd hgen).launchedSince_le (hinv'.next hs).1
    have hlast : (∀ w, st ≠ .disturb w) ∧ m.world.Opens m'.world q ↔
        m.launchedSince o < m'.launchedSince o ∧
          m'.launchedSince o = o.pipeline.stages.length := by
      by_cases hcalm : ∀ w, st ≠ .disturb w
      · rw [← hd.opens_iff placed hp hq hr' hgen hcalm]
        exact and_iff_right hcalm
      · -- what programs do launches nothing
        refine iff_of_false (fun h => hcalm h.1) fun h => hcalm ?_
        rintro w rfl
        cases hs
        exact Nat.lt_irrefl _ h.1
    have hsplit : (∃ t ∈ ts ++ [⟨m, st, m'⟩], (∀ w, t.step ≠ .disturb w) ∧
        t.before.world.Opens t.after.world q) ↔
        m.launchedSince o = o.pipeline.stages.length ∨
          m.launchedSince o < m'.launchedSince o ∧
            m'.launchedSince o = o.pipeline.stages.length := by
      rw [← ih (by omega) hspared, ← hlast]
      simp only [List.mem_append, List.mem_singleton, or_and_right, exists_or, exists_eq_left]
    rw [hsplit]
    unfold launchedSince at hmost ⊢
    omega

end Opens

/-! ## The file of the error output -/

section Files

variable {p : Pipeline} {settings : Settings} {world : Host} {o₀ o o' : Orchestrator Host}
  {ts : List (Transition Host)} {e q : Text}

/-- What a run from the state `o` on makes of the target of the error output: each stage that was
launched has added its part. -/
structure Collected (e : Text) (o : Orchestrator Host) (ts : List (Transition Host))
    (o' : Orchestrator Host) (parts : List Bytes) : Prop where
  bytes : o'.world.bytes? e = some parts.flatten
  length : parts.length = o'.launchedSince o
  part : ∀ i b, parts[i]? = some b → Task.Part .stderr (journalSince ts o i) b
  /-- The stages were launched in the order of the pipeline. -/
  stage : ∀ i t, o'.taskSince? o i = some t → t.index = i

/-- When a run is over, the parts of its stages stand in the target of the error output. -/
theorem Run.collected (hrun : Run o ts o') (hinv : o.Inv) (he : o.pipeline.stderrTarget = some e)
    (started : 0 < o'.launchedSince o) (ended : o'.running = false)
    (hr : o.world.Watches e o.pipeline.stdoutTarget)
    (plain : ∀ device, o.world.entry? e ≠ some (.device device))
    (spared : Undisturbed .stderr e ts) : ∃ parts, Collected e o ts o' parts := by
  obtain ⟨placed, -, hw⟩ :=
    hinv.watch (s := .stderr) hrun.idle hrun.history hrun.once he hr spared
  have hfirst : o.spectators .stderr = o.tasks.length := rfl
  unfold launchedSince at started
  cases hw with
  | before few => omega
  | @gathering us t _ _ _ tasks _ undone =>
    have hover := (hinv.history hrun.history).isQuiescent_of_idle ended
    exact absurd undone (hover.outcome?_ne_none (by simp [tasks]))
  | @gathered parts count _ _ parted bytes =>
    have hlen : parts.length = o'.launchedSince o := by
      unfold launchedSince
      omega
    exact ⟨parts, bytes, hlen, parted, placed.index⟩
  | device device =>
    obtain ⟨device, hdevice⟩ := device
    exact absurd hdevice (plain device)
  | refused _ _ _ bare => omega

/-- **The file of the error output collects what the stages of the latest run wrote there, one after
another, and nothing else**, however the run ends: each stage that was launched adds its drained
lines, a killed one the first bytes of these.  No outcome keeps any of them. -/
theorem collected_of_run (h₀ : ofPipeline p settings world = .ok o₀)
    (he : p.stderrTarget = some e) :
    (∀ ts o, History o₀ ts o → ∀ r ∈ o.outcomes, r.stderr = []) ∧
      ∀ ts₀ o ts o', History o₀ ts₀ o → Run o ts o' → 0 < o'.launchedSince o →
        o'.running = false → o.world.Watches e p.stdoutTarget →
        (∀ device, o.world.entry? e ≠ some (.device device)) → Undisturbed .stderr e ts →
        ∃ parts, Collected e o ts o' parts := by
  refine ⟨fun ts o ht r hmem => ?_, fun ts₀ o ts o' ht hrun started ended hr plain spared => ?_⟩
  · obtain ⟨hinv, hp, -⟩ := inv_of_history h₀ ht
    exact hinv.stderr_eq_nil (traces_of_history h₀ ht) (hp ▸ he) hmem
  · obtain ⟨hinv, hp, -⟩ := inv_of_history h₀ ht
    exact hrun.collected hinv (hp ▸ he) started ended (hp ▸ hr) plain spared

/-! ### Two programs whose outputs go to files -/

/-- Neither redirect target of the two programs is there yet. -/
def filing : Orchestrator Host :=
  { pipeline :=
      { stages := [⟨[['a']]⟩, ⟨[['b']]⟩], stdoutTarget := some ['q'], stderrTarget := some ['e'] }
    world := {} }

theorem ofPipeline_filing : ofPipeline filing.pipeline {} filing.world = .ok filing := rfl

/-- A worker's program prints a line with one letter on each output and ends, the worker reports,
and the driver acts on it. -/
def printing (k d : Nat) (letter : UInt8) : List (Step Host) :=
  [.work k .launched, .work k (.printed .stdout [letter, 10]),
    .work k (.printed .stderr [letter, 10]), .work k (.fed (.ok ())), .work k (.ended .stdout),
    .work k (.ended .stderr), .work k (.exited (.ok 0)), .report k, .receive d, .act d]

/-- A first run. -/
def filled : List (Transition Host) × Orchestrator Host :=
  filing.follow (.start :: printing 0 0 97 ++ printing 1 0 98)

def refilled : List (Transition Host) × Orchestrator Host :=
  filled.2.follow (.start :: printing 2 1 99 ++ printing 3 1 100)

theorem run_refilled : Run filled.2 refilled.1 refilled.2 where
  history := history_follow _ _
  idle := by decide +kernel
  once := by decide +kernel

theorem different_filing : filing.world.Different ['q'] ['e'] := by
  have hq : filing.world.place? ['q'] = some [[113]] := by decide +kernel
  have he : filing.world.place? ['e'] = some [[101]] := by decide +kernel
  have hnone : filing.world.entry? ['q'] = none := by decide +kernel
  refine ⟨fun l hl => ?_, fun n hn => ?_, fun device hd => ?_⟩
  · rw [hq] at hl
    cases hl
    rw [he]
    decide
  · rw [Host.number?_eq_some_iff, hnone] at hn
    cases hn
  · rw [hnone] at hd
    cases hd

theorem watches_filled :
    filled.2.world.Watches ['e'] (some ['q']) ∧ filled.2.world.Watches ['q'] (some ['e']) := by
  have hinv := inv_of_ofPipeline ofPipeline_filing
  have hgen : filled.2.generation ≤ filing.generation + 1 := by decide +kernel
  have hspared : ∀ s x, Undisturbed s x filled.1 := undisturbed_follow (by simp [printing])
  have hother : ∀ x y, filing.world.Different x y → filing.world.Watches x (some y) := by
    refine fun x y hd => ⟨Host.sound_empty, ?_⟩
    rintro z ⟨⟩
    exact hd
  exact ⟨(hinv.watch (s := .stderr) rfl (history_follow _ _) hgen rfl
      (hother _ _ different_filing.symm) (hspared _ _)).2.1,
    (hinv.watch (s := .stdout) rfl (history_follow _ _) hgen rfl
      (hother _ _ different_filing) (hspared _ _)).2.1⟩

/-- The second run begins the file of the error output anew. -/
theorem collected_refilled :
    filled.2.world.bytes? ['e'] = some [97, 10, 98, 10] ∧
      ∃ parts, Collected ['e'] filled.2 refilled.1 refilled.2 parts ∧ parts.length = 2 ∧
        parts.flatten = [99, 10, 100, 10] := by
  have hspared : Undisturbed .stderr ['e'] refilled.1 := undisturbed_follow (by simp [printing]) _ _
  have hplain : ∀ device, filled.2.world.entry? ['e'] ≠ some (.device device) := by
    have he : filled.2.world.entry? ['e'] = some (.regular 0) := by decide +kernel
    rw [he]
    nofun
  obtain ⟨parts, hparts⟩ := (collected_of_run ofPipeline_filing rfl).2 filled.1
    filled.2 refilled.1 refilled.2 (history_follow _ _) run_refilled (by decide +kernel)
    (by decide +kernel) watches_filled.1 hplain hspared
  have hnow : refilled.2.world.bytes? ['e'] = some [99, 10, 100, 10] := by decide +kernel
  have htwo : refilled.2.launchedSince filled.2 = 2 := by decide +kernel
  exact ⟨by decide +kernel, parts, hparts, hparts.length.trans htwo,
    Option.some.inj (hparts.bytes.symm.trans hnow)⟩

/-! ## The file of the standard output -/

/-- What a run from the state `o` on makes of the target of the standard output. -/
structure LastOnly (q : Text) (o : Orchestrator Host) (ts : List (Transition Host))
    (o' : Orchestrator Host) : Prop where
  /-- Stages are launched one after another. -/
  earlier : ∀ i t, i + 1 < o'.launchedSince o → o'.taskSince? o i = some t →
    t.outcome?.isSome = true
  /-- Until the last one is launched, the target is as it was before the run. -/
  untouched : o'.launchedSince o < o.pipeline.stages.length → o'.world.look q = o.world.look q
  /-- The target is opened if and only if the last stage is launched. -/
  opened : (∃ t ∈ ts, (∀ w, t.step ≠ .disturb w) ∧ t.before.world.Opens t.after.world q) ↔
    o'.launchedSince o = o.pipeline.stages.length
  /-- Once the last stage is over and was not killed, the target holds its drained lines. -/
  holds : (∀ device, o.world.entry? q ≠ some (.device device)) → ∀ t,
    o'.taskSince? o (o.pipeline.stages.length - 1) = some t → t.outcome?.isSome = true →
    Task.wasKilled (journalSince ts o (o.pipeline.stages.length - 1)) = false →
    o'.world.bytes? q = some (Text.encodeLines (Drain.drained
      (Task.output .stdout (journalSince ts o (o.pipeline.stages.length - 1)))))

theorem Run.lastOnly (hrun : Run o ts o') (hinv : o.Inv) (hq : o.pipeline.stdoutTarget = some q)
    (hr : o.world.Watches q o.pipeline.stderrTarget) (spared : Undisturbed .stdout q ts) :
    LastOnly q o ts o' := by
  obtain ⟨placed, -, hw⟩ :=
    hinv.watch (s := .stdout) hrun.idle hrun.history hrun.once hq hr spared
  have hinv' := hinv.history hrun.history
  have hmost := placed.launchedSince_le hinv'
  rw [(hinv.pipeline_history hrun.history).1] at hmost
  have hpos := List.length_pos_iff.2 ((Pipeline.isValid_iff _).1 hinv.valid).1
  have hfirst : o.spectators .stdout = o.tasks.length + (o.pipeline.stages.length - 1) := rfl
  have hle := placed.older
  refine ⟨fun i t hi ht => ?_, fun hfew => ?_,
    hinv.opens_iff hrun.idle hrun.history hrun.once hq hr spared,
    fun plain t ht hover unkilled => ?_⟩
  · unfold launchedSince at hi
    exact hinv'.over_of_lt ht (by omega)
  · unfold launchedSince at hfew
    cases hw with
    | before _ look => exact look
    | gathering tasks _ _ count =>
      rw [tasks, List.length_append, List.length_singleton] at hfew
      omega
    | gathered count nonempty =>
      have hparts := List.length_pos_iff.2 nonempty
      omega
    | device _ many => omega
    | refused stream => cases stream
  · have hlt := (List.getElem?_eq_some_iff.1 ht).1
    unfold launchedSince at hmost
    cases hw with
    | before few => omega
    | @gathering us t' _ _ _ tasks _ undone count =>
      have hlen : o.tasks.length + (o.pipeline.stages.length - 1) = us.length := by
        rw [tasks, List.length_append, List.length_singleton] at hmost hlt
        omega
      unfold taskSince? at ht
      rw [hlen, tasks, List.getElem?_concat_length] at ht
      cases ht
      rw [undone] at hover
      cases hover
    | @gathered parts count nonempty _ parted bytes =>
      have hparts := List.length_pos_iff.2 nonempty
      obtain ⟨b, rfl⟩ := List.length_eq_one_iff.1 (show parts.length = 1 by omega)
      have hpart : Task.Part .stdout (journalSince ts o (o.pipeline.stages.length - 1)) b :=
        parted 0 b rfl
      unfold Task.Part at hpart
      rw [unkilled, if_neg Bool.false_ne_true] at hpart
      rw [bytes, hpart]
      simp
    | device device =>
      obtain ⟨device, hdevice⟩ := device
      exact absurd hdevice (plain device)
    | refused stream => cases stream

/-- **The target of the standard output is touched by launching the last stage only**, and holds
what this stage printed once it is over.  That is not kept in memory as well, while each of the
earlier outcomes keeps the lines that its own worker captured. -/
theorem lastOnly_of_run (h₀ : ofPipeline p settings world = .ok o₀)
    (hq : p.stdoutTarget = some q) :
    (∀ ts o, History o₀ ts o → o.stdoutLines = [] ∧
      ∀ i r, o.outcomes[i]? = some r → i + 1 < p.stages.length →
        ∃ j k, o.workers[j]? = some k ∧ k.generation = o.generation ∧ k.task.index = i ∧
          k.task.outcome? = some r ∧
          r.stdout = Drain.accepted (Task.output .stdout (journal ts j))) ∧
      ∀ ts₀ o ts o', History o₀ ts₀ o → Run o ts o' → o.world.Watches q p.stderrTarget →
        Undisturbed .stdout q ts → LastOnly q o ts o' := by
  refine ⟨fun ts o ht => ?_, fun ts₀ o ts o' ht hrun hr spared => ?_⟩
  · obtain ⟨hinv, hp, -⟩ := inv_of_history h₀ ht
    have htraces := traces_of_history h₀ ht
    refine ⟨hinv.stdoutLines_eq_nil htraces (hp ▸ hq), fun i r hr hi => ?_⟩
    obtain ⟨j, k, hk, hg, hindex, hout, hlines⟩ := hinv.lines_of_outcome htraces hr
    have haim : o.pipeline.targetAt? i .stdout = none := by
      rw [hp]
      exact if_neg (Nat.ne_of_lt hi)
    exact ⟨j, k, hk, hg, hindex, hout, (hlines .stdout).trans (if_pos haim)⟩
  · obtain ⟨hinv, hp, -⟩ := inv_of_history h₀ ht
    exact hrun.lastOnly hinv (hp ▸ hq) (hp ▸ hr) spared

/-- The second run prints into the file of the standard output what its last stage printed. -/
theorem lastOnly_refilled :
    filled.2.stdoutLines = [] ∧ filled.2.outcomes.map Outcome.stdout = [[['a']], []] ∧
      LastOnly ['q'] filled.2 refilled.1 refilled.2 ∧ refilled.2.launchedSince filled.2 = 2 ∧
      Task.wasKilled (journalSince refilled.1 filled.2 1) = false ∧
      refilled.2.world.bytes? ['q'] = some [100, 10] := by
  have hspared : Undisturbed .stdout ['q'] refilled.1 := undisturbed_follow (by simp [printing]) _ _
  exact ⟨((lastOnly_of_run ofPipeline_filing rfl).1 _ filled.2 (history_follow _ _)).1,
    by decide +kernel,
    (lastOnly_of_run ofPipeline_filing rfl).2 filled.1 filled.2 refilled.1 refilled.2
      (history_follow _ _) run_refilled watches_filled.2 hspared,
    by decide +kernel, by decide +kernel, by decide +kernel⟩

end Files

end Relay.Orchestrator
