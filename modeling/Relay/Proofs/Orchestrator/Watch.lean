import Relay.Proofs.Orchestrator.Opening

/-!
# A redirect target during a run

A run is watched from an idle state on, with an eye on the redirect target `x` of one output.  The
target goes through phases (`Watch`):

* no stage that has the target was launched, and the target is as it was before the run;
* the stage at work gathers in the target, behind the parts of the stages before it;
* all stages launched so far are over, and the target holds their parts and nothing else.

Two phases have no way back: the target may be a device, which holds nothing, and a run that cannot
even launch its first stage may have emptied the target of the error output and touches no target
again.  Every deed keeps to these phases (`Watch.concat`), so a history does (`Inv.watch`), provided
that programs leave the target and the open redirect files alone (`Spares`).
-/

namespace Relay.Orchestrator

/-! ## One run -/

section Run

variable {ω : Type} [FileStore ω]

/-- A history from an idle state on, in which no more than one run began. -/
structure Run (o : Orchestrator ω) (ts : List (Transition ω)) (o' : Orchestrator ω) : Prop where
  history : History o ts o'
  idle : o.running = false
  once : o'.generation ≤ o.generation + 1

/-- Where the tasks stand that were launched since the idle state `o`: the first of them is the
first stage of the run, and so on. -/
structure Placed (o o' : Orchestrator ω) : Prop where
  older : o.tasks.length ≤ o'.tasks.length
  index : ∀ j t, o'.tasks[o.tasks.length + j]? = some t → t.index = j
  generation : o.generation ≤ o'.generation
  /-- Before the run begins nothing is launched. -/
  before : o'.generation = o.generation → o'.running = false ∧ o'.tasks.length = o.tasks.length
  begun : o'.running = true → o.tasks.length < o'.tasks.length

omit [FileStore ω] in
theorem Placed.refl {o : Orchestrator ω} (hrun : o.running = false) : Placed o o := by
  refine ⟨Nat.le_refl _, fun j t ht => ?_, Nat.le_refl _, fun _ => ⟨hrun, rfl⟩, fun h => ?_⟩
  · rw [List.getElem?_eq_none (Nat.le_add_right _ _)] at ht
    cases ht
  · rw [hrun] at h
    cases h

variable {o m o' : Orchestrator ω} {s : Step ω}

omit [FileStore ω] in
theorem Placed.of_isNext (h : Placed o m) {i : Nat} (hn : m.IsNext o' i)
    (hgen : o'.generation ≤ o.generation + 1) :
    o.tasks.length + i = m.tasks.length ∧ o'.generation = o.generation + 1 := by
  rcases hn with ⟨-, hg, rfl⟩ | ⟨hrun, hg, t, ht, rfl⟩
  · have hle := h.generation
    obtain ⟨-, hlen⟩ := h.before (by omega)
    omega
  · have hlt := h.begun hrun
    have hlast : m.tasks[o.tasks.length + (m.tasks.length - 1 - o.tasks.length)]? = some t := by
      rw [List.getLast?_eq_getElem?] at ht
      rw [← ht]
      congr 1
      omega
    have hindex := h.index _ t hlast
    have hne : m.generation ≠ o.generation := by
      intro heq
      rw [(h.before heq).1] at hrun
      cases hrun
    have hle := h.generation
    omega

omit [FileStore ω] in
theorem Placed.calm (h : Placed o m) (hc : m.Calm o') (hlen : o'.tasks.length = m.tasks.length)
    (hindex : ∀ (i : Nat) (t' : Task), o'.tasks[i]? = some t' →
      ∃ t : Task, m.tasks[i]? = some t ∧ t'.index = t.index) :
    Placed o o' := by
  refine ⟨by rw [hlen]; exact h.older, fun j t' ht' => ?_, ?_, fun hg => ?_, fun hrun => ?_⟩
  · obtain ⟨t, ht, hsame⟩ := hindex _ t' ht'
    rw [hsame]
    exact h.index j t ht
  · rw [hc.generation]
    exact h.generation
  · rw [hc.generation] at hg
    obtain ⟨hrun, hsame⟩ := h.before hg
    exact ⟨hc.idle hrun, hlen.trans hsame⟩
  · rw [hlen]
    exact h.begun (hc.running hrun)

theorem Placed.concat (h : Placed o m) (hd : m.Deed s o')
    (hgen : o'.generation ≤ o.generation + 1) : Placed o o' := by
  cases hd with
  | rest calm ht =>
    refine h.calm calm (congrArg List.length ht) fun i t hi => ⟨t, ?_, rfl⟩
    rw [← ht]
    exact hi
  | @work _ _ pre t signal calm hbefore _ hafter =>
    have hcall := t.call_step m.world signal
    refine h.calm calm ?_ fun i t' hi => ?_
    · rw [hbefore, hafter, List.length_append, List.length_append]
      rfl
    · rw [hafter] at hi
      rw [hbefore]
      rcases of_getElem?_concat hi with ⟨hlt, hi⟩ | ⟨rfl, rfl⟩
      · rw [List.getElem?_append_left hlt]
        exact ⟨t', hi, rfl⟩
      · rw [List.getElem?_concat_length]
        exact ⟨t, rfl, congrArg Call.index hcall⟩
  | disturb => exact h.calm ⟨rfl, id⟩ rfl fun _ t hi => ⟨t, hi, rfl⟩
  | @launch _ _ i t _ hnext _ _ htasks hindex =>
    obtain ⟨hi, hg⟩ := h.of_isNext hnext hgen
    have hlen : o'.tasks.length = m.tasks.length + 1 := by
      rw [htasks, List.length_append, List.length_singleton]
    have hle := h.older
    refine ⟨by omega, fun j t' ht' => ?_, by omega, fun heq => by omega, fun _ => by omega⟩
    rw [htasks] at ht'
    rcases of_getElem?_concat ht' with ⟨-, ht'⟩ | ⟨heq, rfl⟩
    · exact h.index j t' ht'
    · rw [hindex]
      omega
  | refuse _ hnext _ _ htasks hended =>
    obtain ⟨-, hg⟩ := h.of_isNext hnext hgen
    refine ⟨by rw [htasks]; exact h.older, fun j t' ht' => ?_, by omega, fun heq => by omega,
      fun hrun => ?_⟩
    · rw [htasks] at ht'
      exact h.index j t' ht'
    · rw [hended] at hrun
      cases hrun

end Run

/-! ## The watched target -/

/-- Programs change files, but neither the watched target nor the redirect files that are open, and
the target stays apart from that of the other output. -/
structure Spares (o : Orchestrator Host) (s : Stream) (x : Text) (h : Host) : Prop where
  sound : h.files.Sound
  look : h.look x = o.world.look x
  different : ∀ y, o.pipeline.target? s.other = some y → o.world.Different x y → h.Different x y
  opened : ∀ t ∈ o.tasks, t.outcome? = none → ∀ z d, (t.drain z).sink.descriptor? = some d →
    h.files.openFile? d = o.world.files.openFile? d

/-- Whenever programs change files during a history, they spare the target. -/
def Undisturbed (s : Stream) (x : Text) (ts : List (Transition Host)) : Prop :=
  ∀ t ∈ ts, ∀ w, t.step = .disturb w → t.before.Spares s x w

/-- A schedule in which programs change nothing spares every target. -/
theorem undisturbed_follow {o : Orchestrator Host} {ss : List (Step Host)}
    (h : ∀ w, Step.disturb w ∉ ss) (s : Stream) (x : Text) : Undisturbed s x (o.follow ss).1 := by
  intro t ht w hw
  have hmem := step_mem_of_follow ht
  rw [hw] at hmem
  exact absurd hmem (h w)

/-- Each part is what the worker at its place added, the first one the worker `first`. -/
def Parted (s : Stream) (ts : List (Transition Host)) (first : Nat) (parts : List Bytes) : Prop :=
  ∀ j b, parts[j]? = some b → Task.Part s (journal ts (first + j)) b

section Parted

variable {s : Stream} {ts : List (Transition Host)} {first : Nat} {parts : List Bytes}

theorem Parted.nil : Parted s ts first [] := nofun

theorem Parted.later (h : Parted s ts first parts) {t : Transition Host}
    (hs : ∀ i, i < first + parts.length → t.notices i = []) :
    Parted s (ts ++ [t]) first parts := by
  intro j b hb
  have hlt := (List.getElem?_eq_some_iff.1 hb).1
  rw [journal_concat, hs _ (by omega), List.append_nil]
  exact h j b hb

theorem Parted.concat (h : Parted s ts first parts) {b : Bytes}
    (hb : Task.Part s (journal ts (first + parts.length)) b) :
    Parted s ts first (parts ++ [b]) := by
  intro j b' hb'
  rcases of_getElem?_concat hb' with ⟨-, hb'⟩ | ⟨rfl, rfl⟩
  · exact h j b' hb'
  · exact hb

end Parted

/-- How many tasks there are before the first one of a run that has the watched target; `o` is the
state from which the run is watched. -/
def spectators (o : Orchestrator Host) (s : Stream) : Nat := o.tasks.length + o.pipeline.firstOf s

/-- How far the watched target is. -/
inductive Watch (s : Stream) (x : Text) (o : Orchestrator Host) (ts : List (Transition Host))
    (m : Orchestrator Host) : Prop where
  /-- No stage that has the target was launched. -/
  | before (few : m.tasks.length ≤ o.spectators s) (look : m.world.look x = o.world.look x)
      (elsewhere : ∀ t ∈ m.tasks, t.outcome? = none → ∀ z, (t.drain z).sink.Elsewhere m.world x)
  /-- The stage at work gathers in the target. -/
  | gathering {us : List Task} {t : Task} {n : Nat} {parts : List Bytes} {b : Bytes}
      (tasks : m.tasks = us ++ [t]) (earlier : ∀ u ∈ us, u.outcome?.isSome = true)
      (undone : t.outcome? = none) (count : o.spectators s + parts.length = us.length)
      (number : m.world.number? x = some n) (parted : Parted s ts (o.spectators s) parts)
      (part : Task.Part s (journal ts us.length) b)
      (gathers : t.Gathers s m.world n (parts.flatten ++ b))
  /-- All stages launched so far are over, and the target holds their parts. -/
  | gathered {parts : List Bytes} (count : o.spectators s + parts.length = m.tasks.length)
      (nonempty : parts ≠ []) (quiescent : m.IsQuiescent)
      (parted : Parted s ts (o.spectators s) parts)
      (bytes : m.world.bytes? x = some parts.flatten)
  /-- A stage that has the target was launched, and the target is a device. -/
  | device (device : ∃ device, o.world.entry? x = some (.device device))
      (many : o.spectators s < m.tasks.length)
  /-- The run could not launch its first stage. -/
  | refused (stream : s = .stderr) (idle : m.running = false)
      (generation : m.generation = o.generation + 1) (bare : m.tasks.length = o.tasks.length)

section Watch

variable {s : Stream} {x : Text} {o m o' : Orchestrator Host} {ts : List (Transition Host)}
  {st : Step Host}

theorem Watch.calm (h : Watch s x o ts m) (hc : m.Calm o') (ht : o'.tasks = m.tasks)
    (hs : ∀ i, Transition.notices ⟨m, st, o'⟩ i = []) (hl : o'.world.look x = m.world.look x)
    (hrec : ∀ n, o'.world.number? x = some n → n < o'.world.files.records.length)
    (hopen : ∀ t ∈ m.tasks, t.outcome? = none → ∀ z d, (t.drain z).sink.descriptor? = some d →
      o'.world.files.openFile? d = m.world.files.openFile? d) :
    Watch s x o (ts ++ [⟨m, st, o'⟩]) o' := by
  have hbytes : o'.world.bytes? x = m.world.bytes? x := congrArg Prod.snd hl
  have hnumber : o'.world.number? x = m.world.number? x := by
    have hentry : o'.world.entry? x = m.world.entry? x := congrArg Prod.fst hl
    unfold Host.number?
    rw [hentry]
  have hjournal : ∀ i, journal (ts ++ [⟨m, st, o'⟩]) i = journal ts i := by
    intro i
    rw [journal_concat, hs, List.append_nil]
  cases h with
  | before few look elsewhere =>
    refine .before (by rw [ht]; exact few) (hl.trans look) fun t hmem hr z d hd f hf n hn => ?_
    rw [ht] at hmem
    rw [hopen t hmem hr z d hd] at hf
    rw [hnumber] at hn
    exact elsewhere t hmem hr z d hd f hf n hn
  | @gathering us t n parts b tasks earlier undone count number parted part gathers =>
    have hmem : t ∈ m.tasks := by
      rw [tasks]
      exact List.mem_append_right _ (List.mem_singleton_self t)
    have hn' := hnumber.trans number
    have hcontent : o'.world.files.content n = m.world.files.content n := by
      unfold Host.bytes? at hbytes
      rw [hn', number] at hbytes
      exact Option.some.inj hbytes
    refine .gathering (ht.trans tasks) earlier undone count hn'
      (parted.later fun i _ => hs i) (by rw [hjournal]; exact part)
      ⟨?_, gathers.apart.descriptor, fun d hd f hf => ?_⟩
    · exact gathers.own.of_same (hopen t hmem undone s) hcontent (hrec n hn')
    · rw [hopen t hmem undone s.other d hd] at hf
      exact gathers.apart.elsewhere d hd f hf
  | gathered count nonempty quiescent parted bytes =>
    refine .gathered (by rw [ht]; exact count) nonempty ?_ (parted.later fun i _ => hs i)
      (hbytes.trans bytes)
    intro t hmem
    rw [ht] at hmem
    exact quiescent t hmem
  | device device many => exact .device device (by rw [ht]; exact many)
  | refused stream idle generation bare =>
    exact .refused stream (hc.idle idle) (hc.generation.trans generation) (by rw [ht]; exact bare)

theorem Watch.work (h : Watch s x o ts m) (traces : Traces ts o.tasks.length m)
    (hc : m.Calm o') {us : List Task} {t : Task} {signal : Task.Signal}
    (hbefore : m.tasks = us ++ [t]) (hr : t.outcome? = none)
    (hafter : o'.tasks = us ++ [(t.step m.world signal).1])
    (hworld : o'.world = (t.step m.world signal).2)
    (htold : ∀ i, Transition.notices ⟨m, st, o'⟩ i =
      if i = us.length then t.notices m.world signal else []) :
    Watch s x o (ts ++ [⟨m, st, o'⟩]) o' := by
  have hstep := t.step_wrote m.world signal
  have hw : m.world.Wrote t.descriptors o'.world := by
    rw [hworld]
    exact hstep.world
  have hlen : o'.tasks.length = m.tasks.length := by
    rw [hbefore, hafter, List.length_append, List.length_append]
    rfl
  have hmem : t ∈ m.tasks := by
    rw [hbefore]
    exact List.mem_append_right _ (List.mem_singleton_self t)
  cases h with
  | before few look elsewhere =>
    refine .before (by rw [hlen]; exact few) (Eq.trans (hw.look fun d hd => ?_) look)
      fun u hu hur z d hd => ?_
    · obtain ⟨z, hz⟩ := Task.mem_descriptors.1 hd
      exact elsewhere t hmem hr z d hz
    · refine hw.elsewhere ?_
      rw [hafter] at hu
      rcases List.mem_append.1 hu with hu | hu
      · refine elsewhere u ?_ hur z d hd
        rw [hbefore]
        exact List.mem_append_left _ hu
      · rw [List.mem_singleton.1 hu] at hd
        unfold Sink.descriptor? at hd
        rw [hstep.identity] at hd
        exact elsewhere t hmem hr z d hd
  | @gathering us' t' n parts _ tasks earlier undone count number parted part gathers =>
    obtain ⟨rfl, htt⟩ := List.append_inj' (hbefore.symm.trans tasks) rfl
    obtain rfl : t = t' := (List.cons.inj htt).1
    have hplace : m.tasks[us.length]? = some t := by rw [hbefore, List.getElem?_concat_length]
    have hold : o.tasks.length ≤ us.length := by
      have hle : o.tasks.length ≤ o.spectators s := Nat.le_add_right _ _
      omega
    obtain ⟨t₀, new, hargv, hcall, htold₀⟩ := traces.traced us.length t hold hplace
    have hargv' : t.argv ≠ [] := by
      rw [show t.argv = t₀.argv from congrArg Call.argv hcall]
      exact hargv
    have hlog : journal (ts ++ [⟨m, st, o'⟩]) us.length =
        journal ts us.length ++ t.notices m.world signal := by
      rw [journal_concat, htold, if_pos rfl]
    have hn' : o'.world.number? x = some n := (hw.number? x).trans number
    have hparted : Parted s (ts ++ [⟨m, st, o'⟩]) (o.spectators s) parts :=
      parted.later fun i hi => by rw [htold, if_neg (by omega)]
    obtain ⟨b, hpart, ⟨hgoing, hgathers⟩ | ⟨hended, hcontent⟩⟩ :=
      gathers.step part htold₀ new hargv' hr signal
    · refine .gathering hafter earlier hgoing count hn' hparted (by rw [hlog]; exact hpart) ?_
      rw [hworld]
      exact hgathers
    · have hsome : parts ++ [b] ≠ [] := by simp
      refine .gathered ?_ hsome ?_ (hparted.concat ?_) ?_
      · rw [hafter, List.length_append, List.length_append]
        exact congrArg (· + 1) count
      · intro u hu
        rw [hafter] at hu
        rcases List.mem_append.1 hu with hu | hu
        · exact earlier u hu
        · rw [List.mem_singleton.1 hu]
          exact hended
      · rw [count, hlog]
        exact hpart
      · unfold Host.bytes?
        rw [hn', Option.map_some, hworld, hcontent, List.flatten_append]
        simp
  | gathered _ _ quiescent => exact absurd hr (quiescent.outcome?_ne_none hmem)
  | device device many => exact .device device (by rw [hlen]; exact many)
  | refused stream idle generation bare =>
    exact .refused stream (hc.idle idle) (hc.generation.trans generation) (hlen.trans bare)

/-- After a refused start nothing is launched any more. -/
theorem not_isNext_of_refused (idle : m.running = false)
    (generation : m.generation = o.generation + 1) (hgen : o'.generation ≤ o.generation + 1)
    {i : Nat} (hnext : m.IsNext o' i) : False := by
  rcases hnext with ⟨-, hg, -⟩ | ⟨hrun, -⟩
  · omega
  · exact Bool.false_ne_true (idle.symm.trans hrun)

theorem entry?_of_look_eq {h h' : Host} (hl : h'.look x = h.look x) : h'.entry? x = h.entry? x :=
  congrArg Prod.fst hl

section Launch

variable (h : Watch s x o ts m) (placed : Placed o m) (hp : m.pipeline = o.pipeline)
  (hx : o.pipeline.target? s = some x) (hr : m.world.Watches x (o.pipeline.target? s.other))
  (hgen : o'.generation ≤ o.generation + 1) {i : Nat} (hnext : m.IsNext o' i)
  (hs : ∀ j, Transition.notices ⟨m, st, o'⟩ j = [])
include h placed hp hx hr hgen hnext hs

theorem Watch.launch (traces : Traces ts o.tasks.length m) (hover : m.IsQuiescent)
    (hstage : i < m.pipeline.stages.length) {t : Task}
    (hopen : openSinks m.world m.pipeline i =
      (.ok (t.stdout.sink, t.stderr.sink), o'.world))
    (htasks : o'.tasks = m.tasks ++ [t]) (new : t.IsNew) :
    Watch s x o (ts ++ [⟨m, st, o'⟩]) o' := by
  obtain ⟨hi, -⟩ := placed.of_isNext hnext hgen
  rw [hp] at hstage hopen
  have hlen : o'.tasks.length = m.tasks.length + 1 := by
    rw [htasks, List.length_append, List.length_singleton]
  have hundone : t.outcome? = none := by
    unfold Task.outcome?
    rw [new.phase]
  have hlog : journal (ts ++ [⟨m, st, o'⟩]) m.tasks.length = [] := by
    rw [journal_concat, traces.ahead _ (Nat.le_refl _), hs]
    rfl
  -- the stage that gathers starts with nothing of its own
  have hstart : ∀ {n : Nat} {parts : List Bytes}, o.spectators s + parts.length = m.tasks.length →
      o'.world.number? x = some n → Parted s ts (o.spectators s) parts →
      t.Gathers s o'.world n parts.flatten → Watch s x o (ts ++ [⟨m, st, o'⟩]) o' := by
    intro n parts hcount hn hparted hg
    refine .gathering htasks hover hundone hcount hn (hparted.later fun j _ => hs j)
      (by rw [hlog]; exact Task.part_nil) ?_
    rw [List.append_nil]
    exact hg
  cases h with
  | before few look elsewhere =>
    have hle : i ≤ o.pipeline.firstOf s := by
      unfold spectators at few
      omega
    rcases Nat.lt_or_eq_of_le hle with hlt | heq
    · obtain ⟨hlook, helse⟩ := openSinks_beside hr hx (Pipeline.targetAt?_of_lt hlt) hopen
      refine .before ?_ (hlook.trans look) fun u hu hur z => ?_
      · rw [hlen]
        unfold spectators
        omega
      · rw [htasks] at hu
        rcases List.mem_append.1 hu with hu | hu
        · exact absurd hur (hover.outcome?_ne_none hu)
        · rw [List.mem_singleton.1 hu]
          exact helse z
    · have hfirst : o.spectators s = m.tasks.length := by
        unfold spectators
        omega
      by_cases hdevice : ∃ device, o.world.entry? x = some (.device device)
      · exact .device hdevice (by omega)
      · have haim := (Pipeline.targetAt?_of_ge hstage (Nat.le_of_eq heq.symm)).trans hx
        have hmode := Pipeline.modeAt_eq hstage (Nat.le_of_eq heq.symm)
        rw [if_pos heq] at hmode
        have hplain : ∀ device, m.world.entry? x ≠ some (.device device) := by
          intro device he
          rw [entry?_of_look_eq look] at he
          exact hdevice ⟨device, he⟩
        obtain ⟨n, hn, hg⟩ := openSinks_gathers hr haim hplain hopen
        rw [startOf, if_pos hmode] at hg
        have hcount : o.spectators s + ([] : List Bytes).length = m.tasks.length := hfirst
        exact hstart hcount hn Parted.nil hg
  | @gathering us t' _ _ _ tasks _ undone =>
    have hmem : t' ∈ m.tasks := by
      rw [tasks]
      exact List.mem_append_right _ (List.mem_singleton_self t')
    exact absurd undone (hover.outcome?_ne_none hmem)
  | @gathered parts count nonempty quiescent parted bytes =>
    have hpos := List.length_pos_iff.2 nonempty
    have hlt : o.pipeline.firstOf s < i := by
      unfold spectators at count
      omega
    have haim := (Pipeline.targetAt?_of_ge hstage (Nat.le_of_lt hlt)).trans hx
    have hmode := Pipeline.modeAt_eq hstage (Nat.le_of_lt hlt)
    rw [if_neg (Nat.ne_of_gt hlt)] at hmode
    obtain ⟨n, hn, -⟩ := Option.map_eq_some_iff.1 bytes
    have hplain : ∀ device, m.world.entry? x ≠ some (.device device) := by
      intro device he
      rw [Host.number?_eq_some_iff.1 hn] at he
      cases he
    obtain ⟨n', hn', hg⟩ := openSinks_gathers hr haim hplain hopen
    rw [startOf, if_neg (by rw [hmode]; nofun), bytes] at hg
    exact hstart count hn' parted hg
  | device device many => exact .device device (by omega)
  | refused _ idle generation =>
    exact (not_isNext_of_refused idle generation hgen hnext).elim

/-- A redirect target of the next stage cannot be opened. -/
theorem Watch.refuse (hover : m.IsQuiescent) {e : Refusal}
    (hopen : openSinks m.world m.pipeline i = (.error e, o'.world)) (htasks : o'.tasks = m.tasks)
    (hended : o'.running = false) : Watch s x o (ts ++ [⟨m, st, o'⟩]) o' := by
  obtain ⟨hi, hg⟩ := placed.of_isNext hnext hgen
  rw [hp] at hopen
  obtain ⟨-, hkeep⟩ := openSinks_refused hr hx hopen
  cases h with
  | before few look elsewhere =>
    by_cases hs' : s = .stderr
    · refine .refused hs' hended hg ?_
      have hzero : o.pipeline.firstOf s = 0 := by
        rw [hs']
        rfl
      have hle := placed.older
      unfold spectators at few
      rw [htasks]
      omega
    · refine .before (by rw [htasks]; exact few)
        ((hkeep fun heq => absurd heq hs').trans look) fun u hu hur => ?_
      rw [htasks] at hu
      exact absurd hur (hover.outcome?_ne_none hu)
  | @gathering us t' _ _ _ tasks _ undone =>
    have hmem : t' ∈ m.tasks := by
      rw [tasks]
      exact List.mem_append_right _ (List.mem_singleton_self t')
    exact absurd undone (hover.outcome?_ne_none hmem)
  | @gathered parts count nonempty quiescent parted bytes =>
    have hpos := List.length_pos_iff.2 nonempty
    obtain ⟨n, hn, -⟩ := Option.map_eq_some_iff.1 bytes
    have hlook := hkeep fun _ => by
      refine ⟨?_, n, hn⟩
      unfold spectators at count
      omega
    refine .gathered (by rw [htasks]; exact count) nonempty ?_ (parted.later fun j _ => hs j)
      ((congrArg Prod.snd hlook).trans bytes)
    intro u hu
    rw [htasks] at hu
    exact quiescent u hu
  | device device many => exact .device device (by rw [htasks]; exact many)
  | refused _ idle generation =>
    exact (not_isNext_of_refused idle generation hgen hnext).elim

end Launch

/-- Every deed keeps to the phases of the watched target. -/
theorem Watch.concat (h : Watch s x o ts m) (placed : Placed o m)
    (traces : Traces ts o.tasks.length m) (hp : m.pipeline = o.pipeline)
    (hx : o.pipeline.target? s = some x) (hr : m.world.Watches x (o.pipeline.target? s.other))
    (hgen : o'.generation ≤ o.generation + 1)
    (spared : ∀ w, st = .disturb w → m.Spares s x w) (hd : m.Deed st o') :
    o'.world.Watches x (o.pipeline.target? s.other) ∧ Watch s x o (ts ++ [⟨m, st, o'⟩]) o' := by
  cases hd with
  | rest hc ht hw hs =>
    rw [hw]
    refine ⟨hr, h.calm hc ht hs (by rw [hw]) (fun n hn => ?_) fun _ _ _ _ _ _ => by rw [hw]⟩
    rw [hw] at hn ⊢
    exact Host.lt_of_number? hr.sound hn
  | work signal hc hbefore hundone hafter hw htold =>
    refine ⟨?_, h.work traces hc hbefore hundone hafter hw htold⟩
    rw [hw]
    exact hr.wrote (Task.step_wrote _ _ _).world
  | disturb w =>
    have hspares := spared w rfl
    have hr' : w.Watches x (o.pipeline.target? s.other) := by
      refine ⟨hspares.sound, fun y hy => hspares.different y ?_ (hr.different y hy)⟩
      rw [hp]
      exact hy
    exact ⟨hr', h.calm ⟨rfl, id⟩ rfl (fun _ => rfl) hspares.look
      (fun n hn => Host.lt_of_number? hspares.sound hn) hspares.opened⟩
  | launch hover hnext hstage hopen htasks _ new _ hs =>
    refine ⟨?_, h.launch placed hp hx hr hgen hnext hs traces hover hstage hopen htasks new⟩
    rw [hp] at hopen
    exact openSinks_watches hr hx hopen
  | refuse hover hnext _ hopen htasks hended hs =>
    refine ⟨?_, h.refuse placed hp hx hr hgen hnext hs hover hopen htasks hended⟩
    rw [hp] at hopen
    exact (openSinks_refused hr hx hopen).1

/-- **A redirect target goes through its phases during every run.** -/
theorem Inv.watch (hinv : o.Inv) (hrun : o.running = false) (ht : History o ts m)
    (hgen : m.generation ≤ o.generation + 1) (hx : o.pipeline.target? s = some x)
    (hr : o.world.Watches x (o.pipeline.target? s.other))
    (spared : Undisturbed s x ts) :
    Placed o m ∧ m.world.Watches x (o.pipeline.target? s.other) ∧ Watch s x o ts m := by
  induction ht with
  | nil =>
    exact ⟨Placed.refl hrun, hr, .before (Nat.le_add_right _ _) rfl fun t hmem hundone =>
      absurd hundone ((hinv.isQuiescent_of_idle hrun).outcome?_ne_none hmem)⟩
  | @snoc ts m m' st ht hs ih =>
    obtain ⟨hinv', hmove⟩ := (hinv.history ht).next hs
    have hle := hmove.generation_le
    obtain ⟨placed, hr', hw⟩ := ih (by omega) fun t hmem => spared t (List.mem_append_left _ hmem)
    have hd := (hinv.history ht).deed hs
    have hspared : ∀ w, st = .disturb w → m.Spares s x w :=
      spared ⟨m, st, m'⟩ (List.mem_append_right _ (List.mem_singleton_self _))
    exact ⟨placed.concat hd hgen, hw.concat placed (hinv.traces ht)
      (hinv.pipeline_history ht).1 hx hr' hgen hspared hd⟩

end Watch

end Relay.Orchestrator
