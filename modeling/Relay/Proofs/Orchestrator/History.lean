import Relay.Orchestrator
import Relay.Proofs.Task
import Relay.Proofs.Validation

/-!
# Histories of an orchestrator

A history lists the transitions that lead from one state to another, in any order that `next?`
admits.  This module has the vocabulary in which histories are described: which stage a step tries
to launch and whether a redirect target cannot be opened for it (`launches?`, `refuses`).  It also
opens the functions behind `next?`, one lemma for each: `launchNext_cases` says everything that
launching can do, and `start_eq`, `act_of_current` and `act_of_stale` reduce a step to it; what they
leave alone say `launchNext_keeps`, `start_keeps` and `advance_keeps`.
-/

namespace Relay.Orchestrator

variable {ω : Type} [FileStore ω]

omit [FileStore ω] in
theorem of_ofPipeline {p : Pipeline} {settings : Settings} {world : ω} {o : Orchestrator ω}
    (h : ofPipeline p settings world = .ok o) :
    p.isValid = true ∧ o = { pipeline := p, settings, world } := by
  unfold ofPipeline at h
  cases hc : p.check with
  | error e =>
    rw [hc] at h
    cases h
  | ok q =>
    rw [hc] at h
    cases h
    obtain ⟨rfl, hv⟩ := Pipeline.isValid_of_check hc
    exact ⟨hv, rfl⟩

omit [FileStore ω] in
theorem ofPipeline_of_isValid {p : Pipeline} (h : p.isValid = true) (settings : Settings)
    (world : ω) : ofPipeline p settings world = .ok { pipeline := p, settings, world } := by
  unfold ofPipeline Pipeline.check
  rw [h]
  rfl

/-! ## Histories -/

/-- A step with the states before and after it. -/
structure Transition (ω : Type) where
  before : Orchestrator ω
  step : Step ω
  after : Orchestrator ω

/-- `History o ts o'`: the transitions `ts` lead from `o` to `o'`, one after another. -/
inductive History (o : Orchestrator ω) : List (Transition ω) → Orchestrator ω → Prop where
  | nil : History o [] o
  | snoc {ts : List (Transition ω)} {m o' : Orchestrator ω} {s : Step ω} :
      History o ts m → m.next? s = some o' → History o (ts ++ [⟨m, s, o'⟩]) o'

/-- What every step keeps, a history keeps. -/
theorem History.keeps {P : Orchestrator ω → Prop} {o o' : Orchestrator ω}
    {ts : List (Transition ω)} (h : History o ts o')
    (step : ∀ {m m' : Orchestrator ω} {s : Step ω}, P m → m.next? s = some m' → P m')
    (ho : P o) : P o' := by
  induction h with
  | nil => exact ho
  | snoc _ hs ih => exact step ih hs

theorem History.cons {o m o' : Orchestrator ω} {ts : List (Transition ω)} {s : Step ω}
    (hs : o.next? s = some m) (h : History m ts o') : History o (⟨o, s, m⟩ :: ts) o' := by
  induction h with
  | nil => exact .snoc .nil hs
  | snoc _ hs' ih => exact ih.snoc hs'

theorem History.trans {o m o' : Orchestrator ω} {ts us : List (Transition ω)}
    (h : History o ts m) (h' : History m us o') : History o (ts ++ us) o' := by
  induction h' with
  | nil => rwa [List.append_nil]
  | snoc _ hs ih =>
    rw [← List.append_assoc]
    exact ih.snoc hs

/-- The transitions of a schedule and the state that it leads to; a step that cannot be taken is
passed over. -/
def follow (o : Orchestrator ω) : List (Step ω) → List (Transition ω) × Orchestrator ω
  | [] => ([], o)
  | s :: rest =>
    match o.next? s with
    | none => o.follow rest
    | some m => (⟨o, s, m⟩ :: (m.follow rest).1, (m.follow rest).2)

theorem follow_cons_some {o m : Orchestrator ω} {s : Step ω} (hs : o.next? s = some m)
    (rest : List (Step ω)) :
    o.follow (s :: rest) = (⟨o, s, m⟩ :: (m.follow rest).1, (m.follow rest).2) := by
  rw [follow, hs]

theorem follow_cons_none {o : Orchestrator ω} {s : Step ω} (hs : o.next? s = none)
    (rest : List (Step ω)) : o.follow (s :: rest) = o.follow rest := by
  rw [follow, hs]

/-- Following any schedule gives a history. -/
theorem history_follow (o : Orchestrator ω) (ss : List (Step ω)) :
    History o (o.follow ss).1 (o.follow ss).2 := by
  induction ss generalizing o with
  | nil => exact .nil
  | cons s rest ih =>
    cases hs : o.next? s with
    | none =>
      rw [follow_cons_none hs]
      exact ih o
    | some m =>
      rw [follow_cons_some hs]
      exact (ih m).cons hs

theorem step_mem_of_follow {o : Orchestrator ω} {ss : List (Step ω)} {t : Transition ω}
    (h : t ∈ (o.follow ss).1) : t.step ∈ ss := by
  induction ss generalizing o with
  | nil => cases h
  | cons s rest ih =>
    cases hs : o.next? s with
    | none =>
      rw [follow_cons_none hs] at h
      exact List.mem_cons_of_mem _ (ih h)
    | some m =>
      rw [follow_cons_some hs] at h
      rcases List.mem_cons.1 h with rfl | h
      · exact List.mem_cons_self
      · exact List.mem_cons_of_mem _ (ih h)

/-! ### An orchestrator to look at -/

def rehearsal : Orchestrator Host :=
  { pipeline := { stages := [⟨[['a']]⟩, ⟨[['b']]⟩] }, world := {} }

theorem ofPipeline_rehearsal : ofPipeline rehearsal.pipeline {} rehearsal.world = .ok rehearsal :=
  rfl

/-- A worker's program cannot be started, and the worker reports. -/
def failing (k : Nat) : List (Step Host) := [.work k (.refused .nulInArgument), .report k]

/-! ## Launching -/

/-- The stage that a step tries to launch: a start the first one, a driver with a completion of the
current run the one under the cursor, if there is one left. -/
def launches? (o : Orchestrator ω) : Step ω → Option Nat
  | .start => if o.running then none else some 0
  | .act d => do
    let driver ← o.drivers[d]?
    let c ← driver.inHand
    if o.isCurrent driver c && decide (o.cursor < o.pipeline.stages.length) then some o.cursor
    else none
  | _ => none

/-- Whether a step tries to launch a stage and one of its redirect targets cannot be opened. -/
def refuses (o : Orchestrator ω) (s : Step ω) : Bool :=
  match o.launches? s with
  | some i => !(openSinks o.world o.pipeline i).1.isOk
  | none => false

section Refuses

variable {o : Orchestrator ω} {s : Step ω}

theorem refuses_of_launches?_eq_none (h : o.launches? s = none) : o.refuses s = false := by
  unfold refuses
  rw [h]

theorem refuses_of_openSinks {i : Nat} {w : ω} {r : Except Refusal (Sink × Sink)}
    (h : o.launches? s = some i) (hopen : openSinks o.world o.pipeline i = (r, w)) :
    o.refuses s = !r.isOk := by
  unfold refuses
  rw [h]
  simp only [hopen]

end Refuses

def stageTask (o : Orchestrator ω) (stage : Stage) (out err : Sink) : Task :=
  { index := o.cursor, argv := stage.argv, input := o.nextInput, stdout := { sink := out },
    stderr := { sink := err } }

def launched (o : Orchestrator ω) (stage : Stage) (out err : Sink) (world : ω) : Orchestrator ω :=
  (({ o with world }).employ (o.stageTask stage out err)).send
    (.started o.cursor (stage.program?.getD []))

/-- Everything that launching can do for a run: all stages are done, a redirect target cannot be
opened, or the stage under the cursor goes to work. -/
theorem launchNext_cases {o : Orchestrator ω} (hrun : o.running = true)
    {g : Nat} (hc : o.completions = some g) :
    (o.pipeline.stages.length ≤ o.cursor ∧ o.launchNext = (.ok (), o.reset true)) ∨
    (∃ stage e world, o.pipeline.stages[o.cursor]? = some stage ∧
      openSinks o.world o.pipeline o.cursor = (.error e, world) ∧
      o.launchNext = (.error e, { o with world })) ∨
    (∃ stage out err world, o.pipeline.stages[o.cursor]? = some stage ∧
      openSinks o.world o.pipeline o.cursor = (.ok (out, err), world) ∧
      o.launchNext = (.ok (), o.launched stage out err world)) := by
  have hn : ¬ (!o.running) = true := by rw [hrun]; decide
  unfold launchNext launchOr
  rw [if_neg hn]
  split
  · rename_i hs
    refine .inl ⟨List.getElem?_eq_none_iff.1 hs, ?_⟩
    split
    · simp [launchNone, hrun, hs]
    · rfl
  · rename_i hs hnone
    rw [hc] at hnone
    cases hnone
  · rename_i stage g' hs hg
    right
    split
    · rename_i e world ho
      exact .inl ⟨stage, e, world, hs, ho, rfl⟩
    · rename_i out err world ho
      exact .inr ⟨stage, out, err, world, hs, ho, rfl⟩

omit [FileStore ω] in
theorem launchNone_keeps (o : Orchestrator ω) :
    o.launchNone.2.drivers = o.drivers ∧ o.launchNone.2.outcomes = o.outcomes ∧
      o.launchNone.2.stopping = o.stopping := by
  unfold launchNone
  dsimp only
  split <;> exact ⟨rfl, rfl, rfl⟩

theorem launchNext_keeps (o : Orchestrator ω) :
    o.launchNext.2.drivers = o.drivers ∧ o.launchNext.2.outcomes = o.outcomes ∧
      o.launchNext.2.stopping = o.stopping := by
  unfold launchNext launchOr
  split
  · exact o.launchNone_keeps
  · split
    · split
      · exact o.launchNone_keeps
      · exact ⟨rfl, rfl, rfl⟩
    · exact o.launchNone_keeps
    · split <;> exact ⟨rfl, rfl, rfl⟩

/-! ## Starting -/

/-- The state in which a start launches the first stage. -/
def begun (o : Orchestrator ω) : Orchestrator ω :=
  { o with running := true, cursor := 0, generation := o.generation + 1, outcomes := [],
           completions := some (o.generation + 1), watched := true }

theorem next?_start (o : Orchestrator ω) :
    o.next? .start = if o.isFree then some o.start.2 else none := rfl

theorem next?_act (o : Orchestrator ω) (d : Nat) :
    o.next? (.act d) = if o.isFree then some (o.act d) else none := rfl

theorem start_of_running {o : Orchestrator ω} (h : o.running = true) :
    o.start = (.error .alreadyRunning, o) := by
  unfold start startBy
  rw [h]
  rfl

theorem start_eq {o : Orchestrator ω} (h : o.running = false) :
    o.start = match o.begun.launchNext with
      | (.error e, o) => (.error e, o.reset false)
      | (.ok (), o') =>
        (.ok (), { o' with drivers := o'.drivers ++ [Driver.of (o.generation + 1)] }) := by
  unfold start startBy
  rw [h]
  rfl

theorem start_keeps (o : Orchestrator ω) :
    (o.start.2.drivers = o.drivers ∨
      o.start.2.drivers = o.drivers ++ [Driver.of (o.generation + 1)]) ∧
      o.start.2.stopping = o.stopping := by
  cases hrun : o.running with
  | true =>
    rw [start_of_running hrun]
    exact ⟨.inl rfl, rfl⟩
  | false =>
    obtain ⟨hdrivers, -, hstop⟩ := o.begun.launchNext_keeps
    rw [start_eq hrun]
    split
    · rename_i heq
      rw [heq] at hdrivers hstop
      exact ⟨.inl hdrivers, hstop⟩
    · rename_i heq
      rw [heq] at hdrivers hstop
      exact ⟨.inr (congrArg (· ++ _) hdrivers), hstop⟩

/-! ## Drivers -/

theorem advance_eq (o : Orchestrator ω) (c : Completion) :
    o.advance c = match (o.record c.outcome).launchNext with
      | (.ok (), o) => o
      | (.error _, o) => o.reset false := rfl

/-- Advancing a run records the outcome, whether or not the run goes on. -/
theorem advance_keeps (o : Orchestrator ω) (c : Completion) :
    (o.advance c).drivers = o.drivers ∧ (o.advance c).outcomes = o.outcomes ++ [c.outcome] ∧
      (o.advance c).stopping = o.stopping := by
  have h := launchNext_keeps (o.record c.outcome)
  rw [advance_eq]
  split
  · rename_i heq
    rw [heq] at h
    exact h
  · rename_i heq
    rw [heq] at h
    exact h

omit [FileStore ω] in
theorem running_of_isCurrent {o : Orchestrator ω} {d : Driver} {c : Completion}
    (h : o.isCurrent d c = true) : o.running = true := by
  unfold isCurrent at h
  rw [Bool.and_eq_true, Bool.and_eq_true] at h
  exact h.1.1

theorem act_of_current {o : Orchestrator ω} {i : Nat} {d : Driver} {c : Completion}
    (hd : o.drivers[i]? = some d) (hc : d.inHand = some c) (h : o.isCurrent d c = true) :
    o.act i = { o.advance c with
      drivers := (o.advance c).drivers.set i
        (if (o.advance c).running then { d with inHand := none } else d.left) } := by
  unfold act actBy
  simp only [hd, hc, h, if_true]
  rfl

theorem act_of_stale {o : Orchestrator ω} {i : Nat} {d : Driver} {c : Completion}
    (hd : o.drivers[i]? = some d) (hc : d.inHand = some c) (h : o.isCurrent d c = false) :
    o.act i = { o with drivers := o.drivers.set i d.left } := by
  unfold act actBy
  simp only [hd, hc, h, Bool.false_eq_true, if_false]

theorem act_of_empty {o : Orchestrator ω} {i : Nat}
    (h : (o.drivers[i]?).bind Driver.inHand = none) : o.act i = o := by
  unfold act actBy
  cases hd : o.drivers[i]? with
  | none => rfl
  | some d =>
    rw [hd, Option.bind_some] at h
    simp only [h]

/-- What acting does: nothing without a completion in hand, and else the driver leaves or takes the
run further. -/
theorem act_cases (o : Orchestrator ω) (i : Nat) :
    ((o.drivers[i]?).bind Driver.inHand = none ∧ o.act i = o) ∨
    ∃ d c, o.drivers[i]? = some d ∧ d.inHand = some c ∧
      (o.isCurrent d c = false ∧ o.act i = { o with drivers := o.drivers.set i d.left } ∨
        o.isCurrent d c = true ∧ o.act i = { o.advance c with
          drivers := (o.advance c).drivers.set i
            (if (o.advance c).running then { d with inHand := none } else d.left) }) := by
  cases h : (o.drivers[i]?).bind Driver.inHand with
  | none => exact .inl ⟨rfl, act_of_empty h⟩
  | some c =>
    obtain ⟨d, hd, hc⟩ := Option.bind_eq_some_iff.1 h
    cases hcur : o.isCurrent d c with
    | false => exact .inr ⟨d, c, hd, hc, .inl ⟨hcur, act_of_stale hd hc hcur⟩⟩
    | true => exact .inr ⟨d, c, hd, hc, .inr ⟨hcur, act_of_current hd hc hcur⟩⟩

end Relay.Orchestrator
