import Relay.Proofs.Orchestrator.Deeds

/-!
# Guards that are never needed

A pipeline is checked once, when an orchestrator is made for it.  Launching nevertheless guards
against what the check rules out: it does nothing without a run in progress or without anybody who
expects completions, it ends a run that has no stage to begin with, and it has a name ready for a
stage that names no program.  A task without a program gives up.

`guarded_of_history` says that the check is the guard that counts.  It lets exactly the pipelines
through that launching relies on, and afterwards:

1. Launching is asked for in two places, by a start and by a driver, and only in states that are
   `Ready` (`Inv.ready_begun`, `AtWork.ready_record`).
2. In a ready state none of the guards is reached: `launchOr` may have anything at all in their
   places, and no step can tell the difference (`Ready.launchOr_eq`, `Inv.nextBy?_eq`).
3. Every task has a program, so none gives up (`Task.Traced.status_ne_noProgram`).
-/

namespace Relay

variable {ω : Type} [FileStore ω]

/-! ## Tasks with a program -/

namespace Task

theorem closingFailure?_ne_noProgram (log : List Notice) (s : Stream) :
    closingFailure? log s ≠ some .noProgram := by
  unfold closingFailure?
  simp

theorem firstFailure?_ne_noProgram (program : Text) (log : List Notice) :
    firstFailure? program log ≠ some .noProgram := by
  have hout := closingFailure?_ne_noProgram log .stdout
  have herr := closingFailure?_ne_noProgram log .stderr
  unfold firstFailure? transferFailure?
  simp [Option.or_eq_some_iff, hout, herr]

/-- A status that a failure takes the place of is that failure. -/
theorem failed_of_barring {f? : Option Failure} {s : Status} {f : Failure} (hs : s.isFailed = false)
    (h : Status.barring f? s = .failed f) : f? = some f := by
  cases f? with
  | none =>
    rw [Status.barring] at h
    rw [h] at hs
    cases hs
  | some g =>
    cases h
    rfl

omit [FileStore ω] in
theorem Traced.argv_ne_nil {t : Task} {log : List Notice} (h : Traced log t) : t.argv ≠ [] := by
  obtain ⟨t₀, -, hargv, hcall, -⟩ := h
  have hsame : t.argv = t₀.argv := congrArg Call.argv hcall
  rwa [hsame]

/-- A task that had a program from the start does not end for want of one. -/
theorem Traced.status_ne_noProgram {t : Task} {log : List Notice}
    (h : Traced log t) {r : Outcome} (hr : t.outcome? = some r) :
    r.status ≠ .failed .noProgram := by
  obtain ⟨t₀, new, -, -, ht⟩ := h
  intro hfailed
  rcases ht.outcome?_cases new with ⟨hnone, -⟩ | ⟨r', hr', judged⟩
  · rw [hr] at hnone
    cases hnone
  · obtain rfl : r' = r := Option.some.inj (hr'.symm.trans hr)
    rcases judged.status with ⟨-, hs⟩ | ⟨-, code, hs, -⟩
    · have hclosing := failed_of_barring rfl (hs.symm.trans hfailed)
      rcases Option.or_eq_some_iff.1 hclosing with hout | ⟨-, herr⟩
      · exact closingFailure?_ne_noProgram _ _ hout
      · exact closingFailure?_ne_noProgram _ _ herr
    · exact firstFailure?_ne_noProgram _ _ (failed_of_barring rfl (hs.symm.trans hfailed))

end Task

namespace Orchestrator

section Ready

omit [FileStore ω]

/-! ## Ready states -/

/-- What launching relies on. -/
structure Ready (o : Orchestrator ω) : Prop where
  running : o.running = true
  completions : o.completions.isSome = true
  /-- A stage is left, unless the run has had some and all of them are done. -/
  left : o.cursor < o.pipeline.stages.length ∨ o.cursor ≠ 0
  named : ∀ stage, o.pipeline.stages[o.cursor]? = some stage → stage.program?.isSome = true

theorem Inv.named {o : Orchestrator ω} (h : o.Inv) {i : Nat} {stage : Stage}
    (hs : o.pipeline.stages[i]? = some stage) : stage.program?.isSome = true := by
  obtain ⟨program, args, hargv⟩ := List.exists_cons_of_ne_nil (h.argv_ne_nil hs)
  rw [Stage.program?, hargv]
  rfl

/-- A start launches in a ready state, with the first stage under the cursor. -/
theorem Inv.ready_begun {o : Orchestrator ω} (h : o.Inv) : o.begun.Ready where
  running := rfl
  completions := rfl
  left := .inl (List.length_pos_of_ne_nil ((Pipeline.isValid_iff _).1 h.valid).1)
  named _ hs := h.named hs

/-- A driver launches in a ready state. -/
theorem AtWork.ready_record {o : Orchestrator ω} {ks : List Worker} {k : Worker} {ds : List Driver}
    {d : Driver} (hw : o.AtWork ks k ds d) (h : o.Inv) (r : Outcome) : (o.record r).Ready where
  running := hw.running
  completions := Option.isSome_iff_exists.2 ⟨_, hw.completions⟩
  left := .inr (by
    have hcursor : (o.record r).cursor = o.outcomes.length + 1 := hw.cursor
    omega)
  named _ hs := h.named hs

end Ready

/-! ## Launching without the guards -/

/-- In a ready state no guard is reached. -/
theorem Ready.launchOr_eq {o : Orchestrator ω} (h : o.Ready) (other : Launcher ω) (name : Text) :
    launchOr other name o = o.launchNext := by
  have hrun : ¬ (!o.running) = true := by rw [h.running]; decide
  obtain ⟨g, hc⟩ := Option.isSome_iff_exists.1 h.completions
  unfold launchNext launchOr
  rw [if_neg hrun, if_neg hrun]
  cases hs : o.pipeline.stages[o.cursor]? with
  | none =>
    have hcursor : o.cursor ≠ 0 := by
      rcases h.left with hlt | hne
      · exact absurd (List.getElem?_eq_none_iff.1 hs) (Nat.not_le.2 hlt)
      · exact hne
    simp only [if_neg hcursor]
  | some stage =>
    obtain ⟨program, hprogram⟩ := Option.isSome_iff_exists.1 (h.named stage hs)
    simp only [hc, hprogram, Option.getD_some]

/-! ## Every step -/

section Step

variable {o : Orchestrator ω} (h : o.Inv) {launch : Launcher ω}
  (hl : ∀ m : Orchestrator ω, m.Ready → launch m = m.launchNext)
include h hl

theorem Inv.startBy_eq : o.startBy launch = o.start := by
  have hbegun : launch o.begun = o.begun.launchNext := hl _ h.ready_begun
  unfold Orchestrator.start startBy
  unfold begun at hbegun
  simp only [hbegun]

theorem Inv.actBy_eq (i : Nat) : o.actBy launch i = o.act i := by
  unfold Orchestrator.act actBy
  cases he : o.drivers[i]? with
  | none => rfl
  | some e =>
    cases hc : e.inHand with
    | none => simp only [hc]
    | some c =>
      cases hcur : o.isCurrent e c with
      | false => simp only [hc, hcur, Bool.false_eq_true, if_false]
      | true =>
        obtain ⟨ks, k, ds, d, hw⟩ := h.atWork (running_of_isCurrent hcur)
        have hrecord : launch (o.record c.outcome) = (o.record c.outcome).launchNext :=
          hl _ (hw.ready_record h c.outcome)
        have hadvance : o.advanceBy launch c = o.advanceBy launchNext c := by
          unfold advanceBy
          rw [hrecord]
        simp only [hc, hcur, hadvance]

/-- A step asks for launching in ready states only, so nothing else of `launch` counts. -/
theorem Inv.nextBy?_eq (s : Step ω) : o.nextBy? launch s = o.next? s := by
  cases s with
  | start =>
    show (if o.isFree then some (o.startBy launch).2 else none) = _
    rw [h.startBy_eq hl, next?_start]
  | act i =>
    show (if o.isFree then some (o.actBy launch i) else none) = _
    rw [h.actBy_eq hl, next?_act]
  | _ => rfl

end Step

/-! ## All together -/

theorem Inv.running_of_start {o : Orchestrator ω} (h : o.Inv) (hok : o.start.1 = .ok ()) :
    o.start.2.running = true := by
  cases hrun : o.running with
  | true =>
    rw [start_of_running hrun] at hok
    cases hok
  | false =>
    rw [start_eq hrun] at hok ⊢
    rcases launchNext_cases (o := o.begun) rfl rfl with
      ⟨hlast, -⟩ | ⟨stage, e, world, -, -, hl⟩ | ⟨stage, out, err, world, -, -, hl⟩
    · rcases h.ready_begun.left with hlt | hne
      · exact absurd hlast (Nat.not_le.2 hlt)
      · exact absurd rfl hne
    · rw [hl] at hok
      cases hok
    · rw [hl]
      rfl

omit [FileStore ω] in
/-- Every outcome is that of a worker. -/
theorem Inv.exists_worker {o : Orchestrator ω} (h : o.Inv) {r : Outcome} (hr : r ∈ o.outcomes) :
    ∃ k ∈ o.workers, k.task.outcome? = some r := by
  obtain ⟨i, hi⟩ := List.mem_iff_getElem?.1 hr
  obtain ⟨k, hk, -, hout, -⟩ := h.linked i r hi
  exact ⟨k, mem_workers_of_settled hk, hout⟩

/-- **The check of a pipeline is the guard that launching needs**, and after it no other one is
reached.  It lets a pipeline through exactly if there are stages, each of them has a token, and no
redirect target is empty.  Whatever happens then, every task has a program and no outcome complains
of a missing one, a start that succeeds has a run in progress, and every step leads to the same
state whatever stands in the places of the guards. -/
theorem guarded_of_history (p : Pipeline) (settings : Settings) (world : ω) :
    ((∃ o, ofPipeline p settings world = .ok o) ↔
      p.stages ≠ [] ∧ (∀ s ∈ p.stages, s.argv ≠ []) ∧ p.stdoutTarget ≠ some [] ∧
        p.stderrTarget ≠ some []) ∧
    ∀ (o₀ o : Orchestrator ω) (ts : List (Transition ω)), ofPipeline p settings world = .ok o₀ →
      History o₀ ts o →
        (∀ k ∈ o.workers, k.task.argv ≠ [] ∧
          ∀ r, k.task.outcome? = some r → r.status ≠ .failed .noProgram) ∧
        (∀ r ∈ o.outcomes, r.status ≠ .failed .noProgram) ∧
        (o.start.1 = .ok () → o.start.2.running = true) ∧
        ∀ (other : Launcher ω) (name : Text), o.startBy (launchOr other name) = o.start ∧
          ∀ s, o.nextBy? (launchOr other name) s = o.next? s := by
  rw [← Pipeline.isValid_iff]
  refine ⟨⟨fun ⟨o, ho⟩ => (of_ofPipeline ho).1, fun hv => ?_⟩, ?_⟩
  · exact ⟨_, ofPipeline_of_isValid hv settings world⟩
  intro o₀ o ts h₀ ht
  obtain ⟨hinv, -, -⟩ := inv_of_history h₀ ht
  have htasks : ∀ k ∈ o.workers, k.task.argv ≠ [] ∧
      ∀ r, k.task.outcome? = some r → r.status ≠ .failed .noProgram := by
    intro k hk
    obtain ⟨i, hi⟩ := List.mem_iff_getElem?.1 hk
    have traced := (traces_of_history h₀ ht).traced i k.task (Nat.zero_le i)
      (getElem?_tasks.2 ⟨k, hi, rfl⟩)
    exact ⟨traced.argv_ne_nil, fun r hr => traced.status_ne_noProgram hr⟩
  refine ⟨htasks, fun r hr => ?_, hinv.running_of_start, fun other name => ?_⟩
  · obtain ⟨k, hk, hout⟩ := hinv.exists_worker hr
    exact (htasks k hk).2 r hout
  · have hl : ∀ m : Orchestrator ω, m.Ready → launchOr other name m = m.launchNext :=
      fun m hm => hm.launchOr_eq other name
    exact ⟨hinv.startBy_eq hl, hinv.nextBy?_eq hl⟩

/-! ### Guards that would be noticed -/

/-- Launching that answers an error wherever a guard is reached. -/
def launchOrFail : Launcher Host := launchOr (fun o => (.error .alreadyRunning, o)) ['?']

/-- The guard of launching without a run in progress is not `launchOrFail`'s; but it is not needed,
neither by a start nor by the driver that launches the second stage. -/
theorem guarded_rehearsal :
    let o := (rehearsal.follow (.start :: failing 0 ++ [.receive 0])).2
    (rehearsal.launchNext).1 = .ok () ∧ (launchOrFail rehearsal).1 = .error .alreadyRunning ∧
      rehearsal.startBy launchOrFail = rehearsal.start ∧
      o.nextBy? launchOrFail (.act 0) = o.next? (.act 0) ∧ (o.act 0).cursor = 2 := by
  obtain ⟨-, hguard⟩ := guarded_of_history rehearsal.pipeline {} rehearsal.world
  obtain ⟨-, -, -, hbegin⟩ := hguard _ _ _ ofPipeline_rehearsal .nil
  obtain ⟨-, -, -, hgo⟩ := hguard _ _ _ ofPipeline_rehearsal
    (history_follow rehearsal (.start :: failing 0 ++ [.receive 0]))
  exact ⟨rfl, rfl, (hbegin _ _).1, (hgo _ _).2 (.act 0), rfl⟩

end Orchestrator

end Relay
