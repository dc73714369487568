import Relay.Proofs.Orchestrator.Moves

/-!
# What callers find in the state

Callers look at the state while nobody holds the lock.  `Consistent` lists what they can rely on
then: the four signs of a run in progress agree, an idle orchestrator points at the first stage, a
running one has the stage before the cursor at work, and the outcomes are those of the first stages
in their order.  `consistent_of_history` proves it of every state that a new orchestrator can get
into, together with what no history changes.
-/

namespace Relay.Orchestrator

variable {ω : Type}

/-- What holds whenever nobody holds the lock. -/
structure Consistent (o : Orchestrator ω) : Prop where
  current : o.running = true ↔ o.current.isSome = true
  completions : o.running = true ↔ o.completions.isSome = true
  watched : o.running = true ↔ o.watched = true
  idle : o.running = false → o.cursor = 0
  cursor : o.running = true → 1 ≤ o.cursor ∧ o.cursor ≤ o.pipeline.stages.length
  /-- The worker at work is that of the stage before the cursor, and it belongs to this run. -/
  worker : o.running = true → ∃ (i : Nat) (k : Worker), o.current = some i ∧
    o.workers[i]? = some k ∧ k.task.index = o.cursor - 1 ∧ k.generation = o.generation
  recorded : o.running = true → o.outcomes.length = o.cursor - 1
  bounded : o.outcomes.length ≤ o.pipeline.stages.length
  /-- The outcomes are those of the first stages, in their order. -/
  placed : ∀ (i : Nat) (r : Outcome), o.outcomes[i]? = some r → r.index = i ∧
    ∃ s : Stage, o.pipeline.stages[i]? = some s ∧ r.argv = s.argv

/-! ## Outcomes -/

theorem Inv.placed {o : Orchestrator ω} (h : o.Inv) {i : Nat} {r : Outcome}
    (hr : o.outcomes[i]? = some r) :
    r.index = i ∧ ∃ s : Stage, o.pipeline.stages[i]? = some s ∧ r.argv = s.argv := by
  obtain ⟨k, hk, -, hout, hcall⟩ := h.linked i r hr
  have hfit := h.fits k (mem_workers_of_settled hk)
  have hi : i < o.outcomes.length := (List.getElem?_eq_some_iff.1 hr).1
  have hindex : k.task.index = i := by
    have hc : k.task.index = (o.outcomes.take i).length := congrArg Call.index hcall
    rw [hc, List.length_take_of_le (Nat.le_of_lt hi)]
  obtain ⟨hri, hra⟩ := hfit.own r hout
  obtain ⟨s, hs, hks⟩ := hfit.stage
  rw [hindex] at hs
  exact ⟨hri.trans hindex, s, hs, hra.trans hks⟩

theorem Inv.outcomes_le {o : Orchestrator ω} (h : o.Inv) :
    o.outcomes.length ≤ o.pipeline.stages.length := by
  rcases Nat.eq_zero_or_pos o.outcomes.length with h₀ | hpos
  · rw [h₀]
    exact Nat.zero_le _
  · have hlt : o.outcomes.length - 1 < o.outcomes.length := by omega
    obtain ⟨-, s, hs, -⟩ := h.placed (List.getElem?_eq_getElem hlt)
    have := (List.getElem?_eq_some_iff.1 hs).1
    omega

theorem Inv.outcomes_lt {o : Orchestrator ω} (h : o.Inv) {ks : List Worker} {k : Worker}
    {ds : List Driver} {d : Driver} (hw : o.AtWork ks k ds d) :
    o.outcomes.length < o.pipeline.stages.length := by
  obtain ⟨s, hs, -⟩ := (h.fits k hw.mem).stage
  rw [hw.index] at hs
  exact (List.getElem?_eq_some_iff.1 hs).1

/-! ## The state -/

theorem Idle.consistent {o : Orchestrator ω} (hi : o.Idle) (h : o.Inv) : o.Consistent where
  current := by rw [hi.running, hi.current]; simp
  completions := by rw [hi.running, hi.completions]; simp
  watched := by rw [hi.running, hi.watched]
  idle _ := hi.cursor
  cursor hrun := absurd (hi.running.symm.trans hrun) Bool.false_ne_true
  worker hrun := absurd (hi.running.symm.trans hrun) Bool.false_ne_true
  recorded hrun := absurd (hi.running.symm.trans hrun) Bool.false_ne_true
  bounded := h.outcomes_le
  placed _ _ hr := h.placed hr

theorem AtWork.consistent {o : Orchestrator ω} {ks : List Worker} {k : Worker} {ds : List Driver}
    {d : Driver} (hw : o.AtWork ks k ds d) (h : o.Inv) (hfree : o.isFree = true) :
    o.Consistent := by
  have hcur := (hw.current hfree).1
  have hlt := h.outcomes_lt hw
  have hcursor := hw.cursor
  refine ⟨?_, ?_, ?_, fun hrun => ?_, fun _ => ?_, fun _ => ?_, fun _ => ?_, h.outcomes_le,
    fun _ _ hr => h.placed hr⟩
  · rw [hw.running, hcur]
    simp
  · rw [hw.running, hw.completions]
    simp
  · rw [hw.running, hw.watched]
  · rw [hw.running] at hrun
    cases hrun
  · omega
  · refine ⟨ks.length, k, hcur, ?_, ?_, hw.generation⟩
    · rw [hw.workers]
      exact List.getElem?_concat_length
    · rw [hw.index, hcursor]
      rfl
  · omega

theorem Inv.consistent {o : Orchestrator ω} (h : o.Inv) (hfree : o.isFree = true) :
    o.Consistent := by
  rcases h.phase with hi | ⟨ks, k, ds, d, hw⟩
  · exact hi.consistent h
  · exact hw.consistent h hfree

variable [FileStore ω]

/-- **Whatever has happened to a new orchestrator, its state is consistent whenever nobody holds the
lock**, and no history changes the pipeline or the settings or turns the count of starts back. -/
theorem consistent_of_history {p : Pipeline} {settings : Settings} {world : ω}
    {o₀ o : Orchestrator ω} {ts : List (Transition ω)}
    (h₀ : ofPipeline p settings world = .ok o₀) (ht : History o₀ ts o) :
    (o.isFree = true → o.Consistent) ∧ o.pipeline = p ∧ o.settings = settings ∧
      ∀ ts' o', History o ts' o' →
        o'.pipeline = p ∧ o'.settings = settings ∧ o.generation ≤ o'.generation := by
  obtain ⟨hinv, hp, hs⟩ := inv_of_history h₀ ht
  refine ⟨hinv.consistent, hp, hs, fun ts' o' ht' => ?_⟩
  obtain ⟨hp', hs', hg'⟩ := hinv.pipeline_history ht'
  exact ⟨hp'.trans hp, hs'.trans hs, hg'⟩

/-- The state while the second of two programs runs. -/
theorem consistent_rehearsal :
    let o := (rehearsal.follow (.start :: failing 0 ++ [.receive 0, .act 0])).2
    o.running = true ∧ o.cursor = 2 ∧ o.Consistent :=
  ⟨rfl, rfl, (consistent_of_history ofPipeline_rehearsal (history_follow rehearsal _)).1 rfl⟩

end Relay.Orchestrator
