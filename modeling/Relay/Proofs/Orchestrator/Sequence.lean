import Relay.Proofs.Orchestrator.Chronicle

/-!
# A run is its stages one after another

`Pipeline.relay` runs the stages of a pipeline as a plain loop: the first stage reads nothing, each
later one what the stage before it printed.  `relay_of_history` says that a run which goes to its
end gives the same outcomes, whatever happened before it and in whatever order its steps were taken,
provided that what a stage hands back depends on its call only.

The invariant says which call every outcome comes from (`Inv.linked`), and this determines the
outcomes (`Pipeline.eq_relay`); the chronicle says that a run which was neither stopped nor refused
has an outcome for each stage.
-/

namespace Relay

namespace Pipeline

/-! ## Stages one after another -/

/-- The outcomes of stages that run one after another, from a position and an input on. -/
def relayFrom (p : Pipeline) (result : Call → Outcome) :
    List Stage → Nat → List Text → List Outcome
  | [], _, _ => []
  | s :: rest, i, input =>
    let r := result
      { index := i, argv := s.argv, input
        stdoutTarget := if rest.isEmpty then p.stdoutTarget else none
        stderrTarget := p.stderrTarget }
    r :: p.relayFrom result rest (i + 1) r.stdout

/-- The outcomes of all stages of a pipeline. -/
def relay (p : Pipeline) (result : Call → Outcome) : List Outcome :=
  p.relayFrom result p.stages 0 []

theorem length_relayFrom (p : Pipeline) (result : Call → Outcome) (stages : List Stage) (i : Nat)
    (input : List Text) : (p.relayFrom result stages i input).length = stages.length := by
  induction stages generalizing i input with
  | nil => rfl
  | cons s rest ih =>
    unfold relayFrom
    rw [List.length_cons, List.length_cons, ih]

theorem length_relay (p : Pipeline) (result : Call → Outcome) :
    (p.relay result).length = p.stages.length :=
  p.length_relayFrom result p.stages 0 []

theorem inputAfter_concat (before : List Outcome) (r : Outcome) :
    inputAfter (before ++ [r]) = r.stdout := by
  unfold inputAfter
  rw [List.getLast?_concat]

/-- The call of a stage, given the stages from it on. -/
theorem callAfter_eq {p : Pipeline} {before : List Outcome} {s : Stage} {rest : List Stage}
    (h : p.stages.drop before.length = s :: rest) :
    p.callAfter before =
      { index := before.length, argv := s.argv, input := inputAfter before
        stdoutTarget := if rest.isEmpty then p.stdoutTarget else none
        stderrTarget := p.stderrTarget } := by
  have hs : p.stages[before.length]? = some s := by
    rw [← List.head?_drop, h]
    rfl
  have hlen : p.stages.length = before.length + (rest.length + 1) := by
    have hd := congrArg List.length h
    have hlt := (List.getElem?_eq_some_iff.1 hs).1
    rw [List.length_drop, List.length_cons] at hd
    omega
  have htarget : Orchestrator.stdoutTargetOf p before.length =
      if rest.isEmpty then p.stdoutTarget else none := by
    unfold Orchestrator.stdoutTargetOf
    cases rest with
    | nil => exact if_pos hlen.symm
    | cons s' rest =>
      refine if_neg ?_
      rw [hlen, List.length_cons]
      omega
  unfold callAfter
  rw [hs, htarget]
  rfl

/-- Outcomes of which each is the result of the call that those before it lead to are those of the
stages one after another. -/
theorem eq_relayFrom {p : Pipeline} {result : Call → Outcome} {before after : List Outcome}
    (hlen : (before ++ after).length = p.stages.length)
    (h : ∀ (i : Nat) (r : Outcome), (before ++ after)[i]? = some r →
      r = result (p.callAfter ((before ++ after).take i))) :
    after = p.relayFrom result (p.stages.drop before.length) before.length (inputAfter before) := by
  induction after generalizing before with
  | nil =>
    rw [List.append_nil] at hlen
    rw [hlen, List.drop_length]
    rfl
  | cons r after ih =>
    have hlt : before.length < p.stages.length := by
      rw [← hlen, List.length_append, List.length_cons]
      omega
    have hdrop := List.drop_eq_getElem_cons hlt
    have hr : r = result (p.callAfter before) := by
      have hget : (before ++ r :: after)[before.length]? = some r := by
        rw [List.getElem?_append_right (Nat.le_refl _), Nat.sub_self]
        rfl
      have hres := h before.length r hget
      rw [List.take_left] at hres
      exact hres
    rw [List.append_cons] at hlen h
    have hrest := ih hlen h
    rw [List.length_append, List.length_singleton, inputAfter_concat] at hrest
    rw [callAfter_eq hdrop] at hr
    rw [hdrop]
    unfold relayFrom
    rw [← hr]
    exact congrArg (r :: ·) hrest

theorem eq_relay {p : Pipeline} {result : Call → Outcome} {outcomes : List Outcome}
    (hlen : outcomes.length = p.stages.length)
    (h : ∀ (i : Nat) (r : Outcome), outcomes[i]? = some r →
      r = result (p.callAfter (outcomes.take i))) : outcomes = p.relay result :=
  @eq_relayFrom p result [] outcomes hlen h

end Pipeline

namespace Orchestrator

variable {ω : Type}

/-! ## The final outcome -/

theorem Inv.finalOutcome? {o : Orchestrator ω} (h : o.Inv)
    (hlen : o.outcomes.length = o.pipeline.stages.length) :
    o.finalOutcome? = o.outcomes.getLast? := by
  have hne := ((Pipeline.isValid_iff _).1 h.valid).1
  have hpos := List.length_pos_iff.2 hne
  have hlt : o.outcomes.length - 1 < o.outcomes.length := by omega
  have hindex : ∀ (i : Nat) (hi : i < o.outcomes.length), o.outcomes[i].index = i :=
    fun i hi => (h.placed (List.getElem?_eq_getElem hi)).1
  unfold Orchestrator.finalOutcome?
  rw [if_neg (by rwa [List.isEmpty_iff]), List.getLast?_eq_getElem?,
    List.getElem?_eq_getElem hlt, List.find?_eq_some_iff_getElem]
  refine ⟨?_, _, hlt, rfl, fun j hj => ?_⟩
  · rw [hindex _ hlt, hlen]
    exact beq_self_eq_true _
  · -- the outcomes before it belong to earlier stages
    rw [hindex j (Nat.lt_trans hj hlt), Bool.not_eq_true', beq_eq_false_iff_ne]
    omega

/-! ## Runs that go to their end -/

variable [FileStore ω]

/-- One run, from one idle state to the next, that was not stopped and whose redirect targets could
all be opened.  What its stages hand back depends on the settings and their calls only. -/
structure FullRun (result : Settings → Call → Outcome) (o : Orchestrator ω)
    (ts : List (Transition ω)) (o' : Orchestrator ω) : Prop where
  history : History o ts o'
  idle : o.running = false
  ended : o'.running = false
  once : o'.generation = o.generation + 1
  unstopped : ∀ t ∈ ts, t.step ≠ .endStop
  opened : ∀ t ∈ ts, t.before.refuses t.step = false
  results : ∀ k ∈ o'.workers, k.generation = o'.generation → ∀ r, k.task.outcome? = some r →
    r = result o'.settings k.task.call

variable {result : Settings → Call → Outcome} {o o' : Orchestrator ω} {ts : List (Transition ω)}

/-- Exactly one run ended, with the outcomes that callers see, and it was completed. -/
theorem FullRun.chronicle_eq (h : FullRun result o ts o') (hinv : o.Inv) :
    chronicle ts = [{ outcomes := o'.outcomes, ending := .completed }] ∧
      o'.outcomes.length = o.pipeline.stages.length := by
  have htold := hinv.told (hinv.idle h.idle) h.history
  have hcount := htold.count_idle h.ended
  rw [h.once] at hcount
  obtain ⟨r, hr⟩ := List.length_eq_one_iff.1 (Nat.add_left_cancel hcount).symm
  obtain ⟨t, ht, hrec⟩ : ∃ t ∈ ts, t.record? = some r := by
    have hmem : r ∈ chronicle ts := by
      rw [hr]
      exact List.mem_singleton_self r
    exact List.mem_filterMap.1 hmem
  have hends := htold.records t ht r hrec
  have hout : r.outcomes = o'.outcomes := htold.latest h.ended r (by rw [hr]; rfl)
  obtain ⟨outcomes, ending⟩ := r
  cases hout
  cases ending with
  | completed => exact ⟨hr, hends.wellFormed.completed rfl⟩
  | stopped => exact absurd (hends.stopped.1 rfl) (h.unstopped t ht)
  | refused =>
    have href := hends.refused.1 rfl
    rw [h.opened t ht] at href
    cases href

/-- The outcomes of a full run are those of its stages one after another. -/
theorem FullRun.outcomes_eq (h : FullRun result o ts o') (hinv : o.Inv) :
    o'.outcomes = o.pipeline.relay (result o.settings) := by
  obtain ⟨hp, hs, -⟩ := hinv.pipeline_history h.history
  have hinv' := hinv.history h.history
  refine Pipeline.eq_relay (h.chronicle_eq hinv).2 fun i r hr => ?_
  obtain ⟨k, hk, hg, hout, hcall⟩ := hinv'.linked i r hr
  have hres := h.results k (mem_workers_of_settled hk) hg r hout
  rw [hcall, hp, hs] at hres
  exact hres

/-- The events of a full run are those of its outcomes and of its completion. -/
theorem FullRun.log_eq (h : FullRun result o ts o') (hinv : o.Inv) :
    o'.log = o.log ++
      o.pipeline.tell
        { outcomes := o.pipeline.relay (result o.settings), ending := .completed } := by
  have htold := hinv.told (hinv.idle h.idle) h.history
  rw [htold.log_idle h.ended, (h.chronicle_eq hinv).1, List.flatMap_singleton, h.outcomes_eq hinv]

/-- **A run that goes to its end gives the outcomes of its stages one after another**, whatever
happened before it and in whatever order its steps were taken.  Any other such run of the same
pipeline, that of a new orchestrator for one, gives the same outcomes and events. -/
theorem relay_of_history {p : Pipeline} {settings : Settings} {world : ω} {o₀ : Orchestrator ω}
    {ts₀ : List (Transition ω)} (h₀ : ofPipeline p settings world = .ok o₀)
    (ht : History o₀ ts₀ o) (h : FullRun result o ts o') :
    o'.outcomes = p.relay (result settings) ∧ o'.outcomes.length = p.stages.length ∧
    o'.finalOutcome? = o'.outcomes.getLast? ∧
    o'.log = o.log ++ p.tell { outcomes := p.relay (result settings), ending := .completed } ∧
    ∀ {world₁ : ω} {o₁ o₂ o₃ : Orchestrator ω} {ts₁ ts₂ : List (Transition ω)},
      ofPipeline p settings world₁ = .ok o₁ → History o₁ ts₁ o₂ → FullRun result o₂ ts₂ o₃ →
        o₃.outcomes = o'.outcomes ∧ ∃ es, o'.log = o.log ++ es ∧ o₃.log = o₂.log ++ es := by
  obtain ⟨hinv, hp, hs⟩ := inv_of_history h₀ ht
  have hout := h.outcomes_eq hinv
  have hlog := h.log_eq hinv
  have hlen : o'.outcomes.length = o'.pipeline.stages.length := by
    rw [(h.chronicle_eq hinv).2, (hinv.pipeline_history h.history).1]
  refine ⟨?_, ?_, (hinv.history h.history).finalOutcome? hlen, ?_, fun h₁ ht₁ hr => ?_⟩
  · rw [hout, hp, hs]
  · rw [hout, hp, Pipeline.length_relay]
  · rw [hlog, hp, hs]
  · obtain ⟨hinv₂, hp₂, hs₂⟩ := inv_of_history h₁ ht₁
    refine ⟨?_, _, hlog, ?_⟩
    · rw [hr.outcomes_eq hinv₂, hout, hp₂, hs₂, hp, hs]
    · rw [hr.log_eq hinv₂, hp₂, hs₂, hp, hs]

/-- The state after a run that was stopped while its completion was in flight. -/
def halted : Orchestrator Host :=
  (rehearsal.follow (.start :: failing 0 ++ [.beginStop, .endStop])).2

/-- What a program hands back that passes on what it reads and signs it with its name. -/
def signed (_ : Settings) (c : Call) : Outcome :=
  { index := c.index, argv := c.argv, status := .exited 0, stdout := c.input ++ c.argv }

/-- A worker's program prints these bytes and nothing else, and a driver takes the run further. -/
def signing (k d : Nat) (b : Bytes) : List (Step Host) :=
  [.work k .launched, .work k (.printed .stdout b), .work k (.fed (.ok ())),
    .work k (.ended .stderr), .work k (.ended .stdout), .work k (.exited (.ok 0)), .report k,
    .receive d, .act d]

/-- A full run, which that completion reaches late. -/
def resumed : List (Transition Host) × Orchestrator Host :=
  halted.follow (.start :: [.receive 0, .act 0] ++ signing 1 1 [97, 10] ++
    signing 2 1 [97, 10, 98, 10])

theorem fullRun_resumed : FullRun signed halted resumed.1 resumed.2 where
  history := history_follow _ _
  idle := by decide +kernel
  ended := by decide +kernel
  once := by decide +kernel
  unstopped := by
    intro t ht hstop
    have hmem := step_mem_of_follow ht
    rw [hstop] at hmem
    simp [signing] at hmem
  opened := by decide +kernel
  results := by
    have h : ∀ k ∈ resumed.2.workers, k.generation = resumed.2.generation →
      ∀ r ∈ k.task.outcome?, r = signed resumed.2.settings k.task.call := by decide +kernel
    exact fun k hk hg r hr => h k hk hg r hr

/-- What the first program printed is handed on, and comes back with the name of the second. -/
theorem relay_resumed :
    FullRun signed halted resumed.1 resumed.2 ∧
      resumed.2.outcomes = rehearsal.pipeline.relay (signed {}) ∧
      resumed.2.outcomes.map Outcome.stdout = [[['a']], [['a'], ['b']]] :=
  ⟨fullRun_resumed,
    (relay_of_history ofPipeline_rehearsal (history_follow rehearsal _) fullRun_resumed).1,
    by decide +kernel⟩

end Orchestrator

end Relay
