import Relay.Proofs.Orchestrator.Consistency

/-!
# What observers are told

The chronicle of a history lists the runs that ended, each with its outcomes and the way in which it
ended.  `log_of_history` says that the log of events is the chronicle told run by run: for
each outcome the launch and the end of its stage, and then that no run is in progress.  If a run is
in progress, its part so far follows, up to the launch of the stage at work.

What a run that ended looks like depends on its ending (`RunRecord.WellFormed`): a completed run has
an outcome for each stage, a stopped run has at least one and a refused one not all of them, and
only the last outcome of a stopped run can be that of a stopped stage.
-/

namespace Relay

/-- How a run ended. -/
inductive RunEnding where
  /-- All stages are over. -/
  | completed
  | stopped
  /-- A redirect target could not be opened. -/
  | refused
  deriving DecidableEq, Repr

/-- A run that ended. -/
structure RunRecord where
  outcomes : List Outcome
  ending : RunEnding
  deriving DecidableEq, Repr

/-- What holds of a run that ended. -/
structure RunRecord.WellFormed (r : RunRecord) (p : Pipeline) : Prop where
  index : ∀ (i : Nat) (o : Outcome), r.outcomes[i]? = some o → o.index = i
  completed : r.ending = .completed → r.outcomes.length = p.stages.length
  stopped : r.ending = .stopped → 0 < r.outcomes.length ∧ r.outcomes.length ≤ p.stages.length
  refused : r.ending = .refused → r.outcomes.length < p.stages.length
  status : ∀ (i : Nat) (o : Outcome), r.outcomes[i]? = some o → o.status = .stopped →
    r.ending = .stopped ∧ i + 1 = r.outcomes.length

namespace Pipeline

def programAt (p : Pipeline) (i : Nat) : Text := (p.stages[i]?.bind Stage.program?).getD []

def tellLaunch (p : Pipeline) (i : Nat) : Event := .started i (p.programAt i)

def tellStages (p : Pipeline) (outcomes : List Outcome) : List Event :=
  outcomes.zipIdx.flatMap fun (r, i) => [p.tellLaunch i, .finished i r.status]

/-- Observers are told of a run that ended. -/
def tell (p : Pipeline) (r : RunRecord) : List Event :=
  p.tellStages r.outcomes ++ [.idle (r.ending == .completed)]

/-- Observers are told of a run in progress: the stages that are over and the one at work. -/
def tellSoFar (p : Pipeline) (outcomes : List Outcome) : List Event :=
  p.tellStages outcomes ++ [p.tellLaunch outcomes.length]

theorem tellStages_concat (p : Pipeline) (outcomes : List Outcome) (r : Outcome) :
    p.tellStages (outcomes ++ [r]) =
      p.tellSoFar outcomes ++ [.finished outcomes.length r.status] := by
  unfold tellSoFar tellStages
  rw [List.zipIdx_append, List.flatMap_append, List.append_assoc, Nat.zero_add]
  rfl

theorem tellLaunch_of_getElem? {p : Pipeline} {i : Nat} {s : Stage}
    (hs : p.stages[i]? = some s) : p.tellLaunch i = .started i (s.program?.getD []) := by
  unfold tellLaunch programAt
  rw [hs]
  rfl

end Pipeline

namespace Orchestrator

variable {ω : Type} [FileStore ω]

/-! ## The chronicle -/

/-- How the step ended the run, if it did. -/
def endingOf (o : Orchestrator ω) : Step ω → RunEnding
  | .beginStop => .stopped
  | .endStop => .stopped
  | s => if o.refuses s then .refused else .completed

/-- The run that a transition ended: no run is in progress any more, and one was or began. -/
def Transition.record? (t : Transition ω) : Option RunRecord :=
  if t.after.running = false ∧
      (t.before.running = true ∨ t.after.generation ≠ t.before.generation) then
    some { outcomes := t.after.outcomes, ending := t.before.endingOf t.step }
  else none

def chronicle (ts : List (Transition ω)) : List RunRecord := ts.filterMap Transition.record?

theorem chronicle_concat (ts : List (Transition ω)) (t : Transition ω) :
    chronicle (ts ++ [t]) = chronicle ts ++ t.record?.toList := by
  unfold chronicle
  rw [List.filterMap_append]
  cases h : t.record? <;> simp [h]

section Record

variable {o o' : Orchestrator ω} {s : Step ω}

theorem record?_of_running (h : o'.running = true) : Transition.record? ⟨o, s, o'⟩ = none := by
  unfold Transition.record?
  rw [if_neg]
  rintro ⟨hnot, -⟩
  rw [h] at hnot
  cases hnot

theorem record?_of_same (hrun : o'.running = o.running) (hgen : o'.generation = o.generation) :
    Transition.record? ⟨o, s, o'⟩ = none := by
  unfold Transition.record?
  rw [if_neg]
  rintro ⟨hnot, hwas | hne⟩
  · rw [hrun, hwas] at hnot
    cases hnot
  · exact hne hgen

theorem record?_of_ended (h : o'.running = false)
    (hwas : o.running = true ∨ o'.generation ≠ o.generation) :
    Transition.record? ⟨o, s, o'⟩ =
      some { outcomes := o'.outcomes, ending := o.endingOf s } := by
  unfold Transition.record?
  rw [if_pos ⟨h, hwas⟩]

/-- A step that fails to launch a stage ends the run by a refusal. -/
theorem endingOf_of_refused {i : Nat} {e : Refusal} {w : ω} (h : o.launches? s = some i)
    (hopen : openSinks o.world o.pipeline i = (.error e, w)) : o.endingOf s = .refused := by
  have href : o.refuses s = true := refuses_of_openSinks h hopen
  cases s with
  | beginStop => cases h
  | endStop => cases h
  | _ => exact if_pos href

/-- A driver that launches nothing completes the run. -/
theorem endingOf_act {i : Nat} (h : o.launches? (.act i) = none) :
    o.endingOf (.act i) = .completed := by
  have href : o.refuses (.act i) = false := refuses_of_launches?_eq_none h
  show (if o.refuses (.act i) then RunEnding.refused else .completed) = .completed
  rw [href, if_neg Bool.false_ne_true]

theorem endingOf_eq_stopped_iff (hs : s ≠ .beginStop) :
    o.endingOf s = .stopped ↔ s = .endStop := by
  unfold endingOf
  split
  · exact absurd rfl hs
  · exact ⟨fun _ => rfl, fun _ => rfl⟩
  · rename_i hnot
    split
    · exact ⟨nofun, fun h => absurd h hnot⟩
    · exact ⟨nofun, fun h => absurd h hnot⟩

theorem endingOf_eq_refused_iff (hs : s ≠ .beginStop) :
    o.endingOf s = .refused ↔ o.refuses s = true := by
  unfold endingOf
  split
  · exact absurd rfl hs
  · exact ⟨nofun, nofun⟩
  · split
    · rename_i href
      exact ⟨fun _ => href, fun _ => rfl⟩
    · rename_i href
      exact ⟨nofun, fun h => absurd h href⟩

end Record

/-! ## Runs that end are well-formed -/

omit [FileStore ω] in
theorem AtWork.index_eq {o : Orchestrator ω} {ks : List Worker} {k : Worker} {ds : List Driver}
    {d : Driver} (hw : o.AtWork ks k ds d) (h : o.Inv) {r : Outcome}
    (hr : k.task.outcome? = some r) : r.index = o.outcomes.length :=
  ((h.fits k hw.mem).own r hr).1.trans hw.index

omit [FileStore ω] in
theorem AtWork.wellFormed {o : Orchestrator ω} {ks : List Worker} {k : Worker} {ds : List Driver}
    {d : Driver} (hw : o.AtWork ks k ds d) (h : o.Inv) {r : Outcome}
    (hr : k.task.outcome? = some r) {e : RunEnding}
    (hlast : e = .completed → o.pipeline.stages.length ≤ o.cursor)
    (hmore : e = .refused → o.cursor < o.pipeline.stages.length)
    (hstopped : r.status = .stopped → e = .stopped) :
    RunRecord.WellFormed { outcomes := o.outcomes ++ [r], ending := e } o.pipeline := by
  have hlt := h.outcomes_lt hw
  have hcursor := hw.cursor
  have hlen : (o.outcomes ++ [r]).length = o.outcomes.length + 1 := by
    rw [List.length_append, List.length_singleton]
  refine ⟨fun i x hx => ?_, fun he => ?_, fun _ => ?_, fun he => ?_, fun i x hx hst => ?_⟩
  · rcases of_getElem?_concat hx with ⟨-, hx⟩ | ⟨rfl, rfl⟩
    · exact (h.placed hx).1
    · exact hw.index_eq h hr
  · have := hlast he
    show (o.outcomes ++ [r]).length = _
    omega
  · show 0 < (o.outcomes ++ [r]).length ∧ (o.outcomes ++ [r]).length ≤ _
    omega
  · have := hmore he
    show (o.outcomes ++ [r]).length < _
    omega
  · rcases of_getElem?_concat hx with ⟨-, hx⟩ | ⟨rfl, rfl⟩
    · exact absurd hst (hw.unstopped x (List.mem_of_getElem? hx))
    · exact ⟨hstopped hst, hlen.symm⟩

/-! ## The log is the chronicle -/

/-- What holds of a run that ended and of the transition that ended it. -/
structure Transition.Ends (t : Transition ω) (p : Pipeline) (r : RunRecord) : Prop where
  wellFormed : r.WellFormed p
  /-- Only a start that fails ends a run without outcomes. -/
  empty : r.outcomes = [] ↔ t.step = .start
  stopped : r.ending = .stopped ↔ t.step = .endStop
  refused : r.ending = .refused ↔ t.before.refuses t.step = true

/-- How the log and the count of starts compare with the chronicle, from an idle state on. -/
structure Told (o₀ : Orchestrator ω) (ts : List (Transition ω)) (o : Orchestrator ω) : Prop where
  log : o.log = o₀.log ++ (chronicle ts).flatMap o₀.pipeline.tell ++
    if o.running then o₀.pipeline.tellSoFar o.outcomes else []
  count : o.generation = o₀.generation + (chronicle ts).length + if o.running then 1 else 0
  latest : o.running = false → ∀ r, (chronicle ts).getLast? = some r → r.outcomes = o.outcomes
  records : ∀ t ∈ ts, ∀ r, t.record? = some r → t.Ends o₀.pipeline r

section Told

variable {o₀ o o' : Orchestrator ω} {ts : List (Transition ω)} {s : Step ω}

/-- Nothing happens to the run. -/
theorem Told.still (h : Told o₀ ts o) (hs : o.Still o') : Told o₀ (ts ++ [⟨o, s, o'⟩]) o' := by
  have hrec : Transition.record? ⟨o, s, o'⟩ = none := record?_of_same hs.running hs.generation
  have hc : chronicle (ts ++ [⟨o, s, o'⟩]) = chronicle ts := by
    rw [chronicle_concat, hrec]
    exact List.append_nil _
  refine ⟨?_, ?_, ?_, forall_mem_concat h.records fun r hr => ?_⟩
  · rw [hc, hs.log, hs.running, hs.outcomes]
    exact h.log
  · rw [hc, hs.generation, hs.running]
    exact h.count
  · rw [hc, hs.running, hs.outcomes]
    exact h.latest
  · rw [hrec] at hr
    cases hr

/-- The run goes on, or one begins: the log goes on in the run's part. -/
theorem Told.goes (h : Told o₀ ts o) (hrun : o'.running = true)
    (hgen : o'.generation = o₀.generation + (chronicle ts).length + 1)
    (hlog : o'.log = o₀.log ++ (chronicle ts).flatMap o₀.pipeline.tell ++
      o₀.pipeline.tellSoFar o'.outcomes) : Told o₀ (ts ++ [⟨o, s, o'⟩]) o' := by
  have hrec : Transition.record? ⟨o, s, o'⟩ = none := record?_of_running hrun
  have hc : chronicle (ts ++ [⟨o, s, o'⟩]) = chronicle ts := by
    rw [chronicle_concat, hrec]
    exact List.append_nil _
  refine ⟨?_, ?_, fun hidle => ?_, forall_mem_concat h.records fun r hr => ?_⟩
  · rw [hc, hrun, if_pos rfl]
    exact hlog
  · rw [hc, hrun, if_pos rfl]
    exact hgen
  · rw [hrun] at hidle
    cases hidle
  · rw [hrec] at hr
    cases hr

/-- A run ends: its part of the log is complete. -/
theorem Told.ends (h : Told o₀ ts o) (hidle : o'.running = false)
    (hwas : o.running = true ∨ o'.generation ≠ o.generation)
    (hgen : o'.generation = o₀.generation + (chronicle ts).length + 1)
    (hlog : o'.log = o₀.log ++ (chronicle ts).flatMap o₀.pipeline.tell ++
      o₀.pipeline.tell { outcomes := o'.outcomes, ending := o.endingOf s })
    (hwf : RunRecord.WellFormed { outcomes := o'.outcomes, ending := o.endingOf s } o₀.pipeline)
    (hs : s ≠ .beginStop) (hstart : o'.outcomes = [] ↔ s = .start) :
    Told o₀ (ts ++ [⟨o, s, o'⟩]) o' := by
  have hrec := record?_of_ended (s := s) hidle hwas
  have hc : chronicle (ts ++ [⟨o, s, o'⟩]) =
      chronicle ts ++ [{ outcomes := o'.outcomes, ending := o.endingOf s }] := by
    rw [chronicle_concat, hrec]
    rfl
  refine ⟨?_, ?_, fun _ r hr => ?_, forall_mem_concat h.records fun r hr => ?_⟩
  · rw [hc, hidle, if_neg Bool.false_ne_true, List.append_nil, List.flatMap_append,
      List.flatMap_singleton, ← List.append_assoc]
    exact hlog
  · rw [hc, hidle, if_neg Bool.false_ne_true, List.length_append, List.length_singleton, hgen]
    rfl
  · rw [hc, List.getLast?_concat] at hr
    cases hr
    rfl
  · rw [hrec] at hr
    cases hr
    exact ⟨hwf, hstart, endingOf_eq_stopped_iff hs, endingOf_eq_refused_iff hs⟩

/-! ### Every move is told -/

theorem Told.log_idle (h : Told o₀ ts o) (hrun : o.running = false) :
    o.log = o₀.log ++ (chronicle ts).flatMap o₀.pipeline.tell := by
  rw [h.log, hrun, if_neg Bool.false_ne_true, List.append_nil]

theorem Told.log_running (h : Told o₀ ts o) (hrun : o.running = true) :
    o.log = o₀.log ++ (chronicle ts).flatMap o₀.pipeline.tell ++
      o₀.pipeline.tellSoFar o.outcomes := by
  rw [h.log, hrun, if_pos rfl]

theorem Told.count_idle (h : Told o₀ ts o) (hrun : o.running = false) :
    o.generation = o₀.generation + (chronicle ts).length := by
  rw [h.count, hrun]
  rfl

theorem Told.count_running (h : Told o₀ ts o) (hrun : o.running = true) :
    o.generation = o₀.generation + (chronicle ts).length + 1 := by
  rw [h.count, hrun, if_pos rfl]

/-- The stage at work is over. -/
theorem Told.log_finished (h : Told o₀ ts o) (hrun : o.running = true) {r : Outcome}
    (hr : r.index = o.outcomes.length) :
    o.log ++ [.finished r.index r.status] = o₀.log ++ (chronicle ts).flatMap o₀.pipeline.tell ++
      o₀.pipeline.tellStages (o.outcomes ++ [r]) := by
  rw [h.log_running hrun, hr, Pipeline.tellStages_concat, List.append_assoc]

theorem Told.ends_atWork (h : Told o₀ ts o) (hp : o.pipeline = o₀.pipeline) (hinv : o.Inv)
    {ks : List Worker} {k : Worker} {ds : List Driver} {d : Driver} (hw : o.AtWork ks k ds d)
    {r : Outcome} (hr : k.task.outcome? = some r) (hidle : o'.running = false)
    (hgen : o'.generation = o.generation) (hout : o'.outcomes = o.outcomes ++ [r])
    (hlog : o'.log = o.log ++ [.finished r.index r.status] ++
      [.idle (o.endingOf s == .completed)])
    (hwf : RunRecord.WellFormed { outcomes := o.outcomes ++ [r], ending := o.endingOf s }
      o.pipeline)
    (hs : s ≠ .start) (hs' : s ≠ .beginStop) : Told o₀ (ts ++ [⟨o, s, o'⟩]) o' := by
  refine h.ends hidle (.inl hw.running) (hgen.trans (h.count_running hw.running)) ?_ ?_ hs' ?_
  · rw [hlog, h.log_finished hw.running (hw.index_eq hinv hr), hout, List.append_assoc]
    rfl
  · rw [hout, ← hp]
    exact hwf
  · rw [hout]
    exact ⟨fun hnil => absurd hnil (List.append_ne_nil_of_right_ne_nil _ (List.cons_ne_nil _ _)),
      fun he => absurd he hs⟩

theorem Told.move (h : Told o₀ ts o) (hp : o.pipeline = o₀.pipeline) (hinv : o.Inv)
    (hm : o.Move s o') : Told o₀ (ts ++ [⟨o, s, o'⟩]) o' := by
  cases hm with
  | still same => exact h.still same
  | refused hi hopen =>
    have hlaunch : o.launches? .start = some 0 := by
      unfold launches?
      rw [hi.running, if_neg Bool.false_ne_true]
    have hend := endingOf_of_refused hlaunch hopen
    have hne : 0 < o.pipeline.stages.length :=
      List.length_pos_iff.2 ((Pipeline.isValid_iff _).1 hinv.valid).1
    refine h.ends rfl (.inr (Nat.succ_ne_self _)) (congrArg Nat.succ (h.count_idle hi.running))
      ?_ ?_ nofun ⟨fun _ => rfl, fun _ => rfl⟩
    · rw [hend, ← h.log_idle hi.running]
      rfl
    · rw [hend, ← hp]
      exact ⟨nofun, nofun, nofun, fun _ => hne, nofun⟩
  | begun hi hnext =>
    refine h.goes rfl (congrArg Nat.succ (h.count_idle hi.running)) ?_
    rw [← h.log_idle hi.running, ← hp]
    exact congrArg (fun e => o.log ++ [e]) (Pipeline.tellLaunch_of_getElem? hnext).symm
  | stopped hw hr =>
    exact h.ends_atWork hp hinv hw hr rfl rfl rfl rfl
      (hw.wellFormed hinv hr nofun nofun fun _ => rfl) nofun nofun
  | @advanced ks k ds ds' d r i stage out err world hw hr hst hlaunch hnext =>
    have hlog := h.log_finished hw.running (hw.index_eq hinv hr)
    have hlen : (o.outcomes ++ [r]).length = o.cursor := by
      rw [List.length_append, List.length_singleton, hw.cursor]
    refine h.goes hw.running (h.count_running hw.running) ?_
    show o.log ++ [.finished r.index r.status] ++ [.started o.cursor (stage.program?.getD [])] =
      _ ++ o₀.pipeline.tellSoFar (o.outcomes ++ [r])
    unfold Pipeline.tellSoFar
    rw [hlog, hlen, ← hp, Pipeline.tellLaunch_of_getElem? hnext, List.append_assoc]
  | completed hw hr hst hlaunch hlast =>
    have hend := endingOf_act hlaunch
    refine h.ends_atWork hp hinv hw hr rfl rfl rfl ?_ ?_ nofun nofun
    · rw [hend]
      rfl
    · rw [hend]
      exact hw.wellFormed hinv hr (fun _ => hlast) nofun fun hs => absurd hs hst
  | cut hw hr hst hlaunch hnext hopen =>
    have hend := endingOf_of_refused hlaunch hopen
    refine h.ends_atWork hp hinv hw hr rfl rfl rfl ?_ ?_ nofun nofun
    · rw [hend]
      rfl
    · rw [hend]
      exact hw.wellFormed hinv hr nofun (fun _ => (List.getElem?_eq_some_iff.1 hnext).1)
        fun hs => absurd hs hst

theorem Inv.told (hinv : o₀.Inv) (hi : o₀.Idle) (ht : History o₀ ts o) : Told o₀ ts o := by
  induction ht with
  | nil =>
    refine ⟨?_, ?_, fun _ r hr => ?_, fun t ht => absurd ht List.not_mem_nil⟩
    · rw [hi.running, if_neg Bool.false_ne_true, List.append_nil]
      exact (List.append_nil _).symm
    · rw [hi.running]
      rfl
    · cases hr
  | snoc ht hs ih =>
    have hm := hinv.history ht
    exact ih.move (hinv.pipeline_history ht).1 hm (hm.next hs).2

end Told

/-- **The log tells the runs of the history one after another**, each of them completely but for a
run in progress, which comes last.  Every start that was not turned away is told. -/
theorem log_of_history {p : Pipeline} {settings : Settings} {world : ω} {o₀ o : Orchestrator ω}
    {ts : List (Transition ω)} (h₀ : ofPipeline p settings world = .ok o₀)
    (ht : History o₀ ts o) :
    o.log = (chronicle ts).flatMap p.tell ++ (if o.running then p.tellSoFar o.outcomes else []) ∧
    o.generation = (chronicle ts).length + (if o.running then 1 else 0) ∧
    (∀ t ∈ ts, ∀ r, t.record? = some r → t.Ends p r) ∧
    (o.running = true → o.outcomes.length < p.stages.length ∧
      ∀ (i : Nat) (r : Outcome), o.outcomes[i]? = some r → r.index = i ∧ r.status ≠ .stopped) := by
  obtain ⟨hinv, hp, -⟩ := inv_of_history h₀ ht
  have hinv₀ := inv_of_ofPipeline h₀
  obtain ⟨-, rfl⟩ := of_ofPipeline h₀
  have htold := hinv₀.told ⟨rfl, rfl, rfl, rfl, rfl, rfl⟩ ht
  refine ⟨htold.log, ?_, htold.records, fun hrun => ?_⟩
  · rw [htold.count, Nat.zero_add]
  · obtain ⟨ks, k, ds, d, hw⟩ := hinv.atWork hrun
    rw [← hp]
    exact ⟨hinv.outcomes_lt hw,
      fun i r hr => ⟨(hinv.placed hr).1, hw.unstopped r (List.mem_of_getElem? hr)⟩⟩

/-- A run that is stopped at its second stage. -/
theorem log_rehearsal :
    let r := rehearsal.follow (.start :: failing 0 ++
      [.receive 0, .act 0, .work 1 .launched, .beginStop, .work 1 .killed,
        .work 1 (.exited (.ok 137)), .report 1, .endStop])
    (chronicle r.1).map (fun run => (run.outcomes.length, run.ending)) = [(2, .stopped)] ∧
      r.2.log.length = 5 ∧ r.2.log = (chronicle r.1).flatMap rehearsal.pipeline.tell :=
  ⟨by decide, by decide,
    (log_of_history ofPipeline_rehearsal (history_follow rehearsal _)).1.trans (List.append_nil _)⟩

end Orchestrator

end Relay
