import Relay.Proofs.Orchestrator.Guards
import Relay.Proofs.Orchestrator.Progress
import Relay.Proofs.Orchestrator.Refusals
import Relay.Proofs.Orchestrator.Sequence
import Relay.Proofs.Orchestrator.Stopping

/-!
# Runs that nobody stops

A caller starts a run, leaves it alone and looks at what it has come to (`Course`).  Such a run has
an outcome of the last stage, which is all that the caller is told in the end, if and only if it is
over and every redirect target could be opened (`Fate.exists_isFinal_iff`).

The reason is that a run which is left alone is in one of three situations, and every step leads
from one to the next (`Fate`): it is under way and some stages have no outcome, all stages have one,
or a target could not be opened and the rest of the stages have none.
-/

namespace Relay.Orchestrator

variable {ω : Type} [FileStore ω]

/-- Nothing was started or stopped. -/
def LeftAlone (ts : List (Transition ω)) : Prop :=
  ∀ t ∈ ts, t.step ≠ .start ∧ t.step ≠ .beginStop

/-- What a caller has who starts a run and leaves it alone: the refusal of the start, or the state
at some time after it.  Programs may have changed files before the start. -/
inductive Course (o : Orchestrator ω) :
    List (Transition ω) → Except Refusal (Orchestrator ω) → Prop where
  | refused (world : ω) {e : Refusal} (answer : { o with world }.start.1 = .error e) :
    Course o [] (.error e)
  | ran (world : ω) {ts : List (Transition ω)} {o' : Orchestrator ω}
      (answer : { o with world }.start.1 = .ok ())
      (rest : History { o with world }.start.2 ts o') (alone : LeftAlone ts) :
    Course o ts (.ok o')

def IsFinal (o : Orchestrator ω) (r : Outcome) : Prop :=
  r ∈ o.outcomes ∧ r.index + 1 = o.pipeline.stages.length

/-! ## Histories without a stop -/

section LeftAlone

variable {o m o' : Orchestrator ω} {ts us : List (Transition ω)}

omit [FileStore ω] in
theorem LeftAlone.append (h : LeftAlone ts) (h' : LeftAlone us) : LeftAlone (ts ++ us) :=
  List.forall_mem_append.2 ⟨h, h'⟩

theorem stopping_act (o : Orchestrator ω) (i : Nat) : (o.act i).stopping = o.stopping := by
  rcases o.act_cases i with ⟨-, hs⟩ | ⟨d, c, -, -, ⟨-, hs⟩ | ⟨-, hs⟩⟩
  · rw [hs]
  · rw [hs]
  · rw [hs]
    exact (o.advance_keeps c).2.2

omit [FileStore ω] in
theorem endStop?_eq_none (hno : o.stopping = none) : o.endStop? = none := by
  unfold endStop?
  rw [hno]
  rfl

theorem stopping_of_leftAlone (ht : History o ts o') (h : LeftAlone ts)
    (hno : o.stopping = none) : o'.stopping = none := by
  induction ht with
  | nil => exact hno
  | @snoc ts m o' s _ hs ih =>
    have hm : m.stopping = none := ih fun t hmem => h t (List.mem_append_left _ hmem)
    have hfree : m.isFree = true := by rw [isFree, hm]; rfl
    have hcalm := h _ (List.mem_append_right _ (List.mem_singleton_self _))
    cases s with
    | start => exact absurd rfl hcalm.1
    | beginStop => exact absurd rfl hcalm.2
    | endStop => cases (endStop?_eq_none hm).symm.trans hs
    | work k signal =>
      cases hs
      exact (m.quiet_work k signal).stopping.trans hm
    | report k =>
      cases hs
      exact (m.quiet_report k).stopping.trans hm
    | receive d =>
      cases hs
      exact (m.quiet_receive d).stopping.trans hm
    | act d =>
      cases (if_pos hfree).symm.trans hs
      exact (m.stopping_act d).trans hm
    | disturb world =>
      cases hs
      exact hm

end LeftAlone

/-! ## The three situations of a run -/

/-- What has become of a run that was left alone since its start. -/
inductive Fate (ts : List (Transition ω)) (o : Orchestrator ω) : Prop where
  | underway (running : o.running = true) (opened : ∀ t ∈ ts, t.before.refuses t.step = false)
  /-- All stages are over. -/
  | completed (idle : o.running = false) (opened : ∀ t ∈ ts, t.before.refuses t.step = false)
      (all : o.outcomes.length = o.pipeline.stages.length)
      (unstopped : ∀ r ∈ o.outcomes, r.status ≠ .stopped)
  /-- A redirect target could not be opened. -/
  | cut (idle : o.running = false) (denied : ∃ t ∈ ts, t.before.refuses t.step = true)
      (fewer : o.outcomes.length < o.pipeline.stages.length)

section Fate

variable {o m o' : Orchestrator ω} {ts : List (Transition ω)} {s : Step ω}

theorem Fate.still (h : Fate ts m) (hs : m.Still o') (hopen : m.refuses s = false) :
    Fate (ts ++ [⟨m, s, o'⟩]) o' := by
  cases h with
  | underway running opened =>
    exact .underway (hs.running.trans running) (forall_mem_concat opened hopen)
  | completed idle opened all unstopped =>
    refine .completed (hs.running.trans idle) (forall_mem_concat opened hopen) ?_ ?_
    · rwa [hs.outcomes, hs.pipeline]
    · rwa [hs.outcomes]
  | cut idle denied fewer =>
    obtain ⟨t, ht, href⟩ := denied
    refine .cut (hs.running.trans idle) ⟨t, List.mem_append_left _ ht, href⟩ ?_
    rwa [hs.outcomes, hs.pipeline]

/-- While the run is under way no target has been refused. -/
theorem Fate.opened (h : Fate ts m) (hrun : m.running = true) :
    ∀ t ∈ ts, t.before.refuses t.step = false := by
  cases h with
  | underway _ opened => exact opened
  | completed idle => cases idle.symm.trans hrun
  | cut idle => cases idle.symm.trans hrun

theorem Fate.move (h : Fate ts m) (hinv : m.Inv) (hm : m.Move s o') (hstart : s ≠ .start)
    (hend : s ≠ .endStop) : Fate (ts ++ [⟨m, s, o'⟩]) o' := by
  cases hm with
  | still same launches => exact h.still same (refuses_of_launches?_eq_none launches)
  | refused => exact absurd rfl hstart
  | begun => exact absurd rfl hstart
  | stopped => exact absurd rfl hend
  | advanced work _ _ launches _ opened =>
    refine .underway work.running (forall_mem_concat (h.opened work.running) ?_)
    exact refuses_of_openSinks launches opened
  | @completed ks k ds ds' d r i work _ unkilled launches last =>
    refine .completed rfl (forall_mem_concat (h.opened work.running) ?_) ?_
      (forall_mem_concat work.unstopped unkilled)
    · exact refuses_of_launches?_eq_none launches
    · have hlt := hinv.outcomes_lt work
      have hcursor := work.cursor
      show (m.outcomes ++ [r]).length = m.pipeline.stages.length
      rw [List.length_append, List.length_singleton]
      omega
  | @cut ks k ds ds' d r i stage e world work _ _ launches next opened =>
    have hlt := (List.getElem?_eq_some_iff.1 next).1
    refine .cut rfl ⟨_, List.mem_append_right _ (List.mem_singleton_self _),
      refuses_of_openSinks launches opened⟩ ?_
    show (m.outcomes ++ [r]).length < m.pipeline.stages.length
    rwa [List.length_append, List.length_singleton, ← work.cursor]

/-- A run that started and was left alone is in one of the three situations. -/
theorem Inv.fate (h : o.Inv) (hno : o.stopping = none) (hrun : o.running = true)
    (ht : History o ts o') (hl : LeftAlone ts) : Fate ts o' := by
  induction ht with
  | nil => exact .underway hrun fun _ hmem => absurd hmem List.not_mem_nil
  | @snoc ts m o' s ht hs ih =>
    have halone : LeftAlone ts := fun t hmem => hl t (List.mem_append_left _ hmem)
    have hm := h.history ht
    refine (ih halone).move hm (hm.next hs).2
      (hl _ (List.mem_append_right _ (List.mem_singleton_self _))).1 ?_
    rintro rfl
    cases (endStop?_eq_none (stopping_of_leftAlone ht halone hno)).symm.trans hs

end Fate

/-! ## The outcome of the last stage -/

section Final

variable {o o' : Orchestrator ω} {ts : List (Transition ω)} {r : Outcome}

omit [FileStore ω] in
theorem Inv.isFinal_iff (h : o.Inv) :
    o.IsFinal r ↔
      o.outcomes.length = o.pipeline.stages.length ∧ o.outcomes.getLast? = some r := by
  have hle := h.outcomes_le
  constructor
  · rintro ⟨hmem, hindex⟩
    obtain ⟨i, hi⟩ := List.mem_iff_getElem?.1 hmem
    have hlt := (List.getElem?_eq_some_iff.1 hi).1
    have hri := (h.placed hi).1
    have hlast : i = o.outcomes.length - 1 := by omega
    rw [List.getLast?_eq_getElem?, ← hlast]
    exact ⟨by omega, hi⟩
  · rintro ⟨hlen, hlast⟩
    have hmem := List.mem_of_getLast? hlast
    have hpos := List.length_pos_of_mem hmem
    rw [List.getLast?_eq_getElem?] at hlast
    have hri := (h.placed hlast).1
    exact ⟨hmem, by omega⟩

omit [FileStore ω] in
theorem Inv.finalOutcome?_eq_some_iff (h : o.Inv) : o.finalOutcome? = some r ↔ o.IsFinal r := by
  rw [h.isFinal_iff]
  by_cases hlen : o.outcomes.length = o.pipeline.stages.length
  · rw [h.finalOutcome? hlen]
    exact ⟨fun hlast => ⟨hlen, hlast⟩, And.right⟩
  · have hlt := Nat.lt_of_le_of_ne h.outcomes_le hlen
    rw [h.finalOutcome?_eq_none hlt]
    exact ⟨nofun, fun hfinal => absurd hfinal.1 hlen⟩

/-- The outcome of the last stage is there if and only if the run is over and no redirect target was
refused. -/
theorem Fate.exists_isFinal_iff (h : Fate ts o) (hinv : o.Inv) :
    (∃ r, o.IsFinal r) ↔
      o.running = false ∧ ∀ t ∈ ts, t.before.refuses t.step = false := by
  simp only [hinv.isFinal_iff, exists_and_left]
  cases h with
  | underway running =>
    obtain ⟨ks, k, ds, d, hw⟩ := hinv.atWork running
    refine iff_of_false (fun hfinal => ?_) fun hover => ?_
    · exact absurd hfinal.1 (Nat.ne_of_lt (hinv.outcomes_lt hw))
    · cases hover.1.symm.trans running
  | completed idle opened all =>
    refine iff_of_true ⟨all, ?_⟩ ⟨idle, opened⟩
    have hne := ((Pipeline.isValid_iff _).1 hinv.valid).1
    have hpos := List.length_pos_iff.2 hne
    rw [← all] at hpos
    exact ⟨_, List.getLast?_eq_some_getLast (List.length_pos_iff.1 hpos)⟩
  | cut idle denied fewer =>
    obtain ⟨t, ht, href⟩ := denied
    refine iff_of_false (fun hfinal => absurd hfinal.1 (Nat.ne_of_lt fewer)) fun hover => ?_
    cases href.symm.trans (hover.2 t ht)

theorem Fate.ne_stopped (h : Fate ts o) (hinv : o.Inv) (hr : o.IsFinal r) :
    r.status ≠ .stopped := by
  have hlen := (hinv.isFinal_iff.1 hr).1
  cases h with
  | underway running =>
    obtain ⟨ks, k, ds, d, hw⟩ := hinv.atWork running
    exact absurd hlen (Nat.ne_of_lt (hinv.outcomes_lt hw))
  | completed _ _ _ unstopped => exact unstopped r hr.1
  | cut _ _ fewer => exact absurd hlen (Nat.ne_of_lt fewer)

end Final

/-! ## Courses -/

section Course

variable {o o' : Orchestrator ω} {ts : List (Transition ω)}

theorem Course.fate (hc : Course o ts (.ok o')) (h : o.Inv) (hno : o.stopping = none) :
    o'.Inv ∧ o'.pipeline = o.pipeline ∧ Fate ts o' := by
  obtain _ | ⟨world, answer, rest, alone⟩ := hc
  have hworld := h.disturb world
  have hstart := hworld.start
  have hno' := { o with world }.start_keeps.2.trans hno
  have hrun := hworld.running_of_start answer
  refine ⟨hstart.1.history rest, ?_, hstart.1.fate hno' hrun rest alone⟩
  exact (hstart.1.pipeline_history rest).1.trans hstart.2.pipeline

end Course

end Relay.Orchestrator
