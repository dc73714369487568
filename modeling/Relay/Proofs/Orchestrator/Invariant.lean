import Mathlib.Data.List.Forall2
import Relay.Proofs.Orchestrator.History
import Relay.Proofs.Task
import Relay.Proofs.Validation

/-!
# The invariant of an orchestrator

At any time an orchestrator is idle (`Idle`) or has one worker at work for the current run
(`AtWork`): the latest worker, watched by the latest driver, with the call that the outcomes so far
lead to.  `Inv` joins this with what holds of the workers and drivers of all runs:

* every worker fits its stage, and no two workers have the same run and place (`ordered`);
* all workers but the one at work have reported (`done`), so nothing they do reaches a driver again;
* every outcome of the current run is that of one of its workers, whose input is what the stage
  before it printed (`linked`).

The lemmas below are about one part of the invariant at a time; that every step keeps the whole is
the next module.
-/

namespace Relay

/-! ## Workers and drivers, one by one -/

/-- Completions that a driver has received or can receive. -/
def Driver.pending (d : Driver) : List Completion := d.inHand.toList ++ d.queue

/-- The run that a worker belongs to and its place in it. -/
def Worker.place (k : Worker) : Nat × Nat := (k.generation, k.task.index)

/-- The order of the places of all runs. -/
def Precedes (a b : Nat × Nat) : Prop := a.1 < b.1 ∨ a.1 = b.1 ∧ a.2 < b.2

theorem Worker.Later.place {k k' : Worker} (h : k.Later k') : k'.place = k.place := by
  unfold Worker.place
  rw [h.generation, h.index]

/-! ## Lists of workers at two times -/

section Lists

variable {ks ks' : List Worker}

theorem later_refl (ks : List Worker) : List.Forall₂ Worker.Later ks ks :=
  List.forall₂_same.2 fun k _ => Worker.Later.refl k

theorem later_trans {ks'' : List Worker} (h : List.Forall₂ Worker.Later ks ks')
    (h' : List.Forall₂ Worker.Later ks' ks'') : List.Forall₂ Worker.Later ks ks'' := by
  induction h generalizing ks'' with
  | nil => exact h'
  | cons hk _ ih =>
    cases h' with
    | cons hk' h' => exact .cons (hk.trans hk') (ih h')

theorem getElem?_right {α β : Type} {R : α → β → Prop} {as : List α} {bs : List β}
    (h : List.Forall₂ R as bs) {i : Nat} {a : α} (ha : as[i]? = some a) :
    ∃ b, bs[i]? = some b ∧ R a b := by
  induction h generalizing i with
  | nil => cases ha
  | cons hab _ ih =>
    cases i with
    | zero =>
      cases ha
      exact ⟨_, rfl, hab⟩
    | succ i => exact ih ha

theorem exists_right {α β : Type} {R : α → β → Prop} {as : List α} {bs : List β}
    (h : List.Forall₂ R as bs) {a : α} (ha : a ∈ as) : ∃ b ∈ bs, R a b := by
  induction h with
  | nil => cases ha
  | cons hab _ ih =>
    rcases List.mem_cons.1 ha with rfl | ha
    · exact ⟨_, List.mem_cons_self, hab⟩
    · obtain ⟨b, hb, hr⟩ := ih ha
      exact ⟨b, List.mem_cons_of_mem _ hb, hr⟩

theorem exists_left {α β : Type} {R : α → β → Prop} {as : List α} {bs : List β}
    (h : List.Forall₂ R as bs) {b : β} (hb : b ∈ bs) : ∃ a ∈ as, R a b :=
  exists_right h.flip hb

theorem map_place_eq (h : List.Forall₂ Worker.Later ks ks') :
    ks'.map Worker.place = ks.map Worker.place := by
  induction h with
  | nil => rfl
  | cons hab _ ih => rw [List.map_cons, List.map_cons, ih, hab.place]

theorem later_set {i : Nat} {v v' : Worker} (hv : ks[i]? = some v) (hl : v.Later v') :
    List.Forall₂ Worker.Later ks (ks.set i v') := by
  induction ks generalizing i with
  | nil => cases hv
  | cons k ks ih =>
    cases i with
    | zero =>
      cases hv
      exact .cons hl (later_refl ks)
    | succ i => exact .cons (Worker.Later.refl k) (ih hv)

theorem map_set_of_eq {α β : Type} {f : α → β} {l : List α} {i : Nat} {a a' : α}
    (ha : l[i]? = some a) (h : f a' = f a) : (l.set i a').map f = l.map f := by
  obtain ⟨hi, hai⟩ := List.getElem?_eq_some_iff.1 ha
  rw [List.map_set, h, ← List.map_set, ← hai, List.set_getElem_self]

theorem forall_mem_concat {α : Type} {P : α → Prop} {l : List α} {a : α} (h : ∀ b ∈ l, P b)
    (ha : P a) : ∀ b ∈ l ++ [a], P b :=
  List.forall_mem_append.2 ⟨h, List.forall_mem_singleton.2 ha⟩

theorem forall_mem_set {α : Type} {P : α → Prop} {l : List α} {i : Nat} {a : α}
    (h : ∀ b ∈ l, P b) (ha : P a) : ∀ b ∈ l.set i a, P b := by
  intro b hb
  rcases List.mem_or_eq_of_mem_set hb with hb | rfl
  · exact h b hb
  · exact ha

theorem of_getElem?_concat {α : Type} {l : List α} {a b : α} {i : Nat}
    (hb : (l ++ [a])[i]? = some b) : (i < l.length ∧ l[i]? = some b) ∨ (i = l.length ∧ b = a) := by
  rcases Nat.lt_trichotomy i l.length with hi | rfl | hi
  · rw [List.getElem?_append_left hi] at hb
    exact .inl ⟨hi, hb⟩
  · rw [List.getElem?_concat_length] at hb
    cases hb
    exact .inr ⟨rfl, rfl⟩
  · rw [List.getElem?_eq_none (by rw [List.length_append]; exact hi)] at hb
    cases hb

theorem set_length_concat {α : Type} (l : List α) (a b : α) :
    (l ++ [a]).set l.length b = l ++ [b] := by
  rw [List.set_append_right _ _ (Nat.le_refl _), Nat.sub_self]
  rfl

theorem set_concat {α : Type} {l : List α} {a b : α} {i : Nat} (b' : α)
    (hb : (l ++ [a])[i]? = some b) :
    (i < l.length ∧ l[i]? = some b ∧ (l ++ [a]).set i b' = l.set i b' ++ [a]) ∨
    (i = l.length ∧ b = a ∧ (l ++ [a]).set i b' = l ++ [b']) := by
  rcases of_getElem?_concat hb with ⟨hi, hb⟩ | ⟨rfl, rfl⟩
  · exact .inl ⟨hi, hb, List.set_append_left i b' hi⟩
  · exact .inr ⟨rfl, rfl, set_length_concat l b b'⟩

end Lists

/-! ## Calls and outcomes -/

namespace Pipeline

/-- The lines that the stage after some outcomes reads: what the last of them printed. -/
def inputAfter (before : List Outcome) : List Text :=
  match before.getLast? with
  | some r => r.stdout
  | none => []

/-- The call of the stage after those with the given outcomes. -/
def callAfter (p : Pipeline) (before : List Outcome) : Call :=
  { index := before.length, argv := ((p.stages[before.length]?).map Stage.argv).getD [],
    input := inputAfter before, stdoutTarget := Orchestrator.stdoutTargetOf p before.length,
    stderrTarget := p.stderrTarget }

/-- Every outcome is that of a worker of the run `g`, and that worker's call is the one which the
outcomes before it lead to. -/
def Linked (p : Pipeline) (g : Nat) (outcomes : List Outcome) (ks : List Worker) : Prop :=
  ∀ i r, outcomes[i]? = some r → ∃ k ∈ ks, k.generation = g ∧ k.task.outcome? = some r ∧
    k.task.call = p.callAfter (outcomes.take i)

variable {p : Pipeline} {g : Nat} {outcomes : List Outcome} {ks ks' : List Worker}

theorem Linked.nil : p.Linked g [] ks := nofun

theorem Linked.later (h : p.Linked g outcomes ks) (hl : List.Forall₂ Worker.Later ks ks') :
    p.Linked g outcomes ks' := by
  intro i r hr
  obtain ⟨k, hk, hg, ho, hc⟩ := h i r hr
  obtain ⟨k', hk', hkl⟩ := exists_right hl hk
  exact ⟨k', hk', hkl.generation.trans hg, hkl.outcome r ho, hkl.call.trans hc⟩

/-- One more outcome, of the worker that was at work. -/
theorem Linked.concat (h : p.Linked g outcomes ks) {k : Worker} {r : Outcome}
    (hg : k.generation = g) (hr : k.task.outcome? = some r)
    (hc : k.task.call = p.callAfter outcomes) : p.Linked g (outcomes ++ [r]) (ks ++ [k]) := by
  intro i r' hr'
  rcases of_getElem?_concat hr' with ⟨hi, hr'⟩ | ⟨rfl, rfl⟩
  · obtain ⟨k', hk', hg', ho', hc'⟩ := h i r' hr'
    refine ⟨k', List.mem_append_left _ hk', hg', ho', ?_⟩
    rw [hc', List.take_append_of_le_length (Nat.le_of_lt hi)]
  · refine ⟨k, List.mem_append_right _ (List.mem_singleton_self k), hg, hr, ?_⟩
    rw [hc, List.take_left]

end Pipeline

namespace Orchestrator

variable {ω : Type}

/-! ## The invariant -/

/-- No run is in progress. -/
structure Idle (o : Orchestrator ω) : Prop where
  running : o.running = false
  cursor : o.cursor = 0
  current : o.current = none
  completions : o.completions = none
  watched : o.watched = false
  stopping : o.stopping = none

/-- The worker `k` is at work for the current run, and `d` is the run's driver; `ks` and `ds` are
the workers and drivers before them.  The worker is the current one, or a stop waits for it. -/
structure AtWork (o : Orchestrator ω) (ks : List Worker) (k : Worker) (ds : List Driver)
    (d : Driver) : Prop where
  running : o.running = true
  completions : o.completions = some o.generation
  watched : o.watched = true
  workers : o.workers = ks ++ [k]
  drivers : o.drivers = ds ++ [d]
  held : (o.current = some ks.length ∧ o.stopping = none ∧ k.killSent = false) ∨
    (o.current = none ∧ o.stopping = some ks.length)
  generation : k.generation = o.generation
  uncollected : k.collected = false
  call : k.task.call = o.pipeline.callAfter o.outcomes
  cursor : o.cursor = o.outcomes.length + 1
  unstopped : ∀ r ∈ o.outcomes, r.status ≠ .stopped
  driverGeneration : d.generation = o.generation
  live : d.isLive = true
  pending : d.pending = k.sent
  older : ∀ d' ∈ ds, d'.generation < o.generation

/-- The workers that are not at work any more. -/
def settled (o : Orchestrator ω) : List Worker :=
  if o.running then o.workers.dropLast else o.workers

/-- What holds at any time. -/
structure Inv (o : Orchestrator ω) : Prop where
  valid : o.pipeline.isValid = true
  fits : ∀ k ∈ o.workers, k.Fits o.pipeline
  bound : ∀ k ∈ o.workers, k.generation ≤ o.generation
  ordered : (o.workers.map Worker.place).Pairwise Precedes
  driverBound : ∀ d ∈ o.drivers, d.generation ≤ o.generation
  done : ∀ k ∈ o.settled, k.reported = true
  linked : o.pipeline.Linked o.generation o.outcomes o.settled
  phase : o.Idle ∨ ∃ ks k ds d, o.AtWork ks k ds d

theorem settled_sublist (o : Orchestrator ω) : o.settled.Sublist o.workers := by
  unfold settled
  split
  · exact List.dropLast_sublist _
  · exact List.Sublist.refl _

theorem mem_workers_of_settled {o : Orchestrator ω} {k : Worker} (h : k ∈ o.settled) :
    k ∈ o.workers :=
  (settled_sublist o).subset h

theorem Idle.settled {o : Orchestrator ω} (h : o.Idle) : o.settled = o.workers := by
  unfold Orchestrator.settled
  rw [h.running]
  rfl

section AtWork

variable {o : Orchestrator ω} {ks : List Worker} {k : Worker} {ds : List Driver} {d : Driver}

theorem AtWork.settled (h : o.AtWork ks k ds d) : o.settled = ks := by
  unfold Orchestrator.settled
  rw [h.running, if_pos rfl, h.workers, List.dropLast_concat]

theorem AtWork.mem (h : o.AtWork ks k ds d) : k ∈ o.workers := by
  rw [h.workers]
  exact List.mem_append_right _ (List.mem_singleton_self k)

theorem AtWork.index (h : o.AtWork ks k ds d) : k.task.index = o.outcomes.length :=
  congrArg Call.index h.call

theorem AtWork.completion? (h : o.AtWork ks k ds d) {r : Outcome}
    (hr : k.task.outcome? = some r) :
    k.completion? = some { generation := o.generation, outcome := r } :=
  Worker.completion?_eq_some_iff.2 ⟨h.generation.symm, hr⟩

/-- The worker of a free orchestrator is the current one and no kill was sent to it. -/
theorem AtWork.current (h : o.AtWork ks k ds d) (hfree : o.isFree = true) :
    o.current = some ks.length ∧ o.stopping = none ∧ k.killSent = false := by
  rcases h.held with hh | ⟨-, hs⟩
  · exact hh
  · unfold isFree at hfree
    rw [hs] at hfree
    cases hfree

/-- A completion in the hands of the run's driver is that of the worker at work, and nothing else
is pending. -/
theorem AtWork.of_inHand (h : o.AtWork ks k ds d) {c : Completion} (hc : d.inHand = some c) :
    c.generation = o.generation ∧ k.task.outcome? = some c.outcome ∧ k.reported = true ∧
      d.queue = [] := by
  have hp := h.pending
  unfold Driver.pending at hp
  rw [hc] at hp
  have hm : c ∈ k.sent := by
    rw [← hp]
    exact List.mem_cons_self
  obtain ⟨hr, hk⟩ := Worker.of_mem_sent hm
  rw [Worker.sent_of_reported hr hk] at hp
  obtain ⟨hg, ho⟩ := Worker.completion?_eq_some_iff.1 hk
  exact ⟨hg.trans h.generation, ho, hr, (List.cons.inj hp).2⟩

end AtWork

theorem Inv.atWork {o : Orchestrator ω} (h : o.Inv) (hrun : o.running = true) :
    ∃ ks k ds d, o.AtWork ks k ds d := by
  rcases h.phase with hi | hw
  · rw [hi.running] at hrun
    cases hrun
  · exact hw

theorem Inv.atWork_of_workers {o : Orchestrator ω} (h : o.Inv) (hrun : o.running = true)
    {ks : List Worker} {k : Worker} (hworkers : o.workers = ks ++ [k]) :
    ∃ ds d, o.AtWork ks k ds d := by
  obtain ⟨ks', k', ds, d, hw⟩ := h.atWork hrun
  obtain ⟨rfl, hk⟩ := List.append_inj' (hw.workers.symm.trans hworkers) rfl
  obtain rfl := List.singleton_inj.1 hk
  exact ⟨ds, d, hw⟩

theorem Inv.idle {o : Orchestrator ω} (h : o.Inv) (hrun : o.running = false) : o.Idle := by
  rcases h.phase with hi | ⟨_, _, _, _, hw⟩
  · exact hi
  · rw [hw.running] at hrun
    cases hrun

end Orchestrator

end Relay
