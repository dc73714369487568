import Mathlib.Data.List.Nodup
import Relay.Proofs.Orchestrator.InFlight

/-!
# What is recorded

The ledger of a history lists every outcome that was recorded, in order, with the step that recorded
it.  `accounted_of_history` compares it with the workers: each worker that is not at work any more
has exactly one entry, which holds its own outcome and was made by a driver or by a stop; there are
no other entries, and the outcomes that callers see are the entries of the current or latest run.
The theorem also says that stale completions change nothing, at any later time, and that between the
end of a run and the next start nothing is recorded or sent at all.
-/

namespace Relay

def Completion.place (c : Completion) : Nat × Nat := (c.generation, c.outcome.index)

theorem Worker.Fits.place_eq {k : Worker} {p : Pipeline} (h : k.Fits p) {c : Completion}
    (hc : k.completion? = some c) : c.place = k.place := by
  obtain ⟨hg, hr⟩ := Worker.completion?_eq_some_iff.1 hc
  unfold Completion.place Worker.place
  rw [hg, (h.own _ hr).1]

namespace Orchestrator

variable {ω : Type}

/-! ## The ledger -/

/-- A recorded outcome, as the completion of its run, with the step that recorded it. -/
structure Entry (ω : Type) where
  step : Step ω
  completion : Completion

/-- The outcomes that a transition recorded: those that were not there before in the same run. -/
def Transition.entries (t : Transition ω) : List (Entry ω) :=
  let known := if t.after.generation = t.before.generation then t.before.outcomes.length else 0
  (t.after.outcomes.drop known).map fun r =>
    { step := t.step, completion := { generation := t.after.generation, outcome := r } }

def ledger (ts : List (Transition ω)) : List (Entry ω) := ts.flatMap Transition.entries

theorem ledger_concat (ts : List (Transition ω)) (t : Transition ω) :
    ledger (ts ++ [t]) = ledger ts ++ t.entries := by
  unfold ledger
  rw [List.flatMap_append, List.flatMap_singleton]

/-- What a step means for the ledger, with the workers that are not at work any more: nothing, or a
new run has no outcomes yet, or the outcome of one more worker is recorded. -/
inductive Books (o : Orchestrator ω) (s : Step ω) (o' : Orchestrator ω) : Prop where
  | same (generation : o'.generation = o.generation) (outcomes : o'.outcomes = o.outcomes)
      (settled : List.Forall₂ Worker.Later o.settled o'.settled)
  | opened (generation : o'.generation = o.generation + 1) (outcomes : o'.outcomes = [])
      (settled : o'.settled = o.settled)
  | entered {k : Worker} {c : Completion} (step : s = .endStop ∨ ∃ d, s = .act d)
      (generation : o'.generation = o.generation) (own : c.generation = o.generation)
      (ended : k.completion? = some c) (outcomes : o'.outcomes = o.outcomes ++ [c.outcome])
      (settled : o'.settled = o.settled ++ [k])

section Moves

variable {o o' : Orchestrator ω} {s : Step ω}

theorem Still.settled (h : o.Still o') : List.Forall₂ Worker.Later o.settled o'.settled := by
  unfold Orchestrator.settled
  rw [h.running]
  split
  · rw [List.dropLast_eq_take, List.dropLast_eq_take, h.later.length_eq]
    exact List.forall₂_take _ h.later
  · exact h.later

variable [FileStore ω]

theorem Move.books (h : o.Move s o') : o.Books s o' := by
  cases h with
  | still same => exact .same same.generation same.outcomes same.settled
  | refused hi => exact .opened rfl rfl hi.settled.symm
  | begun hi =>
    refine .opened rfl rfl ?_
    rw [hi.settled]
    exact List.dropLast_concat
  | @stopped ks k ds d r hw hr =>
    have hl : k.Later { k with collected := true } := Worker.Later.of_task_eq rfl rfl id
    refine .entered (.inl rfl) rfl rfl (hl.completion? (hw.completion? hr)) rfl ?_
    rw [hw.settled]
    rfl
  | advanced hw hr =>
    refine .entered (.inr ⟨_, rfl⟩) rfl rfl (hw.completion? hr) rfl ?_
    rw [hw.settled, ← hw.workers]
    show (if o.running then (o.workers ++ [_]).dropLast else _) = o.workers
    rw [if_pos hw.running, List.dropLast_concat]
  | completed hw hr =>
    refine .entered (.inr ⟨_, rfl⟩) rfl rfl (hw.completion? hr) rfl ?_
    rw [hw.settled]
    exact hw.workers
  | cut hw hr =>
    refine .entered (.inr ⟨_, rfl⟩) rfl rfl (hw.completion? hr) rfl ?_
    rw [hw.settled]
    exact hw.workers

end Moves

/-! ## The ledger against the workers -/

/-- The entry holds the worker's own outcome. -/
def Entry.IsOf (e : Entry ω) (k : Worker) : Prop := k.completion? = some e.completion

/-- How the ledger of a history compares with the state behind it. -/
structure Balanced (ts : List (Transition ω)) (o : Orchestrator ω) : Prop where
  entered : List.Forall₂ Entry.IsOf (ledger ts) o.settled
  outcomes : o.outcomes = ((ledger ts).filter fun e => e.completion.generation = o.generation).map
    fun e => e.completion.outcome
  step : ∀ e ∈ ledger ts, e.step = .endStop ∨ ∃ d, e.step = .act d

theorem isOf_later {es : List (Entry ω)} {ks ks' : List Worker}
    (h : List.Forall₂ Entry.IsOf es ks) (hl : List.Forall₂ Worker.Later ks ks') :
    List.Forall₂ Entry.IsOf es ks' := by
  induction h generalizing ks' with
  | nil =>
    cases hl
    exact .nil
  | cons hc _ ih =>
    cases hl with
    | cons hl hls => exact .cons (hl.completion? hc) (ih hls)

theorem Balanced.generation_le {ts : List (Transition ω)} {o : Orchestrator ω}
    (h : Balanced ts o) (hinv : o.Inv) {e : Entry ω} (he : e ∈ ledger ts) :
    e.completion.generation ≤ o.generation := by
  obtain ⟨k, hk, hc⟩ := exists_right h.entered he
  rw [(Worker.completion?_eq_some_iff.1 hc).1]
  exact hinv.bound k (mem_workers_of_settled hk)

theorem Balanced.concat {ts : List (Transition ω)} {o o' : Orchestrator ω} {s : Step ω}
    (h : Balanced ts o) (hinv : o.Inv) (hb : o.Books s o') :
    Balanced (ts ++ [⟨o, s, o'⟩]) o' := by
  cases hb with
  | same hg ho hs =>
    have he : Transition.entries ⟨o, s, o'⟩ = [] := by
      unfold Transition.entries
      simp only [hg, ho, if_true, List.drop_length, List.map_nil]
    refine ⟨?_, ?_, ?_⟩ <;> rw [ledger_concat, he, List.append_nil]
    · exact isOf_later h.entered hs
    · rw [hg, ho]
      exact h.outcomes
    · exact h.step
  | opened hg ho hs =>
    have he : Transition.entries ⟨o, s, o'⟩ = [] := by
      unfold Transition.entries
      simp only [ho, List.drop_nil, List.map_nil]
    refine ⟨?_, ?_, ?_⟩ <;> rw [ledger_concat, he, List.append_nil]
    · rw [hs]
      exact h.entered
    · -- the entries so far belong to earlier runs
      have hnone : (ledger ts).filter (fun e => e.completion.generation = o'.generation) = [] := by
        rw [List.filter_eq_nil_iff]
        intro e hmem heq
        have hle := h.generation_le hinv hmem
        have heq' : e.completion.generation = o'.generation := by simpa using heq
        omega
      rw [ho, hnone]
      rfl
    · exact h.step
  | @entered k c hstep hg hown hover ho hs =>
    have he : Transition.entries ⟨o, s, o'⟩ = [⟨s, c⟩] := by
      unfold Transition.entries
      simp only [hg, ho, if_true, List.drop_left, List.map_cons, List.map_nil, ← hown]
    refine ⟨?_, ?_, ?_⟩ <;> rw [ledger_concat, he]
    · rw [hs]
      exact List.rel_append h.entered (.cons hover .nil)
    · rw [List.filter_append, List.map_append, hg, ← h.outcomes, ho, List.filter_singleton, hown]
      simp
    · exact forall_mem_concat h.step hstep

theorem balanced_of_history [FileStore ω] {p : Pipeline} {settings : Settings} {world : ω}
    {o₀ o : Orchestrator ω} {ts : List (Transition ω)}
    (h₀ : ofPipeline p settings world = .ok o₀) (ht : History o₀ ts o) : Balanced ts o := by
  induction ht with
  | nil =>
    obtain ⟨-, rfl⟩ := of_ofPipeline h₀
    exact ⟨.nil, rfl, fun _ he => absurd he List.not_mem_nil⟩
  | snoc ht hs ih =>
    have hinv := (inv_of_history h₀ ht).1
    exact ih.concat hinv (hinv.next hs).2.books

/-! ## Each worker once -/

theorem filter_eq_singleton {α β : Type} [DecidableEq β] {f : α → β} {l : List α} {a : α}
    (h : (l.map f).Nodup) (ha : a ∈ l) : (l.filter fun b => f b = f a) = [a] := by
  induction l with
  | nil => cases ha
  | cons b l ih =>
    rw [List.map_cons, List.nodup_cons] at h
    rcases List.mem_cons.1 ha with rfl | ha
    · have hnone : (l.filter fun b => f b = f a) = [] := by
        rw [List.filter_eq_nil_iff]
        intro b hb heq
        have heq' : f b = f a := by simpa using heq
        exact h.1 (heq' ▸ List.mem_map_of_mem hb)
      rw [List.filter_cons_of_pos (by simp), hnone]
    · have hne : f b ≠ f a := fun heq => h.1 (heq ▸ List.mem_map_of_mem ha)
      rw [List.filter_cons_of_neg (by simpa using hne), ih h.2 ha]

theorem places_eq {es : List (Entry ω)} {ks : List Worker} {p : Pipeline}
    (h : List.Forall₂ Entry.IsOf es ks) (hfits : ∀ k ∈ ks, k.Fits p) :
    es.map (fun e => e.completion.place) = ks.map Worker.place := by
  induction h with
  | nil => rfl
  | cons hc _ ih =>
    rw [List.map_cons, List.map_cons, (hfits _ List.mem_cons_self).place_eq hc,
      ih fun k hk => hfits k (List.mem_cons_of_mem _ hk)]

theorem Inv.nodup_places {o : Orchestrator ω} (h : o.Inv) : (o.workers.map Worker.place).Nodup :=
  h.ordered.imp fun hab heq => by
    subst heq
    unfold Precedes at hab
    omega

/-- How the outcomes that a history recorded belong to the workers. -/
structure Accounted (ts : List (Transition ω)) (o : Orchestrator ω) : Prop where
  /-- Only the latest worker of a run in progress may still be at work. -/
  settled : ∀ k ∈ o.workers, k ∈ o.settled ∨
    o.running = true ∧ k.generation = o.generation ∧ o.workers.getLast? = some k
  /-- No two workers have the same place. -/
  distinct : (o.workers.map Worker.place).Nodup
  /-- A worker that is not at work any more has one entry: its own outcome, recorded by a stop or by
  a driver. -/
  once : ∀ k ∈ o.settled, ∃ e : Entry ω,
    (ledger ts).filter (fun e => e.completion.place = k.place) = [e] ∧
      k.completion? = some e.completion ∧ (e.step = .endStop ∨ ∃ d, e.step = .act d)
  /-- A worker at work has none. -/
  notYet : ∀ k ∈ o.workers, k ∉ o.settled →
    (ledger ts).filter (fun e => e.completion.place = k.place) = []
  /-- Every entry is that of a worker. -/
  own : ∀ e ∈ ledger ts, ∃ k ∈ o.workers, k.completion? = some e.completion
  /-- The outcomes are the entries of the current or latest run. -/
  outcomes : o.outcomes = ((ledger ts).filter fun e => e.completion.generation = o.generation).map
    fun e => e.completion.outcome

theorem Balanced.accounted {ts : List (Transition ω)} {o : Orchestrator ω} (h : Balanced ts o)
    (hinv : o.Inv) : Accounted ts o := by
  have hfits : ∀ k ∈ o.settled, k.Fits o.pipeline :=
    fun k hk => hinv.fits k (mem_workers_of_settled hk)
  have hplaces := places_eq h.entered hfits
  have hnodup : ((ledger ts).map fun e => e.completion.place).Nodup := by
    rw [hplaces]
    exact ((settled_sublist o).map _).nodup hinv.nodup_places
  refine ⟨fun k hk => ?_, hinv.nodup_places, fun k hk => ?_, fun k hk hnot => ?_, fun e he => ?_,
    h.outcomes⟩
  · rcases hinv.phase with hi | ⟨ks, k', ds, d, hw⟩
    · rw [hi.settled]
      exact .inl hk
    · rw [hw.settled]
      rw [hw.workers] at hk
      rcases List.mem_append.1 hk with hk | hk
      · exact .inl hk
      · rw [List.mem_singleton.1 hk]
        refine .inr ⟨hw.running, hw.generation, ?_⟩
        rw [hw.workers, List.getLast?_concat]
  · obtain ⟨e, he, hc⟩ := exists_left h.entered hk
    refine ⟨e, ?_, hc, h.step e he⟩
    rw [← (hfits k hk).place_eq hc]
    exact filter_eq_singleton hnodup he
  · -- an entry with this place would be that of another worker with the same place
    rw [List.filter_eq_nil_iff]
    intro e he heq
    obtain ⟨k', hk', hc⟩ := exists_right h.entered he
    have hplace : k'.place = k.place := by
      rw [← (hfits k' hk').place_eq hc]
      simpa using heq
    have hkk := List.inj_on_of_nodup_map hinv.nodup_places (mem_workers_of_settled hk') hk hplace
    rw [hkk] at hk'
    exact hnot hk'
  · obtain ⟨k, hk, hc⟩ := exists_right h.entered he
    exact ⟨k, mem_workers_of_settled hk, hc⟩

/-! ## Between two runs -/

/-- Between the end of a run and the next start nothing is recorded or sent. -/
theorem Inv.idle_history [FileStore ω] {o o' : Orchestrator ω} {ts : List (Transition ω)}
    (h : o.Inv) (hrun : o.running = false) (ht : History o ts o')
    (hno : ∀ t ∈ ts, t.step ≠ .start) :
    o'.running = false ∧ o'.outcomes = o.outcomes ∧ o'.log = o.log := by
  induction ht with
  | nil => exact ⟨hrun, rfl, rfl⟩
  | @snoc ts m o' s ht hs ih =>
    obtain ⟨hm, ho, hl⟩ := ih fun t hmem => hno t (List.mem_append_left _ hmem)
    have hs' : s ≠ .start := hno _ (List.mem_append_right _ (List.mem_singleton_self _))
    cases ((h.history ht).next hs).2 with
    | still same => exact ⟨same.running.trans hm, same.outcomes.trans ho, same.log.trans hl⟩
    | refused => exact absurd rfl hs'
    | begun => exact absurd rfl hs'
    | stopped hw => exact absurd (hm.symm.trans hw.running) Bool.false_ne_true
    | advanced hw => exact absurd (hm.symm.trans hw.running) Bool.false_ne_true
    | completed hw => exact absurd (hm.symm.trans hw.running) Bool.false_ne_true
    | cut hw => exact absurd (hm.symm.trans hw.running) Bool.false_ne_true

/-! ## All together -/

/-- **No outcome is lost, recorded twice or given to another worker**, in whatever order starts,
stops, tasks and drivers take their steps.  A stale completion changes nothing at any later time,
and while no run is in progress nothing but a start changes the outcomes. -/
theorem accounted_of_history [FileStore ω] {p : Pipeline} {settings : Settings} {world : ω}
    {o₀ o : Orchestrator ω} {ts : List (Transition ω)}
    (h₀ : ofPipeline p settings world = .ok o₀) (ht : History o₀ ts o) :
    Accounted ts o ∧
    (∀ c ∈ o.inFlight, (o.running = true ∧ c.generation = o.generation) ∨ o.Stale c) ∧
    (∀ c, o.Stale c → ∀ ts' o', History o ts' o' → ∀ i d, o'.drivers[i]? = some d →
      (d.inHand = some c → o'.act i = { o' with drivers := o'.drivers.set i d.left }) ∧
        o'.receive i = { o' with drivers := (o'.receive i).drivers }) ∧
    (o.running = false → ∀ ts' o', History o ts' o' → (∀ t ∈ ts', t.step ≠ .start) →
      o'.running = false ∧ o'.outcomes = o.outcomes ∧ o'.log = o.log) := by
  have hinv := (inv_of_history h₀ ht).1
  have hgenuine₀ : o₀.Genuine := by
    obtain ⟨-, rfl⟩ := of_ofPipeline h₀
    exact fun c hc => absurd hc List.not_mem_nil
  refine ⟨(balanced_of_history h₀ ht).accounted hinv,
    fun c hc => ((inv_of_ofPipeline h₀).genuine_history hgenuine₀ ht).cases hinv hc,
    fun c hc ts' o' ht' i d hd => ⟨fun hin => ?_, o'.receive_eq i⟩,
    fun hrun ts' o' ht' hno => hinv.idle_history hrun ht' hno⟩
  exact act_of_stale hd hin ((hc.history hinv ht').isCurrent_eq_false d)

/-- A stopped run whose completion is still in flight when the next run is under way. -/
theorem accounted_rehearsal :
    let r := rehearsal.follow (.start :: failing 0 ++ [.beginStop, .endStop, .start])
    (ledger r.1).length = 1 ∧ r.2.running = true ∧ r.2.inFlight.length = 1 ∧ Accounted r.1 r.2 :=
  ⟨rfl, rfl, rfl, (accounted_of_history ofPipeline_rehearsal (history_follow rehearsal _)).1⟩

end Orchestrator

end Relay
