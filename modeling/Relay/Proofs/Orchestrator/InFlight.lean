import Relay.Proofs.Orchestrator.Moves

/-!
# Completions in flight

A completion is in flight from the time a worker sends it until a driver acts on it.  Every
completion in flight is that of a worker (`Inv.genuine_history`).  It is of the run in progress or
stale (`Genuine.cases`); a stale one stays stale whatever happens (`Stale.history`), and neither
receiving it nor acting on it changes anything but the driver that does.
-/

namespace Relay.Orchestrator

variable {ω : Type}

/-- The completions that drivers have received or can receive. -/
def inFlight (o : Orchestrator ω) : List Completion := o.drivers.flatMap Driver.pending

/-! ## Where completions come from -/

theorem mem_inFlight_set {ds : List Driver} {i : Nat} {e e' : Driver} {c : Completion}
    (he : ds[i]? = some e) (hsub : ∀ x ∈ e'.pending, x ∈ e.pending)
    (hc : c ∈ (ds.set i e').flatMap Driver.pending) : c ∈ ds.flatMap Driver.pending := by
  obtain ⟨d, hd, hcd⟩ := List.mem_flatMap.1 hc
  rcases List.mem_or_eq_of_mem_set hd with hd | rfl
  · exact List.mem_flatMap.2 ⟨d, hd, hcd⟩
  · exact List.mem_flatMap.2 ⟨e, List.mem_of_getElem? he, hsub c hcd⟩

theorem mem_pending_of_left {d : Driver} {c : Completion} (h : c ∈ d.left.pending) :
    c ∈ d.pending := by
  cases h

theorem mem_pending_of_emptied {d : Driver} {c : Completion}
    (h : c ∈ { d with inHand := none }.pending) : c ∈ d.pending :=
  List.mem_append_right _ h

theorem mem_inFlight_post {ds : List Driver} {c x : Completion}
    (h : x ∈ (post ds c).flatMap Driver.pending) : x = c ∨ x ∈ ds.flatMap Driver.pending := by
  obtain ⟨d', hd', hx⟩ := List.mem_flatMap.1 h
  unfold post at hd'
  obtain ⟨d, hd, rfl⟩ := List.mem_map.1 hd'
  split at hx
  · unfold Driver.pending at hx
    rw [← List.append_assoc, List.mem_append, List.mem_singleton] at hx
    rcases hx with hx | hx
    · exact .inr (List.mem_flatMap.2 ⟨d, hd, hx⟩)
    · exact .inl hx
  · exact .inr (List.mem_flatMap.2 ⟨d, hd, hx⟩)

theorem endStop?_drivers {o o' : Orchestrator ω} (h : o.endStop? = some o') :
    o'.drivers = o.drivers := by
  unfold endStop? at h
  cases hs : o.stopping with
  | none =>
    rw [hs] at h
    cases h
  | some k =>
    cases hk : o.workers[k]? with
    | none =>
      simp only [hs, hk, Option.bind_eq_bind, Option.bind_some, Option.bind_none] at h
      cases h
    | some v =>
      simp only [hs, hk, Option.bind_eq_bind, Option.bind_some] at h
      split at h
      · cases h
      · cases h
        split <;> rfl

theorem beginStop_drivers (o : Orchestrator ω) : o.beginStop.drivers = o.drivers := by
  unfold beginStop
  split
  · rfl
  · split <;> rfl

variable [FileStore ω]

omit [FileStore ω] in
theorem inFlight_report {o : Orchestrator ω} {i : Nat} {c : Completion}
    (hc : c ∈ (o.report i).inFlight) :
    c ∈ o.inFlight ∨ ∃ k ∈ o.workers, k.completion? = some c := by
  rcases o.report_cases i with hr | ⟨v, x, hv, hx, -, hr⟩
  · rw [hr] at hc
    exact .inl hc
  · rw [hr] at hc
    rcases mem_inFlight_post hc with rfl | hc
    · exact .inr ⟨v, List.mem_of_getElem? hv, hx⟩
    · exact .inl hc

omit [FileStore ω] in
theorem inFlight_receive {o : Orchestrator ω} {i : Nat} {c : Completion}
    (hc : c ∈ (o.receive i).inFlight) : c ∈ o.inFlight := by
  rcases o.receive_cases i with hr | ⟨e, x, queue, he, -, hnone, hqueue, hr⟩ | ⟨e, he, -, hr⟩
  · rw [hr] at hc
    exact hc
  · rw [hr] at hc
    refine mem_inFlight_set he (fun y hy => ?_) hc
    unfold Driver.pending at hy ⊢
    rw [hnone, hqueue]
    exact hy
  · rw [hr] at hc
    refine mem_inFlight_set he (fun y hy => ?_) hc
    exact hy

theorem inFlight_act {o : Orchestrator ω} {i : Nat} {c : Completion}
    (hc : c ∈ (o.act i).inFlight) : c ∈ o.inFlight := by
  rcases o.act_cases i with ⟨-, hs⟩ | ⟨e, x, he, -, ⟨-, hs⟩ | ⟨-, hs⟩⟩
  · rwa [hs] at hc
  · rw [hs] at hc
    exact mem_inFlight_set he (fun _ => mem_pending_of_left) hc
  · rw [hs, (o.advance_keeps _).1] at hc
    refine mem_inFlight_set he (fun y hy => ?_) hc
    split at hy
    · exact mem_pending_of_emptied hy
    · exact mem_pending_of_left hy

theorem inFlight_start {o : Orchestrator ω} {c : Completion} (hc : c ∈ o.start.2.inFlight) :
    c ∈ o.inFlight := by
  unfold inFlight at hc ⊢
  rcases o.start_keeps.1 with hd | hd
  · rw [hd] at hc
    exact hc
  · rw [hd, List.flatMap_append, List.flatMap_singleton] at hc
    rcases List.mem_append.1 hc with hc | hc
    · exact hc
    · cases hc

/-- Only a report puts a completion in flight, and it is that of a worker. -/
theorem inFlight_next {o o' : Orchestrator ω} {s : Step ω} (hs : o.next? s = some o')
    {c : Completion} (hc : c ∈ o'.inFlight) :
    c ∈ o.inFlight ∨ ∃ k ∈ o.workers, k.completion? = some c := by
  unfold next? nextBy? at hs
  split at hs
  · obtain ⟨-, rfl⟩ := Option.ite_some_none_eq_some.1 hs
    exact .inl (inFlight_start hc)
  · obtain ⟨-, rfl⟩ := Option.ite_some_none_eq_some.1 hs
    unfold inFlight at hc ⊢
    rw [beginStop_drivers] at hc
    exact .inl hc
  · unfold inFlight at hc ⊢
    rw [endStop?_drivers hs] at hc
    exact .inl hc
  · rename_i k signal
    cases hs
    cases hv : o.workers[k]? with
    | none =>
      rw [work_eq_self hv] at hc
      exact .inl hc
    | some v =>
      rw [work_eq hv] at hc
      exact .inl hc
  · cases hs
    exact inFlight_report hc
  · cases hs
    exact .inl (inFlight_receive hc)
  · obtain ⟨-, rfl⟩ := Option.ite_some_none_eq_some.1 hs
    exact .inl (inFlight_act hc)
  · cases hs
    exact .inl hc

/-! ## Genuine completions -/

def Genuine (o : Orchestrator ω) : Prop :=
  ∀ c ∈ o.inFlight, ∃ k ∈ o.workers, k.completion? = some c

/-- A worker is still there after any step. -/
theorem Move.exists_later {o o' : Orchestrator ω} {s : Step ω} (h : o.Move s o') {k : Worker}
    (hk : k ∈ o.workers) : ∃ k' ∈ o'.workers, k.Later k' := by
  cases h with
  | still same => exact exists_right same.later hk
  | refused => exact ⟨k, hk, Worker.Later.refl k⟩
  | begun => exact ⟨k, List.mem_append_left _ hk, Worker.Later.refl k⟩
  | @stopped ks v ds d r hw hr =>
    have hl : v.Later { v with collected := true } := Worker.Later.of_task_eq rfl rfl id
    exact exists_right (hw.later_concat hl) hk
  | advanced => exact ⟨k, List.mem_append_left _ hk, Worker.Later.refl k⟩
  | completed => exact ⟨k, hk, Worker.Later.refl k⟩
  | cut => exact ⟨k, hk, Worker.Later.refl k⟩

theorem Genuine.next {o o' : Orchestrator ω} {s : Step ω} (h : o.Genuine) (hinv : o.Inv)
    (hs : o.next? s = some o') : o'.Genuine := by
  intro c hc
  have hk : ∃ k ∈ o.workers, k.completion? = some c := by
    rcases inFlight_next hs hc with hc | hk
    · exact h c hc
    · exact hk
  obtain ⟨k, hk, hkc⟩ := hk
  obtain ⟨k', hk', hl⟩ := (hinv.next hs).2.exists_later hk
  exact ⟨k', hk', hl.completion? hkc⟩

theorem Inv.genuine_history {o o' : Orchestrator ω} {ts : List (Transition ω)} (hinv : o.Inv)
    (h : o.Genuine) (ht : History o ts o') : o'.Genuine := by
  induction ht with
  | nil => exact h
  | snoc ht hs ih => exact ih.next (hinv.history ht) hs

/-! ## Stale completions -/

omit [FileStore ω]

/-- A completion of an earlier run, or of the latest run when it is over. -/
def Stale (o : Orchestrator ω) (c : Completion) : Prop :=
  c.generation < o.generation ∨ c.generation = o.generation ∧ o.running = false

/-- A completion in flight is of the run in progress, or it is stale. -/
theorem Genuine.cases {o : Orchestrator ω} (h : o.Genuine) (hinv : o.Inv) {c : Completion}
    (hc : c ∈ o.inFlight) : (o.running = true ∧ c.generation = o.generation) ∨ o.Stale c := by
  obtain ⟨k, hk, hkc⟩ := h c hc
  have hle : c.generation ≤ o.generation := by
    rw [(Worker.completion?_eq_some_iff.1 hkc).1]
    exact hinv.bound k hk
  unfold Stale
  cases hrun : o.running with
  | true => rcases Nat.lt_or_eq_of_le hle with hlt | heq <;> simp [*]
  | false => rcases Nat.lt_or_eq_of_le hle with hlt | heq <;> simp [*]

theorem Stale.isCurrent_eq_false {o : Orchestrator ω} {c : Completion} (h : o.Stale c)
    (d : Driver) : o.isCurrent d c = false := by
  unfold isCurrent
  rcases h with hlt | ⟨-, hrun⟩
  · have hne : (c.generation == o.generation) = false := by
      rw [beq_eq_false_iff_ne]
      exact Nat.ne_of_lt hlt
    rw [hne, Bool.and_false]
  · rw [hrun]
    rfl

theorem receive_eq (o : Orchestrator ω) (i : Nat) :
    o.receive i = { o with drivers := (o.receive i).drivers } := by
  rcases o.receive_cases i with h | ⟨e, c, queue, -, -, -, -, h⟩ | ⟨e, -, -, h⟩ <;> rw [h]

variable [FileStore ω]

theorem Stale.next {o o' : Orchestrator ω} {s : Step ω} {c : Completion} (h : o.Stale c)
    (hm : o.Move s o') : o'.Stale c := by
  have hle : c.generation ≤ o.generation := h.elim Nat.le_of_lt fun he => Nat.le_of_eq he.1
  have hrun : o.running = true → c.generation < o.generation := by
    intro hrun
    rcases h with hlt | ⟨-, hidle⟩
    · exact hlt
    · rw [hidle] at hrun
      cases hrun
  cases hm with
  | still same =>
    unfold Stale
    rw [same.generation, same.running]
    exact h
  | refused => exact .inl (Nat.lt_succ_of_le hle)
  | begun => exact .inl (Nat.lt_succ_of_le hle)
  | stopped hw => exact .inl (hrun hw.running)
  | advanced hw => exact .inl (hrun hw.running)
  | completed hw => exact .inl (hrun hw.running)
  | cut hw => exact .inl (hrun hw.running)

theorem Stale.history {o o' : Orchestrator ω} {ts : List (Transition ω)} {c : Completion}
    (h : o.Stale c) (hinv : o.Inv) (ht : History o ts o') : o'.Stale c := by
  induction ht with
  | nil => exact h
  | snoc ht hs ih => exact ih.next ((hinv.history ht).next hs).2

end Relay.Orchestrator
