import Relay.Proofs.Orchestrator.Invariant

/-!
# Steps that leave the run alone

Most steps change nothing of a run: a task makes progress, a worker reports, a driver receives a
completion or gives up a stale one, programs change files.  `Quiet` says what such steps have in
common, and each of them keeps the invariant.  Two facts carry this: a settled worker has reported
before, so the run's driver gets no completion but that of the worker at work (`Inv.report`), and
the run's driver never holds a stale completion (`Inv.act_stale`).
-/

namespace Relay.Orchestrator

variable {ω : Type}

/-- A step that changes workers, drivers and files only, and no worker's call or outcome. -/
structure Quiet (o o' : Orchestrator ω) : Prop where
  pipeline : o'.pipeline = o.pipeline
  settings : o'.settings = o.settings
  running : o'.running = o.running
  cursor : o'.cursor = o.cursor
  generation : o'.generation = o.generation
  current : o'.current = o.current
  completions : o'.completions = o.completions
  outcomes : o'.outcomes = o.outcomes
  watched : o'.watched = o.watched
  log : o'.log = o.log
  stopping : o'.stopping = o.stopping
  later : List.Forall₂ Worker.Later o.workers o'.workers

theorem quiet_of_later (o : Orchestrator ω) {ks : List Worker} (ds : List Driver) (world : ω)
    (h : List.Forall₂ Worker.Later o.workers ks) :
    o.Quiet { o with workers := ks, drivers := ds, world } :=
  ⟨rfl, rfl, rfl, rfl, rfl, rfl, rfl, rfl, rfl, rfl, rfl, h⟩

theorem Quiet.refl (o : Orchestrator ω) : o.Quiet o :=
  o.quiet_of_later o.drivers o.world (later_refl _)

theorem Quiet.trans {o o' o'' : Orchestrator ω} (h : o.Quiet o') (h' : o'.Quiet o'') :
    o.Quiet o'' where
  pipeline := h'.pipeline.trans h.pipeline
  settings := h'.settings.trans h.settings
  running := h'.running.trans h.running
  cursor := h'.cursor.trans h.cursor
  generation := h'.generation.trans h.generation
  current := h'.current.trans h.current
  completions := h'.completions.trans h.completions
  outcomes := h'.outcomes.trans h.outcomes
  watched := h'.watched.trans h.watched
  log := h'.log.trans h.log
  stopping := h'.stopping.trans h.stopping
  later := later_trans h.later h'.later

section Keep

variable {o o' : Orchestrator ω}

theorem Idle.quiet (h : o.Idle) (hq : o.Quiet o') : o'.Idle where
  running := hq.running.trans h.running
  cursor := hq.cursor.trans h.cursor
  current := hq.current.trans h.current
  completions := hq.completions.trans h.completions
  watched := hq.watched.trans h.watched
  stopping := hq.stopping.trans h.stopping

theorem AtWork.quiet {ks ks' : List Worker} {k k' : Worker} {ds ds' : List Driver}
    {d d' : Driver} (h : o.AtWork ks k ds d) (hq : o.Quiet o')
    (hworkers : o'.workers = ks' ++ [k']) (hdrivers : o'.drivers = ds' ++ [d'])
    (hks : List.Forall₂ Worker.Later ks ks') (hk : k.Later k')
    (hkill : k'.killSent = k.killSent) (hcol : k'.collected = k.collected)
    (hgen : d'.generation = d.generation) (hlive : d'.isLive = true)
    (hpend : d'.pending = k'.sent) (hold : ∀ e ∈ ds', e.generation < o.generation) :
    o'.AtWork ks' k' ds' d' where
  running := hq.running.trans h.running
  completions := by rw [hq.completions, hq.generation, h.completions]
  watched := hq.watched.trans h.watched
  workers := hworkers
  drivers := hdrivers
  held := by
    rw [hq.current, hq.stopping, ← hks.length_eq, hkill]
    exact h.held
  generation := by rw [hk.generation, hq.generation, h.generation]
  uncollected := hcol.trans h.uncollected
  call := by rw [hk.call, hq.pipeline, hq.outcomes, h.call]
  cursor := by rw [hq.cursor, hq.outcomes, h.cursor]
  unstopped := by
    rw [hq.outcomes]
    exact h.unstopped
  driverGeneration := by rw [hgen, hq.generation, h.driverGeneration]
  live := hlive
  pending := hpend
  older := by
    rw [hq.generation]
    exact hold

/-- A quiet step keeps the invariant if its workers fit, its drivers belong to runs so far, and the
worker and driver of the run in progress are still there. -/
theorem Inv.quiet (h : o.Inv) (hq : o.Quiet o') (hfits : ∀ k ∈ o'.workers, k.Fits o.pipeline)
    (hdrivers : ∀ d ∈ o'.drivers, d.generation ≤ o.generation)
    (hwork : ∀ {ks k ds d}, o.AtWork ks k ds d → ∃ ks' k' ds' d',
      List.Forall₂ Worker.Later ks ks' ∧ o'.AtWork ks' k' ds' d') : o'.Inv := by
  have hsettled : List.Forall₂ Worker.Later o.settled o'.settled ∧
      (o'.Idle ∨ ∃ ks k ds d, o'.AtWork ks k ds d) := by
    rcases h.phase with hi | ⟨ks, k, ds, d, hw⟩
    · rw [hi.settled, (hi.quiet hq).settled]
      exact ⟨hq.later, .inl (hi.quiet hq)⟩
    · obtain ⟨ks', k', ds', d', hks, hw'⟩ := hwork hw
      rw [hw.settled, hw'.settled]
      exact ⟨hks, .inr ⟨ks', k', ds', d', hw'⟩⟩
  refine ⟨?_, ?_, ?_, ?_, ?_, ?_, ?_, hsettled.2⟩
  · rw [hq.pipeline]
    exact h.valid
  · rw [hq.pipeline]
    exact hfits
  · intro k' hk'
    obtain ⟨k, hk, hl⟩ := exists_left hq.later hk'
    rw [hl.generation, hq.generation]
    exact h.bound k hk
  · rw [map_place_eq hq.later]
    exact h.ordered
  · rw [hq.generation]
    exact hdrivers
  · intro k' hk'
    obtain ⟨k, hk, hl⟩ := exists_left hsettled.1 hk'
    exact hl.reported (h.done k hk)
  · rw [hq.pipeline, hq.generation, hq.outcomes]
    exact h.linked.later hsettled.1

end Keep

/-! ## Tasks make progress -/

variable [FileStore ω]

theorem work_eq {o : Orchestrator ω} {i : Nat} {v : Worker} (hv : o.workers[i]? = some v)
    (s : Task.Signal) :
    o.work i s = { o with
      workers := o.workers.set i (v.step o.world s).1, world := (v.step o.world s).2 } := by
  unfold work
  rw [hv]

theorem work_eq_self {o : Orchestrator ω} {i : Nat} (hv : o.workers[i]? = none)
    (s : Task.Signal) : o.work i s = o := by
  unfold work
  rw [hv]

theorem quiet_work (o : Orchestrator ω) (i : Nat) (s : Task.Signal) : o.Quiet (o.work i s) := by
  cases hv : o.workers[i]? with
  | none =>
    rw [work_eq_self hv]
    exact Quiet.refl o
  | some v =>
    rw [work_eq hv]
    exact o.quiet_of_later o.drivers _ (later_set hv (v.step_later o.world s))

theorem Inv.work {o : Orchestrator ω} (h : o.Inv) (i : Nat) (s : Task.Signal) :
    (o.work i s).Inv := by
  cases hv : o.workers[i]? with
  | none =>
    rw [work_eq_self hv]
    exact h
  | some v =>
    have hfit := h.fits v (List.mem_of_getElem? hv)
    have hl := v.step_later o.world s
    have hq := o.quiet_work i s
    rw [work_eq hv] at hq ⊢
    refine h.quiet hq (forall_mem_set h.fits (hfit.step o.world s)) h.driverBound
      fun {ks k ds d} hw => ?_
    -- the signal reaches a settled worker or the one at work
    rw [hw.workers] at hv
    rcases set_concat (v.step o.world s).1 hv with ⟨-, hv', hset⟩ | ⟨-, rfl, hset⟩
    · refine ⟨_, k, ds, d, later_set hv' hl, hw.quiet hq ?_ hw.drivers (later_set hv' hl)
        (Worker.Later.refl k) rfl rfl rfl hw.live hw.pending hw.older⟩
      rw [← hset, ← hw.workers]
    · refine ⟨ks, _, ds, d, later_refl ks, hw.quiet hq ?_ hw.drivers (later_refl ks) hl
        (v.step_killSent _ _) (v.step_collected _ _) rfl hw.live
        (hw.pending.trans (hfit.sent_step _ _).symm) hw.older⟩
      rw [← hset, ← hw.workers]

omit [FileStore ω] in
theorem Inv.disturb {o : Orchestrator ω} (h : o.Inv) (world : ω) : { o with world }.Inv := by
  have hq := o.quiet_of_later o.drivers world (later_refl o.workers)
  refine h.quiet hq h.fits h.driverBound fun {ks k ds d} hw => ?_
  exact ⟨ks, k, ds, d, later_refl ks, hw.quiet hq hw.workers hw.drivers (later_refl ks)
    (Worker.Later.refl k) rfl rfl rfl hw.live hw.pending hw.older⟩

/-! ## Workers report -/

omit [FileStore ω]

theorem report_cases (o : Orchestrator ω) (i : Nat) : o.report i = o ∨
    ∃ v c, o.workers[i]? = some v ∧ v.completion? = some c ∧ v.reported = false ∧
      o.report i = { o with
        workers := o.workers.set i { v with reported := true }, drivers := post o.drivers c } := by
  cases hv : o.workers[i]? with
  | none =>
    refine .inl ?_
    unfold report
    rw [hv]
  | some v =>
    rcases v.report_cases with hr | ⟨c, hc, hnot, hr⟩
    · obtain ⟨hi, hvi⟩ := List.getElem?_eq_some_iff.1 hv
      have hset : o.workers.set i v = o.workers := by rw [← hvi, List.set_getElem_self]
      refine .inl ?_
      unfold report
      simp only [hv, hr, hset]
    · refine .inr ⟨v, c, rfl, hc, hnot, ?_⟩
      unfold report
      simp only [hv, hr]

theorem generation_of_mem_post {ds : List Driver} {c : Completion} {d : Driver}
    (h : d ∈ post ds c) : ∃ e ∈ ds, d.generation = e.generation := by
  unfold post at h
  obtain ⟨e, he, rfl⟩ := List.mem_map.1 h
  refine ⟨e, he, ?_⟩
  split <;> rfl

theorem later_reported (v : Worker) : v.Later { v with reported := true } :=
  Worker.Later.of_task_eq rfl rfl fun _ => rfl

theorem quiet_report (o : Orchestrator ω) (i : Nat) : o.Quiet (o.report i) := by
  rcases o.report_cases i with hr | ⟨v, c, hv, -, -, hr⟩
  · rw [hr]
    exact Quiet.refl o
  · rw [hr]
    exact o.quiet_of_later _ o.world (later_set hv (later_reported v))

theorem post_concat {ds : List Driver} {d : Driver} {c : Completion}
    (hg : d.generation = c.generation) (hl : d.isLive = true) :
    post (ds ++ [d]) c = post ds c ++ [{ d with queue := d.queue ++ [c] }] := by
  unfold post
  rw [List.map_append, List.map_singleton, decide_eq_true hg, hl]
  rfl

/-- The worker at work sends its completion, and the run's driver can receive it. -/
theorem AtWork.report {o o' : Orchestrator ω} {ks : List Worker} {k : Worker} {ds : List Driver}
    {d : Driver} (hw : o.AtWork ks k ds d) (hq : o.Quiet o') {c : Completion}
    (hc : k.completion? = some c) (hnot : k.reported = false)
    (hworkers : o'.workers = ks ++ [{ k with reported := true }])
    (hdrivers : o'.drivers = post o.drivers c) :
    o'.AtWork ks { k with reported := true } (post ds c) { d with queue := d.queue ++ [c] } := by
  have hcg : d.generation = c.generation := by
    rw [hw.driverGeneration, (Worker.completion?_eq_some_iff.1 hc).1, hw.generation]
  refine hw.quiet hq hworkers ?_ (later_refl ks) (later_reported k) rfl rfl rfl hw.live ?_
    fun e he => ?_
  · rw [hdrivers, hw.drivers]
    exact post_concat hcg hw.live
  · -- the driver had nothing pending, as its worker had sent nothing
    have hp := hw.pending
    rw [Worker.sent_of_not_reported hnot] at hp
    rw [Worker.sent_of_reported rfl ((later_reported k).completion? hc)]
    unfold Driver.pending at hp ⊢
    rw [← List.append_assoc, hp]
    rfl
  · obtain ⟨e', he', hg⟩ := generation_of_mem_post he
    rw [hg]
    exact hw.older e' he'

theorem Inv.report {o : Orchestrator ω} (h : o.Inv) (i : Nat) : (o.report i).Inv := by
  have hq := o.quiet_report i
  rcases o.report_cases i with hr | ⟨v, c, hv, hc, hnot, hr⟩
  · rw [hr]
    exact h
  · have hfit : { v with reported := true }.Fits o.pipeline :=
      (h.fits v (List.mem_of_getElem? hv)).of_task_eq rfl id
        fun _ => ⟨c.outcome, (Worker.completion?_eq_some_iff.1 hc).2⟩
    rw [hr] at hq ⊢
    refine h.quiet hq (forall_mem_set h.fits hfit) (fun d hd => ?_) fun {ks k ds d} hw => ?_
    · obtain ⟨e, he, hg⟩ := generation_of_mem_post hd
      rw [hg]
      exact h.driverBound e he
    · rw [hw.workers] at hv
      rcases set_concat { v with reported := true } hv with ⟨-, hv', -⟩ | ⟨-, rfl, hset⟩
      · -- a settled worker has reported before
        have hdone := h.done
        rw [hw.settled] at hdone
        rw [hdone v (List.mem_of_getElem? hv')] at hnot
        cases hnot
      · refine ⟨ks, _, _, _, later_refl ks, hw.report hq hc hnot ?_ rfl⟩
        rw [← hset, ← hw.workers]

/-! ## Drivers receive and give up -/

/-- Changing a driver keeps the invariant, if the run's driver stays live with the same completions
pending. -/
theorem Inv.set_driver {o : Orchestrator ω} (h : o.Inv) {i : Nat} {e e' : Driver}
    (he : o.drivers[i]? = some e) (hgen : e'.generation = e.generation)
    (hcur : ∀ {ks k ds}, o.AtWork ks k ds e → i = ds.length →
      e'.isLive = true ∧ e'.pending = e.pending) :
    { o with drivers := o.drivers.set i e' }.Inv := by
  have hq := o.quiet_of_later (o.drivers.set i e') o.world (later_refl o.workers)
  have hbound : e'.generation ≤ o.generation := by
    rw [hgen]
    exact h.driverBound e (List.mem_of_getElem? he)
  refine h.quiet hq h.fits (forall_mem_set h.driverBound hbound) fun {ks k ds d} hw => ?_
  have hds : o.drivers.set i e' = (ds ++ [d]).set i e' := by rw [hw.drivers]
  rw [hw.drivers] at he
  rcases set_concat e' he with ⟨-, he', hset⟩ | ⟨rfl, rfl, hset⟩
  · have hold : e'.generation < o.generation := by
      rw [hgen]
      exact hw.older e (List.mem_of_getElem? he')
    exact ⟨ks, k, _, d, later_refl ks, hw.quiet hq hw.workers (hds.trans hset) (later_refl ks)
      (Worker.Later.refl k) rfl rfl rfl hw.live hw.pending (forall_mem_set hw.older hold)⟩
  · obtain ⟨hlive, hpend⟩ := hcur hw rfl
    exact ⟨ks, k, ds, e', later_refl ks, hw.quiet hq hw.workers (hds.trans hset) (later_refl ks)
      (Worker.Later.refl k) rfl rfl hgen hlive (hpend.trans hw.pending) hw.older⟩

theorem receive_cases (o : Orchestrator ω) (i : Nat) : o.receive i = o ∨
    (∃ e c queue, o.drivers[i]? = some e ∧ e.isLive = true ∧ e.inHand = none ∧
      e.queue = c :: queue ∧
      o.receive i = { o with drivers := o.drivers.set i { e with queue, inHand := some c } }) ∨
    (∃ e, o.drivers[i]? = some e ∧ o.channelOpen e.generation = false ∧
      o.receive i = { o with drivers := o.drivers.set i { e with isLive := false } }) := by
  unfold receive
  split
  · exact .inl rfl
  · rename_i e he
    split
    · exact .inl rfl
    · rename_i hnot
      rw [Bool.or_eq_true, not_or, Bool.not_eq_true', Bool.not_eq_false,
        Option.not_isSome_iff_eq_none] at hnot
      split
      · rename_i c queue hqueue
        exact .inr (.inl ⟨e, c, queue, he, hnot.1, hnot.2, hqueue, rfl⟩)
      · split
        · exact .inl rfl
        · rename_i hclosed
          exact .inr (.inr ⟨e, he, by simpa using hclosed, rfl⟩)

theorem quiet_receive (o : Orchestrator ω) (i : Nat) : o.Quiet (o.receive i) := by
  rcases o.receive_cases i with h | ⟨e, c, queue, -, -, -, -, h⟩ | ⟨e, -, -, h⟩
  · rw [h]
    exact Quiet.refl o
  · rw [h]
    exact o.quiet_of_later _ o.world (later_refl _)
  · rw [h]
    exact o.quiet_of_later _ o.world (later_refl _)

theorem Inv.receive {o : Orchestrator ω} (h : o.Inv) (i : Nat) : (o.receive i).Inv := by
  rcases o.receive_cases i with
    hr | ⟨e, c, queue, he, hlive, hnone, hqueue, hr⟩ | ⟨e, he, hclosed, hr⟩
  · rw [hr]
    exact h
  · rw [hr]
    refine h.set_driver he rfl fun _ _ => ⟨hlive, ?_⟩
    unfold Driver.pending
    rw [hnone, hqueue]
    rfl
  · rw [hr]
    refine h.set_driver he rfl fun hw _ => ?_
    -- the state itself keeps the channel of the run in progress open
    unfold channelOpen at hclosed
    rw [hw.driverGeneration, hw.completions, BEq.rfl] at hclosed
    cases hclosed

theorem AtWork.isCurrent_of_inHand {o : Orchestrator ω} {ks : List Worker} {k : Worker}
    {ds : List Driver} {d : Driver} (h : o.AtWork ks k ds d) {c : Completion}
    (hc : d.inHand = some c) : o.isCurrent d c = true := by
  unfold isCurrent
  rw [h.running, h.driverGeneration, (h.of_inHand hc).1]
  simp

theorem Inv.act_stale {o : Orchestrator ω} (h : o.Inv) {i : Nat} {e : Driver} {c : Completion}
    (he : o.drivers[i]? = some e) (hc : e.inHand = some c) (hstale : o.isCurrent e c = false) :
    { o with drivers := o.drivers.set i e.left }.Inv := by
  refine h.set_driver he rfl fun hw _ => ?_
  rw [hw.isCurrent_of_inHand hc] at hstale
  cases hstale

end Relay.Orchestrator
