import Relay.Proofs.Orchestrator.Ledger

/-!
# Stops

A stop kills the current stage and waits, with the lock in its hands, until the worker is finished.
Meanwhile that worker and the leftovers of earlier runs go on (`Stop`).  `stop_of_history` says what
comes of it:

1. While the lock is held every other step is quiet (`quiet_of_held`), so the stop finds the run as
   it left it, with the worker it waits for at a later time (`Waits.history`).
2. Two signals and a report bring that worker to its end (`Waits.exists_end`), so the stop can
   return, whatever has happened before.
3. It records one outcome, that of the current stage, and ends the run (`Stopped`).
4. Without a run in progress nothing changes any more until the next start (`Inv.still_of_idle`);
   in particular a second stop does nothing.
-/

namespace Relay.Orchestrator

variable {ω : Type} [FileStore ω]

/-! ## Stops from their begin to their end -/

/-- `Stop o ts o'`: a stop begins in `o` and returns in `o'`, and `ts` happens meanwhile. -/
inductive Stop (o : Orchestrator ω) : List (Transition ω) → Orchestrator ω → Prop where
  /-- There is nothing to wait for. -/
  | atOnce (free : o.beginStop.isFree = true) : Stop o [] o.beginStop
  /-- The stop keeps the lock until the worker it waits for is finished. -/
  | waited {ts : List (Transition ω)} {m o' : Orchestrator ω} (held : o.beginStop.isFree = false)
      (meanwhile : History o.beginStop ts m) (waiting : ∀ t ∈ ts, t.step ≠ .endStop)
      (ended : m.endStop? = some o') : Stop o ts o'

/-- What a stop of a run in progress has done: it recorded the outcome `r` of the stage that was the
current one, and ended the run. -/
structure Stopped (o : Orchestrator ω) (r : Outcome) (o' : Orchestrator ω) : Prop where
  /-- The worker that was the current one was killed, and `r` is its outcome. -/
  worker : ∃ i k k', o.current = some i ∧ o.workers[i]? = some k ∧ o'.workers[i]? = some k' ∧
    k'.killSent = true ∧ k'.task.outcome? = some r ∧
    -- if the worker was over before, it is the outcome that it had
    ∀ r₀, k.task.outcome? = some r₀ → r = r₀
  index : r.index + 1 = o.cursor
  stage : ∃ stage, o.pipeline.stages[r.index]? = some stage ∧ r.argv = stage.argv
  outcomes : o'.outcomes = o.outcomes ++ [r]
  log : o'.log = o.log ++ [.finished r.index r.status, .idle false]
  idle : o'.Idle
  generation : o'.generation = o.generation
  pipeline : o'.pipeline = o.pipeline
  settings : o'.settings = o.settings
  workers : List.Forall₂ Worker.Later o.workers o'.workers

/-! ## While the lock is held -/

section Held

variable {o o' : Orchestrator ω} {s : Step ω}

/-- While the lock is held only the end of the stop changes anything of the run. -/
theorem quiet_of_held (hheld : o.isFree = false) (hs : o.next? s = some o') (hne : s ≠ .endStop) :
    o.Quiet o' ∧ o'.workers.map Worker.killSent = o.workers.map Worker.killSent := by
  have locked : ∀ {m : Orchestrator ω}, (if o.isFree then some m else none) ≠ some o' := by
    intro m
    rw [hheld]
    nofun
  cases s with
  | start => exact absurd hs locked
  | beginStop => exact absurd hs locked
  | endStop => exact absurd rfl hne
  | act d => exact absurd hs locked
  | work i s =>
    cases hs
    refine ⟨o.quiet_work i s, ?_⟩
    cases hv : o.workers[i]? with
    | none => rw [work_eq_self hv]
    | some v =>
      rw [work_eq hv]
      exact map_set_of_eq hv (v.step_killSent o.world s)
  | report i =>
    cases hs
    refine ⟨o.quiet_report i, ?_⟩
    rcases o.report_cases i with hr | ⟨v, c, hv, -, -, hr⟩
    · rw [hr]
    · rw [hr]
      exact map_set_of_eq hv rfl
  | receive d =>
    cases hs
    refine ⟨o.quiet_receive d, ?_⟩
    rw [o.receive_eq d]
  | disturb world =>
    cases hs
    exact ⟨o.quiet_of_later o.drivers world (later_refl _), rfl⟩

/-- A stop waits for the worker `k` at the place `i`, to which a kill was sent. -/
structure Waits (o : Orchestrator ω) (i : Nat) (k : Worker) : Prop where
  running : o.running = true
  stopping : o.stopping = some i
  worker : o.workers[i]? = some k
  killSent : k.killSent = true

omit [FileStore ω] in
theorem Waits.isFree_eq_false {i : Nat} {k : Worker} (h : o.Waits i k) : o.isFree = false := by
  unfold isFree
  rw [h.stopping]
  rfl

theorem Waits.next {i : Nat} {k : Worker} (h : o.Waits i k) (hs : o.next? s = some o')
    (hne : s ≠ .endStop) : o.Quiet o' ∧ ∃ k', k.Later k' ∧ o'.Waits i k' := by
  obtain ⟨hq, hkill⟩ := quiet_of_held h.isFree_eq_false hs hne
  obtain ⟨k', hk', hl⟩ := getElem?_right hq.later h.worker
  refine ⟨hq, k', hl, hq.running.trans h.running, hq.stopping.trans h.stopping, hk', ?_⟩
  have hi := congrArg (fun l : List Bool => l[i]?) hkill
  simp only [List.getElem?_map, hk', h.worker, Option.map_some, Option.some.injEq] at hi
  exact hi.trans h.killSent

theorem Waits.history {i : Nat} {k : Worker} {ts : List (Transition ω)} (h : o.Waits i k)
    (ht : History o ts o') (hno : ∀ t ∈ ts, t.step ≠ .endStop) :
    o.Quiet o' ∧ ∃ k', k.Later k' ∧ o'.Waits i k' := by
  induction ht with
  | nil => exact ⟨Quiet.refl o, k, .refl k, h⟩
  | @snoc ts m o' s _ hs ih =>
    obtain ⟨hq, k', hl, hw⟩ := ih fun t hmem => hno t (List.mem_append_left _ hmem)
    have hne : s ≠ .endStop := hno _ (List.mem_append_right _ (List.mem_singleton_self _))
    obtain ⟨hq', k'', hl', hw'⟩ := hw.next hs hne
    exact ⟨hq.trans hq', k'', hl.trans hl', hw'⟩

end Held

/-! ## The end of a stop -/

section End

variable {o o' : Orchestrator ω} {i : Nat} {k : Worker}

theorem getElem?_work (hk : o.workers[i]? = some k) (s : Task.Signal) :
    (o.work i s).workers[i]? = some (k.step o.world s).1 := by
  rw [work_eq hk]
  exact List.getElem?_set_self (List.getElem?_eq_some_iff.1 hk).1

omit [FileStore ω] in
theorem getElem?_report (hk : o.workers[i]? = some k) :
    (o.report i).workers[i]? = some k.report.2 := by
  unfold report
  rw [hk]
  exact List.getElem?_set_self (List.getElem?_eq_some_iff.1 hk).1

omit [FileStore ω] in
/-- The worker that a stop waits for is the one at work. -/
theorem Waits.atWork (h : o.Waits i k) (hinv : o.Inv) :
    ∃ ks ds d, o.AtWork ks k ds d ∧ i = ks.length := by
  obtain ⟨ks, k', ds, d, hw⟩ := hinv.atWork h.running
  rcases hw.held with ⟨-, hstop, -⟩ | ⟨-, hstop⟩
  · cases hstop.symm.trans h.stopping
  · cases hstop.symm.trans h.stopping
    have hk := h.worker
    rw [hw.workers, List.getElem?_concat_length] at hk
    cases hk
    exact ⟨ks, ds, d, hw, rfl⟩

omit [FileStore ω] in
theorem Waits.exists_endStop? (h : o.Waits i k) (hinv : o.Inv) (hfin : k.isFinished = true) :
    ∃ o', o.endStop? = some o' := by
  obtain ⟨ks, ds, d, hw, rfl⟩ := h.atWork hinv
  obtain ⟨-, r, hr⟩ := Worker.of_isFinished hfin
  rw [hw.endStop?_eq h.stopping, if_pos hfin, hr]
  exact ⟨_, rfl⟩

/-- A kill, the end of the program and a report bring the worker to its end, so that the stop can
return. -/
theorem Waits.exists_end (h : o.Waits i k) (hinv : o.Inv) :
    ∃ ts m o', History o ts m ∧ (∀ t ∈ ts, t.step ≠ .endStop) ∧ m.endStop? = some o' := by
  let launched := o.work i .launched
  let killed := launched.work i (.killed none none)
  let steps : List (Step ω) :=
    [.work i .launched, .work i (.killed none none), .work i (.exited (.ok 0)), .report i]
  have ht : History o (o.follow steps).1 (o.follow steps).2 := history_follow o steps
  have hno : ∀ t ∈ (o.follow steps).1, t.step ≠ .endStop := by
    intro t hmem hstep
    have hsteps := step_mem_of_follow hmem
    rw [hstep] at hsteps
    simp [steps] at hsteps
  have hk := getElem?_report (getElem?_work (getElem?_work (getElem?_work h.worker .launched)
    (.killed none none)) (.exited (.ok 0)))
  obtain ⟨-, k', -, hw⟩ := h.history ht hno
  cases hk.symm.trans hw.worker
  obtain ⟨r, hr⟩ := k.exists_outcome_killed h.killSent o.world launched.world killed.world none none
    (.ok 0)
  obtain ⟨o', ho'⟩ := hw.exists_endStop? (hinv.history ht) (Worker.isFinished_report hr)
  exact ⟨_, _, o', ht, hno, ho'⟩

omit [FileStore ω] in
/-- A stop of a run in progress waits for the current worker. -/
theorem AtWork.waits {ks : List Worker} {ds : List Driver} {d : Driver} (hw : o.AtWork ks k ds d)
    (hfree : o.isFree = true) : o.beginStop.Waits ks.length k.kill := by
  rw [beginStop_of_atWork hw hfree]
  exact ⟨hw.running, rfl, List.getElem?_concat_length, rfl⟩

omit [FileStore ω] in
theorem AtWork.still_beginStop {ks : List Worker} {ds : List Driver} {d : Driver}
    (hw : o.AtWork ks k ds d) (hfree : o.isFree = true) : o.Still o.beginStop := by
  rw [beginStop_of_atWork hw hfree]
  exact ⟨rfl, rfl, rfl, rfl, rfl, rfl,
    hw.later_concat (Worker.Later.of_task_eq rfl rfl fun hr => hr)⟩

omit [FileStore ω] in
theorem Still.trans {o'' : Orchestrator ω} (h : o.Still o') (h' : o'.Still o'') : o.Still o'' where
  pipeline := h'.pipeline.trans h.pipeline
  settings := h'.settings.trans h.settings
  running := h'.running.trans h.running
  generation := h'.generation.trans h.generation
  outcomes := h'.outcomes.trans h.outcomes
  log := h'.log.trans h.log
  later := later_trans h.later h'.later

/-- **A stop of a run in progress records one outcome and ends the run.** -/
theorem Inv.stopped (h : o.Inv) (hfree : o.isFree = true) (hrun : o.running = true)
    {ts : List (Transition ω)} (hs : Stop o ts o') : o'.Inv ∧ ∃ r, o.Stopped r o' := by
  obtain ⟨ks, k, ds, d, hw⟩ := h.atWork hrun
  have hwaits := hw.waits hfree
  cases hs with
  | atOnce free => cases hwaits.isFree_eq_false.symm.trans free
  | @waited _ m _ held meanwhile waiting ended =>
    have hinv := (h.beginStop hfree).1.history meanwhile
    obtain ⟨hq, k', hl, hwaits'⟩ := hwaits.history meanwhile waiting
    have hstill := (hw.still_beginStop hfree).trans hq.still
    obtain ⟨ks', ds', d', hw', hlen⟩ := hwaits'.atWork hinv
    obtain ⟨r, hr, -, rfl⟩ := endStop?_of_atWork hw' ended
    have hfit := hinv.fits k' hw'.mem
    obtain ⟨hindex, hargv⟩ := hfit.own r hr
    obtain ⟨stage, hstage, hsame⟩ := hfit.stage
    refine ⟨(hinv.endStop ended).1, r, ?_, ?_, ⟨stage, ?_, hargv.trans hsame⟩, ?_, ?_,
      ⟨rfl, rfl, rfl, rfl, rfl, rfl⟩, hstill.generation, hstill.pipeline, hstill.settings, ?_⟩
    · refine ⟨ks.length, k, { k' with collected := true }, (hw.current hfree).1, ?_, ?_,
        hwaits'.killSent, hr, fun r₀ hr₀ => ?_⟩
      · rw [hw.workers]
        exact List.getElem?_concat_length
      · rw [hlen]
        exact List.getElem?_concat_length
      · exact Option.some.inj (hr.symm.trans (hl.outcome r₀ hr₀))
    · rw [hindex, hw'.index, hstill.outcomes, hw.cursor]
    · rw [hindex, ← hstill.pipeline]
      exact hstage
    · rw [← hstill.outcomes]
      rfl
    · rw [← hstill.log]
      simp [reset, record, send, handedOver]
    · have hlater := hw'.later_concat
        (Worker.Later.of_task_eq rfl rfl id : k'.Later { k' with collected := true })
      exact later_trans hstill.later hlater

end End

/-! ## Without a run in progress -/

section Idle

variable {o o' : Orchestrator ω}

omit [FileStore ω] in
theorem beginStop_of_idle (hrun : o.running = false) : o.beginStop = o := by
  unfold beginStop
  rw [hrun]
  rfl

theorem Idle.stop_iff (h : o.Idle) {ts : List (Transition ω)} :
    Stop o ts o' ↔ ts = [] ∧ o' = o := by
  have hbegin := beginStop_of_idle h.running
  have hfree : o.beginStop.isFree = true := by
    rw [hbegin, isFree, h.stopping]
    rfl
  constructor
  · intro hs
    cases hs with
    | atOnce => exact ⟨rfl, hbegin⟩
    | waited held => cases held.symm.trans hfree
  · rintro ⟨rfl, rfl⟩
    have hs := Stop.atOnce hfree
    rwa [hbegin] at hs

/-- **Until the next start nothing is launched, recorded or sent**, whatever is left behind of
earlier runs. -/
theorem Inv.still_of_idle (h : o.Inv) (hrun : o.running = false) {ts : List (Transition ω)}
    (ht : History o ts o') (hno : ∀ t ∈ ts, t.step ≠ .start) : o.Still o' := by
  induction ht with
  | nil => exact (Quiet.refl o).still
  | @snoc ts m o' s ht hs ih =>
    have hm := ih fun t hmem => hno t (List.mem_append_left _ hmem)
    have hne : s ≠ .start := hno _ (List.mem_append_right _ (List.mem_singleton_self _))
    have hidle : m.running = false := hm.running.trans hrun
    cases ((h.history ht).next hs).2 with
    | still same => exact hm.trans same
    | refused => exact absurd rfl hne
    | begun => exact absurd rfl hne
    | stopped hw => cases hidle.symm.trans hw.running
    | advanced hw => cases hidle.symm.trans hw.running
    | completed hw => cases hidle.symm.trans hw.running
    | cut hw => cases hidle.symm.trans hw.running

end Idle

/-! ## All together -/

/-- **A stop is exact**, whatever has happened before.  Without a run in progress it changes
nothing.  Else it can return at any time, and when it does it has recorded one outcome, that of the
current stage, and ended the run.  A second stop changes nothing then, nor does anything else before
the next start. -/
theorem stop_of_history {p : Pipeline} {settings : Settings} {world : ω} {o₀ o : Orchestrator ω}
    {ts : List (Transition ω)} (h₀ : ofPipeline p settings world = .ok o₀) (ht : History o₀ ts o)
    (hfree : o.isFree = true) :
    (o.running = false → ∀ us o', Stop o us o' ↔ us = [] ∧ o' = o) ∧
    (o.running = true →
      (∀ us m, History o.beginStop us m → (∀ t ∈ us, t.step ≠ .endStop) →
        ∃ vs m' o', History m vs m' ∧ (∀ t ∈ vs, t.step ≠ .endStop) ∧ m'.endStop? = some o') ∧
      ∀ us o', Stop o us o' → (∃ r, o.Stopped r o') ∧
        (∀ vs o'', Stop o' vs o'' ↔ vs = [] ∧ o'' = o') ∧
        ∀ vs n, History o' vs n → (∀ t ∈ vs, t.step ≠ .start) → o'.Still n) := by
  have hinv := (inv_of_history h₀ ht).1
  refine ⟨fun hrun us o' => (hinv.idle hrun).stop_iff, fun hrun => ⟨fun us m hus hno => ?_, ?_⟩⟩
  · obtain ⟨ks, k, ds, d, hw⟩ := hinv.atWork hrun
    obtain ⟨-, k', -, hwaits⟩ := (hw.waits hfree).history hus hno
    exact hwaits.exists_end ((hinv.beginStop hfree).1.history hus)
  · intro us o' hs
    obtain ⟨hinv', r, hr⟩ := hinv.stopped hfree hrun hs
    exact ⟨⟨r, hr⟩, fun vs o'' => hr.idle.stop_iff,
      fun vs n hvs hno => hinv'.still_of_idle hr.idle.running hvs hno⟩

/-! ### Two moments to stop -/

/-- The first program could not be started, and the driver has received its completion. -/
def unheard : Orchestrator Host := (rehearsal.follow (.start :: failing 0 ++ [.receive 0])).2

/-- The first program is at work. -/
def busy : Orchestrator Host := (rehearsal.follow [.start, .work 0 .launched]).2

/-- A worker takes a kill, its program ends and it reports. -/
def dying (k : Nat) : List (Step Host) :=
  [.work k (.killed none none), .work k (.exited (.ok 137)), .report k]

/-- A stop finds a stage that has failed, with the completion still in the hands of the driver, and
another one a stage that it kills. -/
theorem stop_unheard_busy :
    (∃ o' r, Stop unheard [] o' ∧ unheard.Stopped r o' ∧ r.status ≠ .stopped ∧
      o'.Still (o'.act 0)) ∧
    ∃ o' r, Stop busy (busy.beginStop.follow (dying 0)).1 o' ∧ busy.Stopped r o' ∧
      r.status = .stopped ∧ Stop o' [] o' := by
  obtain ⟨-, hunheard⟩ := stop_of_history ofPipeline_rehearsal
    (history_follow rehearsal (.start :: failing 0 ++ [.receive 0])) rfl
  obtain ⟨-, hbusy⟩ := stop_of_history ofPipeline_rehearsal
    (history_follow rehearsal [.start, .work 0 .launched]) rfl
  constructor
  · have hs : Stop unheard [] _ := .waited rfl .nil (fun _ ht => absurd ht List.not_mem_nil) rfl
    obtain ⟨⟨r, hr⟩, -, hstill⟩ := (hunheard rfl).2 _ _ hs
    have hfailed : r.status = .failed (.launch ['a'] .nulInArgument) :=
      congrArg Outcome.status (List.cons.inj hr.outcomes).1.symm
    refine ⟨_, r, hs, hr, ?_, ?_⟩
    · rw [hfailed]
      nofun
    · refine hstill _ _ (History.nil.snoc (s := .act 0) rfl) ?_
      simp
  · have hend : (busy.beginStop.follow (dying 0)).2.endStop? = some _ := rfl
    have hno : ∀ t ∈ (busy.beginStop.follow (dying 0)).1, t.step ≠ .endStop := by
      intro t ht hstep
      have hmem := step_mem_of_follow ht
      rw [hstep] at hmem
      simp [dying] at hmem
    have hs := Stop.waited rfl (history_follow busy.beginStop (dying 0)) hno hend
    obtain ⟨⟨r, hr⟩, hagain, -⟩ := (hbusy rfl).2 _ _ hs
    have hstopped : r.status = .stopped :=
      congrArg Outcome.status (List.cons.inj hr.outcomes).1.symm
    exact ⟨_, r, hs, hr, hstopped, (hagain _ _).2 ⟨rfl, rfl⟩⟩

end Relay.Orchestrator
