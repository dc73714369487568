import Relay.Proofs.Orchestrator.Consistency

/-!
# A run in progress goes on

While a run is in progress and nobody holds the lock, somebody can take the run further.  `Attended`
names them: the run's driver, which is in its loop and can still be sent completions, and the
current worker, which has not reported yet or whose completion is the only one that waits for the
driver.

`distance` bounds the number of steps to the end of the run.  `AtWork.exists_closer` finds a step of
the worker or of the driver that brings the end closer; `Inv.exists_idle` follows such steps to the
end, where everybody who waits for it is released.  Both need no caller.
-/

namespace Relay

variable {ω : Type}

/-! ## Tasks -/

namespace Task

/-- How many signals a task is away from its end at most. -/
def toDo (t : Task) : Nat :=
  match t.phase with
  | .ready => 6
  | .transferring => 2 + t.activities
  | .awaiting _ => 1
  | .killing => 1
  | .over _ => 0

/-- A signal that brings a task closer to its end: its program is started, uses up its input, closes
its outputs and ends. -/
def nextSignal (t : Task) : Signal :=
  match t.phase with
  | .ready => .launched
  | .transferring =>
    if t.fed.isNone then .fed (.ok ())
    else if t.stdout.result.isNone then .ended .stdout
    else .ended .stderr
  | _ => .exited (.ok 0)

theorem toDo_le (t : Task) : t.toDo ≤ 6 := by
  have := t.activities_le
  unfold toDo
  split <;> omega

/-- Joining a task whose activities have all ended takes it to the next phase. -/
theorem toDo_joined {t : Task} (h : t.phase = .transferring) :
    t.joined.toDo = if t.activities = 0 then 1 else 2 + t.activities := by
  rcases t.joined_cases with ⟨hs, r, hj⟩ | ⟨hs, hj⟩
  · rw [hj, if_pos (t.activities_eq_zero_iff.2 hs)]
    rfl
  · rw [hj, if_neg (mt t.activities_eq_zero_iff.1 hs)]
    simp only [toDo, h]

theorem toDo_step_lt [FileStore ω] {t : Task} (h : t.phase = .transferring) (w : ω) {s : Signal}
    (hs : s.isActivity = true) (hlt : (t.step w s).1.activities < t.activities ∨
      (t.step w s).1.activities = 0) : (t.step w s).1.toDo < 2 + t.activities := by
  obtain ⟨t', hj, ht'⟩ := exists_step_eq_joined h w hs
  rw [hj, activities_joined] at hlt
  rw [hj, toDo_joined ht']
  split_ifs <;> omega

/-- The next signal brings a task that is not over closer to its end. -/
theorem toDo_nextSignal [FileStore ω] {t : Task} (h : t.outcome? = none) (w : ω) :
    (t.step w t.nextSignal).1.toDo < t.toDo := by
  rcases hp : t.phase with _ | _ | x | _ | r
  · -- the program is to be launched
    have hs : t.nextSignal = .launched := by simp [nextSignal, hp]
    have hd : t.toDo = 6 := by simp [toDo, hp]
    rw [hs, hd]
    unfold step
    simp only [hp]
    split
    · exact Nat.zero_lt_succ _
    · rename_i ha
      have hle := activities_le { t with
        fed := if t.input.isEmpty then some (.ok ()) else none, phase := .transferring }
      simp only [toDo]
      omega
  · -- the next signal ends the first activity that is under way, if there is one
    have hd : t.toDo = 2 + t.activities := by simp [toDo, hp]
    rw [hd]
    cases hf : t.fed with
    | none =>
      have hs : t.nextSignal = .fed (.ok ()) := by simp [nextSignal, hp, hf]
      rw [hs]
      exact toDo_step_lt hp w rfl (.inl (activities_step_fed hp w hf _))
    | some f =>
      have hfed : unended t.fed = 0 := by rw [hf]; rfl
      cases ho : t.stdout.result with
      | none =>
        have hs : t.nextSignal = .ended .stdout := by simp [nextSignal, hp, hf, ho]
        have hnone : unended (t.drain .stdout).result = 1 := by simp [drain, ho, unended]
        have hend := activities_step_ended hp w .stdout
        rw [hs]
        exact toDo_step_lt hp w rfl (.inl (by omega))
      | some r =>
        have hs : t.nextSignal = .ended .stderr := by simp [nextSignal, hp, hf, ho]
        have hout : unended t.stdout.result = 0 := by rw [ho]; rfl
        have hend : _ + unended t.stderr.result = _ := activities_step_ended hp w .stderr
        unfold activities at hend
        rw [hs]
        refine toDo_step_lt hp w rfl (.inr ?_)
        unfold activities
        omega
  · -- only the end of the program is left
    have hs : t.nextSignal = .exited (.ok 0) := by simp [nextSignal, hp]
    have hd : t.toDo = 1 := by simp [toDo, hp]
    rw [hs, hd]
    unfold step
    simp only [hp]
    exact Nat.zero_lt_one
  · have hs : t.nextSignal = .exited (.ok 0) := by simp [nextSignal, hp]
    have hd : t.toDo = 1 := by simp [toDo, hp]
    rw [hs, hd]
    unfold step
    simp only [hp]
    exact Nat.zero_lt_one
  · simp [outcome?, hp] at h

theorem nextSignal_ne_killed (t : Task) (out err : Option Cut) :
    t.nextSignal ≠ .killed out err := by
  unfold nextSignal
  split
  · nofun
  · split_ifs <;> nofun
  · nofun

end Task

/-! ## Workers and drivers -/

/-- How many steps a worker is away from having reported at most; its completion takes two more steps
to be acted on. -/
def Worker.toDo (k : Worker) : Nat := if k.reported then 0 else k.task.toDo + 3

def Driver.toDo (d : Driver) : Nat := d.inHand.toList.length + 2 * d.queue.length

theorem Driver.toDo_eq_zero {d : Driver} (h : d.pending = []) : d.toDo = 0 := by
  obtain ⟨hin, hq⟩ := List.append_eq_nil_iff.1 h
  simp [Driver.toDo, hin, hq]

theorem Driver.toDo_le {d : Driver} (h : d.pending.length ≤ 1) : d.toDo ≤ 2 := by
  unfold Driver.pending at h
  unfold Driver.toDo
  rw [List.length_append] at h
  omega

theorem Worker.length_sent_le (k : Worker) : k.sent.length ≤ 1 := by
  unfold Worker.sent
  split
  · exact Option.length_toList_le
  · exact Nat.zero_le _

theorem Worker.report_eq {k : Worker} {r : Outcome} (hr : k.task.outcome? = some r)
    (hnot : k.reported = false) :
    k.report = (some { generation := k.generation, outcome := r }, { k with reported := true }) := by
  unfold Worker.report
  rw [hr, hnot]

namespace Orchestrator

/-! ## Who goes on with a run -/

/-- The driver `d` goes on with the run as soon as the worker `k` has reported; they stand at the
places `i` and `j`. -/
structure Attended (o : Orchestrator ω) (i : Nat) (d : Driver) (j : Nat) (k : Worker) : Prop where
  driver : o.drivers[i]? = some d
  ofRun : d.generation = o.generation
  live : d.isLive = true
  /-- More completions may come. -/
  channel : o.channelOpen d.generation = true
  current : o.current = some j
  worker : o.workers[j]? = some k
  atWork : k.generation = o.generation
  /-- Either the worker has not reported and nothing waits for the driver, or the worker's completion
  does and nothing else. -/
  awaited : k.reported = false ∧ d.pending = [] ∨
    k.reported = true ∧ ∃ c, d.pending = [c] ∧ c.generation = o.generation ∧ k.completion? = some c

/-- The steps that workers and drivers take without a caller. -/
def Step.isOwn : Step ω → Bool
  | .work _ (.killed _ _) => false
  | .work _ _ => true
  | .report _ => true
  | .receive _ => true
  | .act _ => true
  | _ => false

theorem isOwn_work {signal : Task.Signal} (kind : ∀ out err, signal ≠ .killed out err) (k : Nat) :
    (Step.work k signal : Step ω).isOwn = true := by
  unfold Step.isOwn
  split <;> simp_all

/-- How many steps a run in progress is away from its end at most.  Each stage that has no outcome
yet counts ten steps, which is more than a worker and the driver need for one. -/
def distance (o : Orchestrator ω) : Nat :=
  if o.running then
    10 * (o.pipeline.stages.length - o.outcomes.length)
      + ((o.workers.getLast?.map Worker.toDo).getD 0 + (o.drivers.getLast?.map Driver.toDo).getD 0)
  else 0

section AtWork

variable {o : Orchestrator ω} {ks : List Worker} {k : Worker} {ds : List Driver} {d : Driver}

theorem distance_eq (hrun : o.running = true) (hks : o.workers = ks ++ [k])
    (hds : o.drivers = ds ++ [d]) :
    o.distance = 10 * (o.pipeline.stages.length - o.outcomes.length) + (k.toDo + d.toDo) := by
  unfold distance
  rw [if_pos hrun, hks, hds, List.getLast?_concat, List.getLast?_concat]
  rfl

theorem AtWork.attended (hw : o.AtWork ks k ds d) (h : o.Inv) (hfree : o.isFree = true) :
    o.Attended ds.length d ks.length k where
  driver := by
    rw [hw.drivers]
    exact List.getElem?_concat_length
  ofRun := hw.driverGeneration
  live := hw.live
  channel := by
    unfold channelOpen
    rw [hw.driverGeneration, hw.completions, BEq.rfl, Bool.true_or]
  current := (hw.current hfree).1
  worker := by
    rw [hw.workers]
    exact List.getElem?_concat_length
  atWork := hw.generation
  awaited := by
    rw [hw.pending]
    cases hrep : k.reported with
    | false => exact .inl ⟨rfl, Worker.sent_of_not_reported hrep⟩
    | true =>
      obtain ⟨r, hr⟩ := (h.fits k hw.mem).ended hrep
      have hc := hw.completion? hr
      exact .inr ⟨rfl, _, Worker.sent_of_reported hrep hc, rfl, hc⟩

end AtWork

/-- The worker at work and the run's driver need at most nine steps. -/
theorem AtWork.toDo_le {o : Orchestrator ω} {ks : List Worker} {k : Worker} {ds : List Driver}
    {d : Driver} (hw : o.AtWork ks k ds d) : k.toDo + d.toDo ≤ 9 := by
  have htask := k.task.toDo_le
  cases hrep : k.reported with
  | false =>
    have hd : d.toDo = 0 :=
      Driver.toDo_eq_zero (hw.pending.trans (Worker.sent_of_not_reported hrep))
    have hk : k.toDo = k.task.toDo + 3 := by simp [Worker.toDo, hrep]
    omega
  | true =>
    have hd : d.toDo ≤ 2 := by
      apply Driver.toDo_le
      rw [hw.pending]
      exact k.length_sent_le
    have hk : k.toDo = 0 := by simp [Worker.toDo, hrep]
    omega

/-! ## One step closer -/

variable [FileStore ω]

section Closer

variable {o : Orchestrator ω} {ks : List Worker} {k : Worker} {ds : List Driver} {d : Driver}

/-- `o'` comes behind a step that needs no caller, is free and closer to the end of the run. -/
def Closer (o o' : Orchestrator ω) : Prop :=
  ∃ s : Step ω, s.isOwn = true ∧ o.next? s = some o' ∧ o'.isFree = true ∧
    o'.distance < o.distance

/-- A step that leaves the run alone brings its end closer as soon as the worker at work and the
run's driver have less to do. -/
theorem AtWork.closer (hw : o.AtWork ks k ds d) (hfree : o.isFree = true) {o' : Orchestrator ω}
    {s : Step ω} (hown : s.isOwn = true) (hs : o.next? s = some o') (hq : o.Quiet o')
    {k' : Worker} {ds' : List Driver} {d' : Driver} (hworkers : o'.workers = ks ++ [k'])
    (hdrivers : o'.drivers = ds' ++ [d']) (hlt : k'.toDo + d'.toDo < k.toDo + d.toDo) :
    o.Closer o' := by
  refine ⟨s, hown, hs, ?_, ?_⟩
  · unfold isFree at hfree ⊢
    rw [hq.stopping]
    exact hfree
  · rw [distance_eq (hq.running.trans hw.running) hworkers hdrivers,
      distance_eq hw.running hw.workers hw.drivers, hq.pipeline, hq.outcomes]
    omega

theorem AtWork.closer_work (hw : o.AtWork ks k ds d) (hfree : o.isFree = true)
    (hover : k.task.outcome? = none) (hnot : k.reported = false) : ∃ o', o.Closer o' := by
  have hk : o.workers[ks.length]? = some k := by
    rw [hw.workers]
    exact List.getElem?_concat_length
  have hkill := k.task.nextSignal_ne_killed
  have hadmits := k.admits_of_ne_killed hkill
  have hown : (Step.work ks.length k.task.nextSignal : Step ω).isOwn = true := isOwn_work hkill _
  have hworkers : (o.work ks.length k.task.nextSignal).workers =
      ks ++ [(k.step o.world k.task.nextSignal).1] := by
    rw [work_eq hk, hw.workers, set_length_concat]
  have hdrivers : (o.work ks.length k.task.nextSignal).drivers = ds ++ [d] := by
    rw [work_eq hk]
    exact hw.drivers
  have htask := k.task.toDo_nextSignal hover o.world
  have hlt : (k.step o.world k.task.nextSignal).1.toDo < k.toDo := by
    unfold Worker.step
    simp only [hadmits, if_true, Worker.toDo, hnot, Bool.false_eq_true, if_false]
    omega
  exact ⟨_, hw.closer hfree hown rfl (o.quiet_work _ _) hworkers hdrivers (by omega)⟩

omit [FileStore ω] in
theorem AtWork.report_eq (hw : o.AtWork ks k ds d) {r : Outcome} (hr : k.task.outcome? = some r)
    (hnot : k.reported = false) :
    o.report ks.length = { o with
      workers := ks ++ [{ k with reported := true }]
      drivers := post ds { generation := k.generation, outcome := r } ++
        [{ d with queue := d.queue ++ [{ generation := k.generation, outcome := r }] }] } := by
  have hk : o.workers[ks.length]? = some k := by
    rw [hw.workers]
    exact List.getElem?_concat_length
  have hpost : post (ds ++ [d]) { generation := k.generation, outcome := r } =
      post ds { generation := k.generation, outcome := r } ++
        [{ d with queue := d.queue ++ [{ generation := k.generation, outcome := r }] }] :=
    post_concat (hw.driverGeneration.trans hw.generation.symm) hw.live
  unfold Orchestrator.report
  simp only [hk, Worker.report_eq hr hnot]
  rw [hw.workers, set_length_concat, hw.drivers, hpost]

theorem AtWork.closer_report (hw : o.AtWork ks k ds d) (hfree : o.isFree = true) {r : Outcome}
    (hr : k.task.outcome? = some r) (hnot : k.reported = false) : ∃ o', o.Closer o' := by
  have hreport := hw.report_eq hr hnot
  refine ⟨_, hw.closer hfree (s := .report ks.length) rfl rfl (o.quiet_report _)
    (congrArg Orchestrator.workers hreport) (congrArg Orchestrator.drivers hreport) ?_⟩
  simp only [Worker.toDo, Driver.toDo, hnot, Bool.false_eq_true, if_true, if_false,
    List.length_append, List.length_singleton]
  omega

omit [FileStore ω] in
/-- The run's driver receives the completion that waits for it. -/
theorem AtWork.receive_eq (hw : o.AtWork ks k ds d) (hnone : d.inHand = none) {c : Completion}
    {queue : List Completion} (hqueue : d.queue = c :: queue) :
    o.receive ds.length = { o with drivers := ds ++ [{ d with queue, inHand := some c }] } := by
  have hd : o.drivers[ds.length]? = some d := by
    rw [hw.drivers]
    exact List.getElem?_concat_length
  unfold Orchestrator.receive
  simp only [hd, hw.live, hnone, hqueue]
  rw [hw.drivers, set_length_concat]
  rfl

theorem AtWork.closer_receive (hw : o.AtWork ks k ds d) (hfree : o.isFree = true)
    (hnone : d.inHand = none) {c : Completion} {queue : List Completion}
    (hqueue : d.queue = c :: queue) : ∃ o', o.Closer o' := by
  have hreceive := hw.receive_eq hnone hqueue
  refine ⟨_, hw.closer hfree (s := .receive ds.length) rfl rfl (o.quiet_receive _)
    ((congrArg Orchestrator.workers hreceive).trans hw.workers)
    (congrArg Orchestrator.drivers hreceive) ?_⟩
  simp only [Driver.toDo, hnone, hqueue, Option.toList_some, Option.toList_none,
    List.length_nil, List.length_cons]
  omega

/-- The run's driver acts on the completion in its hands: one more stage has an outcome. -/
theorem AtWork.outcomes_act (hw : o.AtWork ks k ds d) {c : Completion} (hc : d.inHand = some c) :
    (o.act ds.length).outcomes = o.outcomes ++ [c.outcome] := by
  have hd : o.drivers[ds.length]? = some d := by
    rw [hw.drivers]
    exact List.getElem?_concat_length
  rw [act_of_current hd hc (hw.isCurrent_of_inHand hc)]
  exact (o.advance_keeps c).2.1

theorem AtWork.closer_act (hw : o.AtWork ks k ds d) (h : o.Inv) (hfree : o.isFree = true)
    {c : Completion} (hc : d.inHand = some c) : ∃ o', o.Closer o' := by
  have hd : o.drivers[ds.length]? = some d := by
    rw [hw.drivers]
    exact List.getElem?_concat_length
  obtain ⟨hinv, hmove⟩ := h.act hfree ds.length
  have hlt := h.outcomes_lt hw
  refine ⟨o.act ds.length, .act ds.length, rfl, ?_, ?_, ?_⟩
  · exact if_pos hfree
  · rw [act_of_current hd hc (hw.isCurrent_of_inHand hc)]
    unfold isFree at hfree ⊢
    rw [(o.advance_keeps c).2.2]
    exact hfree
  · rw [distance_eq hw.running hw.workers hw.drivers]
    cases hrun : (o.act ds.length).running with
    | false =>
      unfold distance
      rw [hrun]
      simp
      omega
    | true =>
      -- one more outcome counts ten steps, the next worker and the driver at most nine
      obtain ⟨ks', k', ds', d', hw'⟩ := hinv.atWork hrun
      have hle := hw'.toDo_le
      have hlen : (o.act ds.length).outcomes.length = o.outcomes.length + 1 := by
        rw [hw.outcomes_act hc, List.length_append]
        rfl
      rw [distance_eq hrun hw'.workers hw'.drivers, hmove.pipeline, hlen]
      have : 0 < d.toDo := by
        unfold Driver.toDo
        rw [hc]
        exact Nat.lt_add_right _ Nat.zero_lt_one
      omega

end Closer

/-- **While a run is in progress some step brings its end closer**, and it needs no caller. -/
theorem Inv.exists_closer {o : Orchestrator ω} (h : o.Inv) (hfree : o.isFree = true)
    (hrun : o.running = true) : ∃ o', o.Closer o' := by
  obtain ⟨ks, k, ds, d, hw⟩ := h.atWork hrun
  cases hrep : k.reported with
  | false =>
    cases hover : k.task.outcome? with
    | none => exact hw.closer_work hfree hover hrep
    | some r => exact hw.closer_report hfree hover hrep
  | true =>
    cases hin : d.inHand with
    | some c => exact hw.closer_act h hfree hin
    | none =>
      obtain ⟨r, hr⟩ := (h.fits k hw.mem).ended hrep
      have hp := hw.pending.trans (Worker.sent_of_reported hrep (hw.completion? hr))
      unfold Driver.pending at hp
      rw [hin] at hp
      exact hw.closer_receive hfree hin hp

/-- Steps that need no caller lead a run to its end, where everybody who waits is released. -/
theorem Inv.exists_idle {o : Orchestrator ω} (h : o.Inv) (hfree : o.isFree = true) :
    ∃ ts o', History o ts o' ∧ (∀ t ∈ ts, t.step.isOwn = true) ∧ o'.running = false ∧
      o'.watched = false := by
  induction hn : o.distance using Nat.strongRecOn generalizing o with
  | ind n ih =>
    cases hrun : o.running with
    | false => exact ⟨[], o, .nil, fun _ ht => absurd ht List.not_mem_nil, hrun, (h.idle hrun).watched⟩
    | true =>
      obtain ⟨m, s, hown, hs, hfree', hlt⟩ := h.exists_closer hfree hrun
      obtain ⟨ts, o', ht, hts, hend⟩ := ih m.distance (hn ▸ hlt) (h.next hs).1 hfree' rfl
      exact ⟨_, o', ht.cons hs, List.forall_mem_cons.2 ⟨hown, hts⟩, hend⟩

/-- **A run in progress is never left without somebody who goes on with it**, whatever has happened
so far: as long as nobody holds the lock, its driver is there and waits for one completion, some step
brings the end of the run closer, and such steps lead to it. -/
theorem attended_of_history {p : Pipeline} {settings : Settings} {world : ω}
    {o₀ o : Orchestrator ω} {ts : List (Transition ω)}
    (h₀ : ofPipeline p settings world = .ok o₀) (ht : History o₀ ts o) (hfree : o.isFree = true)
    (hrun : o.running = true) :
    (∃ i d j k, o.Attended i d j k) ∧ (∃ o', o.Closer o') ∧
    ∃ ts' o', History o ts' o' ∧ (∀ t ∈ ts', t.step.isOwn = true) ∧ o'.running = false ∧
      o'.watched = false := by
  have hinv := (inv_of_history h₀ ht).1
  obtain ⟨ks, k, ds, d, hw⟩ := hinv.atWork hrun
  exact ⟨⟨_, d, _, k, hw.attended hinv hfree⟩, hinv.exists_closer hfree hrun,
    hinv.exists_idle hfree⟩

/-- A second run, while a completion of the first one, which was stopped, is still in flight. -/
theorem attended_rehearsal :
    let o := (rehearsal.follow (.start :: failing 0 ++ [.beginStop, .endStop, .start])).2
    o.isFree = true ∧ o.running = true ∧ ∃ i d j k, o.Attended i d j k :=
  ⟨rfl, rfl, (attended_of_history ofPipeline_rehearsal (history_follow rehearsal _) rfl rfl).1⟩

end Orchestrator

end Relay
