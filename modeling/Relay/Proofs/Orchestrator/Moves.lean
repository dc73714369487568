import Relay.Proofs.Orchestrator.Quiet

/-!
# What a step makes of a run

`Move` lists what a step can make of a run: nothing, or a run begins, is refused at once, goes on to
the next stage, or ends in one of three ways.  `Inv.next` says that from a state with the invariant
every step makes one of these moves and that the invariant still holds behind it; histories are
studied through it and look at no function of the orchestrator again.

The moves meet in states between two stages, in which no worker is at work (`Rest`): a start leads
to one, and so does every outcome that is recorded.  From there the run goes idle (`Rest.inv`) or
launches a stage (`Rest.launched`).
-/

namespace Relay.Orchestrator

variable {ω : Type}

/-! ## Between two stages -/

/-- What holds when no worker is at work. -/
structure Rest (o : Orchestrator ω) : Prop where
  valid : o.pipeline.isValid = true
  fits : ∀ k ∈ o.workers, k.Fits o.pipeline
  bound : ∀ k ∈ o.workers, k.generation ≤ o.generation
  ordered : (o.workers.map Worker.place).Pairwise Precedes
  driverBound : ∀ d ∈ o.drivers, d.generation ≤ o.generation
  done : ∀ k ∈ o.workers, k.reported = true
  linked : o.pipeline.Linked o.generation o.outcomes o.workers

section Rest

variable {o : Orchestrator ω}

theorem Inv.rest (h : o.Inv) (hi : o.Idle) : o.Rest := by
  have hd := h.done
  have hl := h.linked
  rw [hi.settled] at hd hl
  exact ⟨h.valid, h.fits, h.bound, h.ordered, h.driverBound, hd, hl⟩

theorem Rest.inv (h : o.Rest) (hi : o.Idle) : o.Inv := by
  refine ⟨h.valid, h.fits, h.bound, h.ordered, h.driverBound, ?_, ?_, .inl hi⟩
  · rw [hi.settled]
    exact h.done
  · rw [hi.settled]
    exact h.linked

theorem Rest.begun (h : o.Rest) : o.begun.Rest where
  valid := h.valid
  fits := h.fits
  bound k hk := Nat.le_succ_of_le (h.bound k hk)
  ordered := h.ordered
  driverBound d hd := Nat.le_succ_of_le (h.driverBound d hd)
  done := h.done
  linked := Pipeline.Linked.nil

/-- Going idle between two stages, with some drivers and files. -/
theorem Rest.reset (h : o.Rest) (hstop : o.stopping = none) (completed : Bool) {ds : List Driver}
    (hds : ∀ d ∈ ds, d.generation ≤ o.generation) (world : ω) :
    { o.reset completed with drivers := ds, world }.Inv :=
  Rest.inv ⟨h.valid, h.fits, h.bound, h.ordered, hds, h.done, h.linked⟩
    ⟨rfl, rfl, rfl, rfl, rfl, hstop⟩

end Rest

/-! ## Replacing the worker at work -/

section Replace

variable {o : Orchestrator ω} {ks : List Worker} {k k' : Worker} {ds : List Driver} {d : Driver}

theorem AtWork.later_concat (hw : o.AtWork ks k ds d) (hl : k.Later k') :
    List.Forall₂ Worker.Later o.workers (ks ++ [k']) := by
  rw [hw.workers]
  exact List.rel_append (later_refl ks) (.cons hl .nil)

theorem AtWork.fits_concat (hw : o.AtWork ks k ds d) (h : o.Inv) (hfit : k'.Fits o.pipeline) :
    ∀ v ∈ ks ++ [k'], v.Fits o.pipeline := by
  refine forall_mem_concat (fun v hv => h.fits v ?_) hfit
  rw [hw.workers]
  exact List.mem_append_left _ hv

theorem AtWork.bound_concat (hw : o.AtWork ks k ds d) (h : o.Inv) (hl : k.Later k') :
    ∀ v ∈ ks ++ [k'], v.generation ≤ o.generation := by
  intro v hv
  obtain ⟨v', hv', hvl⟩ := exists_left (hw.later_concat hl) hv
  rw [hvl.generation]
  exact h.bound v' hv'

theorem AtWork.ordered_concat (hw : o.AtWork ks k ds d) (h : o.Inv) (hl : k.Later k') :
    ((ks ++ [k']).map Worker.place).Pairwise Precedes := by
  rw [map_place_eq (hw.later_concat hl)]
  exact h.ordered

end Replace

/-! ## Recording -/

theorem AtWork.rest_record {o : Orchestrator ω} {ks : List Worker} {k k' : Worker}
    {ds : List Driver} {d : Driver} (hw : o.AtWork ks k ds d) (h : o.Inv) {r : Outcome}
    (hr : k.task.outcome? = some r) (hrep : k.reported = true) (hl : k.Later k')
    (hfit : k'.Fits o.pipeline) :
    ({ o with workers := ks ++ [k'] }.record r).Rest := by
  have hdone := h.done
  have hlinked := h.linked
  rw [hw.settled] at hdone hlinked
  exact ⟨h.valid, hw.fits_concat h hfit, hw.bound_concat h hl, hw.ordered_concat h hl,
    h.driverBound, forall_mem_concat hdone (hl.reported hrep),
    hlinked.concat (hl.generation.trans hw.generation) (hl.outcome r hr) (hl.call.trans hw.call)⟩

/-! ## Launching -/

variable [FileStore ω]

theorem openSink_target? {w w' : ω} {target : Option Text} {mode : OpenMode} {s : Sink}
    (h : openSink w target mode = .ok (s, w')) : s.target? = target := by
  unfold openSink at h
  cases target with
  | none =>
    cases h
    rfl
  | some path => exact Sink.target?_of_openTarget h

theorem openSinks_target? {w w' : ω} {p : Pipeline} {i : Nat} {out err : Sink}
    (h : openSinks w p i = (.ok (out, err), w')) :
    out.target? = stdoutTargetOf p i ∧ err.target? = p.stderrTarget := by
  unfold openSinks at h
  split at h
  · cases h
  · rename_i err' w₁ herr
    split at h
    · cases h
    · rename_i out' w₂ hout
      cases h
      exact ⟨openSink_target? hout, openSink_target? herr⟩

/-- The worker that goes to work when the stage under the cursor is launched. -/
def recruit (o : Orchestrator ω) (stage : Stage) (out err : Sink) : Worker :=
  { generation := o.generation, task := o.stageTask stage out err }

/-- Launching the stage under the cursor, between two stages of a run. -/
theorem Rest.launched {o : Orchestrator ω} (h : o.Rest) (hrun : o.running = true)
    (hcompl : o.completions = some o.generation) (hwatch : o.watched = true)
    (hstop : o.stopping = none) (hcursor : o.cursor = o.outcomes.length)
    (hunst : ∀ r ∈ o.outcomes, r.status ≠ .stopped)
    (hprec : ∀ k ∈ o.workers, Precedes k.place (o.generation, o.cursor))
    {stage : Stage} {out err : Sink} {world : ω}
    (hstage : o.pipeline.stages[o.cursor]? = some stage)
    (hopen : openSinks o.world o.pipeline o.cursor = (.ok (out, err), world))
    {ds : List Driver} {d : Driver} (hgen : d.generation = o.generation) (hlive : d.isLive = true)
    (hpend : d.pending = []) (hold : ∀ e ∈ ds, e.generation < o.generation) :
    { o.launched stage out err world with drivers := ds ++ [d] }.Inv := by
  obtain ⟨hout, herr⟩ := openSinks_target? hopen
  have hcall : (o.recruit stage out err).task.call = o.pipeline.callAfter o.outcomes := by
    unfold recruit stageTask Task.call Pipeline.callAfter
    rw [← hcursor, hstage, ← hout, ← herr]
    rfl
  have hw : { o.launched stage out err world with drivers := ds ++ [d] }.AtWork o.workers
      (o.recruit stage out err) ds d :=
    ⟨hrun, hcompl, hwatch, rfl, rfl, .inl ⟨rfl, hstop, rfl⟩, rfl, rfl, hcall,
      congrArg (· + 1) hcursor, hunst, hgen, hlive, hpend, hold⟩
  have hfit : (o.recruit stage out err).Fits o.pipeline :=
    ⟨⟨stage, hstage, rfl⟩, nofun, nofun, nofun, nofun⟩
  refine ⟨h.valid, forall_mem_concat h.fits hfit, forall_mem_concat h.bound (Nat.le_refl _), ?_,
    forall_mem_concat (fun e he => Nat.le_of_lt (hold e he)) (Nat.le_of_eq hgen), ?_, ?_,
    .inr ⟨_, _, _, _, hw⟩⟩
  · show ((o.workers ++ [o.recruit stage out err]).map Worker.place).Pairwise Precedes
    rw [List.map_append, List.pairwise_append]
    refine ⟨h.ordered, List.pairwise_singleton _ _, fun a ha b hb => ?_⟩
    obtain ⟨k, hk, rfl⟩ := List.mem_map.1 ha
    rw [List.map_singleton, List.mem_singleton] at hb
    rw [hb]
    exact hprec k hk
  · rw [hw.settled]
    exact h.done
  · rw [hw.settled]
    exact h.linked

/-! ## Moves -/

/-- A step that makes nothing of the run: the same run goes on, or none is in progress. -/
structure Still (o o' : Orchestrator ω) : Prop where
  pipeline : o'.pipeline = o.pipeline
  settings : o'.settings = o.settings
  running : o'.running = o.running
  generation : o'.generation = o.generation
  outcomes : o'.outcomes = o.outcomes
  log : o'.log = o.log
  later : List.Forall₂ Worker.Later o.workers o'.workers

omit [FileStore ω] in
theorem Quiet.still {o o' : Orchestrator ω} (h : o.Quiet o') : o.Still o' :=
  ⟨h.pipeline, h.settings, h.running, h.generation, h.outcomes, h.log, h.later⟩

/-- The state in which a stop has the outcome of the worker it waited for. -/
def handedOver (o : Orchestrator ω) (ks : List Worker) (k : Worker) : Orchestrator ω :=
  { o with stopping := none, workers := ks ++ [{ k with collected := true }] }

/-- What a step makes of the run, with the state that it leads to. -/
inductive Move (o : Orchestrator ω) : Step ω → Orchestrator ω → Prop where
  /-- Nothing. -/
  | still {s : Step ω} {o' : Orchestrator ω} (same : o.Still o')
      (launches : o.launches? s = none) : Move o s o'
  /-- A start fails at a redirect target of the first stage. -/
  | refused {e : Refusal} {world : ω} (idle : o.Idle)
      (opened : openSinks o.world o.pipeline 0 = (.error e, world)) :
      Move o .start ({ o.begun with world }.reset false)
  /-- A run begins. -/
  | begun {stage : Stage} {out err : Sink} {world : ω} (idle : o.Idle)
      (next : o.pipeline.stages[0]? = some stage)
      (opened : openSinks o.world o.pipeline 0 = (.ok (out, err), world)) :
      Move o .start { o.begun.launched stage out err world with
        drivers := o.drivers ++ [Driver.of (o.generation + 1)] }
  /-- A stop records the outcome of the stage at work and ends the run. -/
  | stopped {ks : List Worker} {k : Worker} {ds : List Driver} {d : Driver} {r : Outcome}
      (work : o.AtWork ks k ds d) (ended : k.task.outcome? = some r) :
      Move o .endStop (((o.handedOver ks k).record r).reset false)
  /-- A driver records the outcome of the stage at work and launches the next one. -/
  | advanced {ks : List Worker} {k : Worker} {ds ds' : List Driver} {d : Driver} {r : Outcome}
      {i : Nat} {stage : Stage} {out err : Sink} {world : ω} (work : o.AtWork ks k ds d)
      (ended : k.task.outcome? = some r) (unkilled : r.status ≠ .stopped)
      (launches : o.launches? (.act i) = some o.cursor)
      (next : o.pipeline.stages[o.cursor]? = some stage)
      (opened : openSinks o.world o.pipeline o.cursor = (.ok (out, err), world)) :
      Move o (.act i) { (o.record r).launched stage out err world with drivers := ds' }
  /-- A driver records the outcome of the last stage, which completes the run. -/
  | completed {ks : List Worker} {k : Worker} {ds ds' : List Driver} {d : Driver} {r : Outcome}
      {i : Nat} (work : o.AtWork ks k ds d) (ended : k.task.outcome? = some r)
      (unkilled : r.status ≠ .stopped) (launches : o.launches? (.act i) = none)
      (last : o.pipeline.stages.length ≤ o.cursor) :
      Move o (.act i) { (o.record r).reset true with drivers := ds' }
  /-- A driver records the outcome of the stage at work and fails at a redirect target of the next
  one. -/
  | cut {ks : List Worker} {k : Worker} {ds ds' : List Driver} {d : Driver} {r : Outcome}
      {i : Nat} {stage : Stage} {e : Refusal} {world : ω} (work : o.AtWork ks k ds d)
      (ended : k.task.outcome? = some r) (unkilled : r.status ≠ .stopped)
      (launches : o.launches? (.act i) = some o.cursor)
      (next : o.pipeline.stages[o.cursor]? = some stage)
      (opened : openSinks o.world o.pipeline o.cursor = (.error e, world)) :
      Move o (.act i) { ({ o.record r with world }).reset false with drivers := ds' }

/-! ## Starts -/

theorem Inv.start {o : Orchestrator ω} (h : o.Inv) : o.start.2.Inv ∧ o.Move .start o.start.2 := by
  cases hrun : o.running with
  | true =>
    rw [start_of_running hrun]
    refine ⟨h, .still (Quiet.refl o).still ?_⟩
    unfold launches?
    rw [hrun]
    rfl
  | false =>
    have hi := h.idle hrun
    have hrest := (h.rest hi).begun
    rw [start_eq hrun]
    rcases launchNext_cases (o := o.begun) rfl rfl with
      ⟨hlast, -⟩ | ⟨stage, e, world, hstage, hopen, hl⟩ |
      ⟨stage, out, err, world, hstage, hopen, hl⟩
    · have hne := ((Pipeline.isValid_iff _).1 h.valid).1
      exact absurd (List.length_eq_zero_iff.1 (Nat.le_zero.1 hlast)) hne
    · rw [hl]
      exact ⟨hrest.reset hi.stopping false hrest.driverBound world, .refused hi hopen⟩
    · rw [hl]
      refine ⟨?_, .begun hi hstage hopen⟩
      refine hrest.launched rfl rfl rfl hi.stopping rfl nofun (fun k hk => .inl ?_) hstage hopen
        rfl rfl rfl fun d hd => ?_
      · exact Nat.lt_succ_of_le (h.bound k hk)
      · exact Nat.lt_succ_of_le (h.driverBound d hd)

/-! ## Stops -/

omit [FileStore ω] in
theorem beginStop_of_atWork {o : Orchestrator ω} {ks : List Worker} {k : Worker}
    {ds : List Driver} {d : Driver} (hw : o.AtWork ks k ds d) (hfree : o.isFree = true) :
    o.beginStop = { o with
      current := none, stopping := some ks.length, workers := ks ++ [k.kill] } := by
  have hn : ¬ (!o.running) = true := by rw [hw.running]; decide
  unfold beginStop
  rw [if_neg hn]
  split
  · rename_i hnone
    rw [(hw.current hfree).1] at hnone
    cases hnone
  · rename_i i hi
    rw [(hw.current hfree).1] at hi
    cases hi
    have hmod : o.workers.modify ks.length Worker.kill = ks ++ [k.kill] := by
      rw [hw.workers, List.modify_eq_take_drop, List.take_left, List.drop_left]
      rfl
    rw [hmod]

omit [FileStore ω] in
/-- The worker to which a kill was sent is still at work. -/
theorem AtWork.hold {o : Orchestrator ω} {ks : List Worker} {k : Worker} {ds : List Driver}
    {d : Driver} (hw : o.AtWork ks k ds d) :
    { o with
      current := none, stopping := some ks.length,
      workers := ks ++ [k.kill] }.AtWork ks k.kill ds d :=
  ⟨hw.running, hw.completions, hw.watched, rfl, hw.drivers, .inr ⟨rfl, rfl⟩, hw.generation,
    hw.uncollected, hw.call, hw.cursor, hw.unstopped, hw.driverGeneration, hw.live, hw.pending,
    hw.older⟩

omit [FileStore ω] in
/-- A kill that is sent changes nothing else of the run. -/
theorem Inv.hold {o : Orchestrator ω} (h : o.Inv) {ks : List Worker} {k : Worker}
    {ds : List Driver} {d : Driver} (hw : o.AtWork ks k ds d) :
    { o with current := none, stopping := some ks.length, workers := ks ++ [k.kill] }.Inv := by
  have hk : k.Later k.kill := Worker.Later.of_task_eq rfl rfl id
  have hfit := h.fits k hw.mem
  have hdone := h.done
  have hlinked := h.linked
  rw [hw.settled] at hdone hlinked
  refine ⟨h.valid, hw.fits_concat h (hfit.of_task_eq rfl (fun _ => rfl) hfit.ended),
    hw.bound_concat h hk, hw.ordered_concat h hk, h.driverBound, ?_, ?_, .inr ⟨_, _, _, _, hw.hold⟩⟩
  · rw [hw.hold.settled]
    exact hdone
  · rw [hw.hold.settled]
    exact hlinked

theorem Inv.beginStop {o : Orchestrator ω} (h : o.Inv) (hfree : o.isFree = true) :
    o.beginStop.Inv ∧ o.Move .beginStop o.beginStop := by
  cases hrun : o.running with
  | false =>
    have hs : o.beginStop = o := by
      unfold Orchestrator.beginStop
      rw [hrun]
      rfl
    rw [hs]
    exact ⟨h, .still (Quiet.refl o).still rfl⟩
  | true =>
    obtain ⟨ks, k, ds, d, hw⟩ := h.atWork hrun
    have hk : k.Later k.kill := Worker.Later.of_task_eq rfl rfl id
    rw [beginStop_of_atWork hw hfree]
    exact ⟨h.hold hw, .still ⟨rfl, rfl, rfl, rfl, rfl, rfl, hw.later_concat hk⟩ rfl⟩

omit [FileStore ω] in
theorem AtWork.endStop?_eq {o : Orchestrator ω} {ks : List Worker} {k : Worker}
    {ds : List Driver} {d : Driver} (hw : o.AtWork ks k ds d) (hs : o.stopping = some ks.length) :
    o.endStop? = if k.isFinished then
      (k.task.outcome?).map fun r => ((o.handedOver ks k).record r).reset false else none := by
  have hk : o.workers[ks.length]? = some k := by
    rw [hw.workers]
    exact List.getElem?_concat_length
  have hset : o.workers.set ks.length { k with collected := true } =
      ks ++ [{ k with collected := true }] := by
    rw [hw.workers, set_length_concat]
  unfold endStop?
  simp only [hs, hk, Option.bind_eq_bind, Option.bind_some]
  cases hfin : k.isFinished with
  | false => rfl
  | true =>
    obtain ⟨-, r, hr⟩ := Worker.of_isFinished hfin
    rw [Worker.collect_eq hfin hw.uncollected hr, hset, hr]
    rfl

omit [FileStore ω] in
/-- A stop ends once the worker it waits for has finished, with that worker's outcome. -/
theorem endStop?_of_atWork {o o' : Orchestrator ω} {ks : List Worker} {k : Worker}
    {ds : List Driver} {d : Driver} (hw : o.AtWork ks k ds d) (h : o.endStop? = some o') :
    ∃ r, k.task.outcome? = some r ∧ k.reported = true ∧
      o' = ((o.handedOver ks k).record r).reset false := by
  rcases hw.held with ⟨-, hs, -⟩ | ⟨-, hs⟩
  · unfold endStop? at h
    rw [hs] at h
    cases h
  · rw [hw.endStop?_eq hs] at h
    split at h
    · rename_i hfin
      obtain ⟨hrep, r, hr⟩ := Worker.of_isFinished hfin
      rw [hr] at h
      cases h
      exact ⟨r, hr, hrep, rfl⟩
    · cases h

theorem Inv.endStop {o o' : Orchestrator ω} (h : o.Inv) (he : o.endStop? = some o') :
    o'.Inv ∧ o.Move .endStop o' := by
  cases hrun : o.running with
  | false =>
    unfold endStop? at he
    rw [(h.idle hrun).stopping] at he
    cases he
  | true =>
    obtain ⟨ks, k, ds, d, hw⟩ := h.atWork hrun
    obtain ⟨r, hr, hrep, rfl⟩ := endStop?_of_atWork hw he
    have hfit := h.fits k hw.mem
    have hl : k.Later { k with collected := true } := Worker.Later.of_task_eq rfl rfl id
    have hrest := hw.rest_record h hr hrep hl (hfit.of_task_eq rfl id hfit.ended)
    have hrest' : ((o.handedOver ks k).record r).Rest :=
      ⟨hrest.valid, hrest.fits, hrest.bound, hrest.ordered, hrest.driverBound, hrest.done,
        hrest.linked⟩
    exact ⟨hrest'.reset rfl false hrest'.driverBound _, .stopped hw hr⟩

/-! ## Drivers -/

omit [FileStore ω] in
/-- All workers come before the stage under the cursor. -/
theorem AtWork.precedes {o : Orchestrator ω} {ks : List Worker} {k : Worker} {ds : List Driver}
    {d : Driver} (hw : o.AtWork ks k ds d) (h : o.Inv) :
    ∀ v ∈ o.workers, Precedes v.place (o.generation, o.cursor) := by
  have hk : Precedes k.place (o.generation, o.cursor) := by
    refine .inr ⟨hw.generation, ?_⟩
    show k.task.index < o.cursor
    rw [hw.index, hw.cursor]
    exact Nat.lt_succ_self _
  have hord := h.ordered
  rw [hw.workers, List.map_append, List.pairwise_append] at hord
  intro v hv
  rw [hw.workers] at hv
  rcases List.mem_append.1 hv with hv | hv
  · have hvk := hord.2.2 _ (List.mem_map_of_mem hv) _ (List.mem_singleton_self k.place)
    unfold Precedes at *
    omega
  · rw [List.mem_singleton.1 hv]
    exact hk

omit [FileStore ω] in
/-- Only the run's driver acts on a completion of the current run. -/
theorem AtWork.of_isCurrent {o : Orchestrator ω} {ks : List Worker} {k : Worker} {ds : List Driver}
    {d e : Driver} {c : Completion} {i : Nat} (hw : o.AtWork ks k ds d)
    (he : o.drivers[i]? = some e) (hc : o.isCurrent e c = true) : i = ds.length ∧ e = d := by
  unfold isCurrent at hc
  rw [Bool.and_eq_true, Bool.and_eq_true] at hc
  rw [hw.drivers] at he
  rcases set_concat e he with ⟨-, he', -⟩ | ⟨hi, hed, -⟩
  · have hlt := hw.older e (List.mem_of_getElem? he')
    have heq : e.generation = o.generation := by simpa using hc.1.2
    omega
  · exact ⟨hi, hed⟩

omit [FileStore ω] in
theorem launches?_act {o : Orchestrator ω} {i : Nat} {e : Driver} {c : Completion}
    (he : o.drivers[i]? = some e) (hc : e.inHand = some c) :
    o.launches? (.act i) =
      if o.isCurrent e c && decide (o.cursor < o.pipeline.stages.length) then some o.cursor
      else none := by
  unfold launches?
  simp only [he, hc, Option.bind_eq_bind, Option.bind_some]

omit [FileStore ω] in
/-- While nobody holds the lock the stage at work is not stopped: no kill was sent. -/
theorem AtWork.unkilled {o : Orchestrator ω} {ks : List Worker} {k : Worker} {ds : List Driver}
    {d : Driver} (hw : o.AtWork ks k ds d) (h : o.Inv) (hfree : o.isFree = true) {r : Outcome}
    (hr : k.task.outcome? = some r) : r.status ≠ .stopped := by
  obtain ⟨-, -, hkill⟩ := hw.current hfree
  intro hs
  rw [(h.fits k hw.mem).killed r hr hs] at hkill
  cases hkill

/-- The run goes on: the outcome of the stage at work is recorded and the next stage launched. -/
theorem AtWork.launched_next {o : Orchestrator ω} {ks : List Worker} {k : Worker}
    {ds : List Driver} {d : Driver} (hw : o.AtWork ks k ds d) (h : o.Inv)
    (hstop : o.stopping = none) {r : Outcome} (hrest : (o.record r).Rest)
    (hunst : r.status ≠ .stopped) (hqueue : d.queue = []) {stage : Stage} {out err : Sink}
    {world : ω} (hstage : o.pipeline.stages[o.cursor]? = some stage)
    (hopen : openSinks o.world o.pipeline o.cursor = (.ok (out, err), world)) :
    { (o.record r).launched stage out err world with
      drivers := ds ++ [{ d with inHand := none }] }.Inv := by
  have hcursor : (o.record r).cursor = (o.record r).outcomes.length := by
    show o.cursor = (o.outcomes ++ [r]).length
    rw [hw.cursor, List.length_append]
    rfl
  have hpend : { d with inHand := none }.pending = [] := hqueue
  exact hrest.launched hw.running hw.completions hw.watched hstop hcursor
    (forall_mem_concat hw.unstopped hunst) (hw.precedes h) hstage hopen hw.driverGeneration
    hw.live hpend hw.older

theorem Inv.act_current {o : Orchestrator ω} (h : o.Inv) (hfree : o.isFree = true) {i : Nat}
    {e : Driver} {c : Completion} (he : o.drivers[i]? = some e) (hc : e.inHand = some c)
    (hcur : o.isCurrent e c = true) : (o.act i).Inv ∧ o.Move (.act i) (o.act i) := by
  have hrun := running_of_isCurrent hcur
  obtain ⟨ks, k, ds, d, hw⟩ := h.atWork hrun
  obtain ⟨rfl, rfl⟩ := hw.of_isCurrent he hcur
  obtain ⟨-, hr, hrep, hqueue⟩ := hw.of_inHand hc
  obtain ⟨-, hstop, -⟩ := hw.current hfree
  have hunst := hw.unkilled h hfree hr
  have hrest : (o.record c.outcome).Rest := by
    have := hw.rest_record h hr hrep (Worker.Later.refl k) (h.fits k hw.mem)
    rw [← hw.workers] at this
    exact this
  have hleft : ∀ d' ∈ o.drivers.set ds.length e.left, d'.generation ≤ o.generation :=
    forall_mem_set h.driverBound (Nat.le_of_eq hw.driverGeneration)
  have hlaunch := launches?_act he hc
  rw [hcur, Bool.true_and] at hlaunch
  rw [act_of_current he hc hcur, advance_eq]
  rcases launchNext_cases (o := o.record c.outcome) hrun hw.completions with
    ⟨hlast, hl⟩ | ⟨stage, x, world, hstage, hopen, hl⟩ | ⟨stage, out, err, world, hstage, hopen, hl⟩
  · have hge : ¬ o.cursor < o.pipeline.stages.length := Nat.not_lt.2 hlast
    rw [decide_eq_false hge, if_neg Bool.false_ne_true] at hlaunch
    rw [hl]
    exact ⟨hrest.reset hstop true hleft o.world, .completed hw hr hunst hlaunch hlast⟩
  · have hlt : o.cursor < o.pipeline.stages.length := (List.getElem?_eq_some_iff.1 hstage).1
    rw [decide_eq_true hlt, if_pos rfl] at hlaunch
    rw [hl]
    exact ⟨hrest.reset hstop false hleft world, .cut hw hr hunst hlaunch hstage hopen⟩
  · have hlt : o.cursor < o.pipeline.stages.length := (List.getElem?_eq_some_iff.1 hstage).1
    rw [decide_eq_true hlt, if_pos rfl] at hlaunch
    rw [hl]
    refine ⟨?_, .advanced hw hr hunst hlaunch hstage hopen⟩
    have hds : o.drivers.set ds.length
        (if ((o.record c.outcome).launched stage out err world).running = true
          then { e with inHand := none } else e.left) = ds ++ [{ e with inHand := none }] := by
      have hgo : ((o.record c.outcome).launched stage out err world).running = true := hrun
      rw [if_pos hgo, hw.drivers, set_length_concat]
    show { (o.record c.outcome).launched stage out err world with
      drivers := o.drivers.set ds.length _ }.Inv
    rw [hds]
    exact hw.launched_next h hstop hrest hunst hqueue hstage hopen

theorem Inv.act {o : Orchestrator ω} (h : o.Inv) (hfree : o.isFree = true) (i : Nat) :
    (o.act i).Inv ∧ o.Move (.act i) (o.act i) := by
  rcases o.act_cases i with ⟨hnone, hs⟩ | ⟨e, c, he, hc, ⟨hcur, hs⟩ | ⟨hcur, -⟩⟩
  · rw [hs]
    refine ⟨h, .still (Quiet.refl o).still ?_⟩
    refine Option.bind_eq_none_iff.2 fun e he => ?_
    rw [Option.bind_eq_none_iff.1 hnone e he]
    rfl
  · rw [hs]
    refine ⟨h.act_stale he hc hcur, .still (o.quiet_of_later _ o.world (later_refl _)).still ?_⟩
    rw [launches?_act he hc, hcur]
    rfl
  · exact h.act_current hfree he hc hcur

/-! ## Every step -/

/-- **Every step keeps the invariant** and makes one of the moves of the run. -/
theorem Inv.next {o o' : Orchestrator ω} {s : Step ω} (h : o.Inv) (hs : o.next? s = some o') :
    o'.Inv ∧ o.Move s o' := by
  unfold next? nextBy? at hs
  split at hs
  · split at hs
    · cases hs
      exact h.start
    · cases hs
  · split at hs
    · rename_i hfree
      cases hs
      exact h.beginStop hfree
    · cases hs
  · exact h.endStop hs
  · cases hs
    exact ⟨h.work _ _, .still (o.quiet_work _ _).still rfl⟩
  · cases hs
    exact ⟨h.report _, .still (o.quiet_report _).still rfl⟩
  · cases hs
    exact ⟨h.receive _, .still (o.quiet_receive _).still rfl⟩
  · split at hs
    · rename_i hfree
      cases hs
      exact h.act hfree _
    · cases hs
  · cases hs
    exact ⟨h.disturb _, .still (o.quiet_of_later _ _ (later_refl _)).still rfl⟩

omit [FileStore ω] in
/-- The state of a new orchestrator has the invariant. -/
theorem inv_of_ofPipeline {p : Pipeline} {settings : Settings} {world : ω} {o : Orchestrator ω}
    (h : ofPipeline p settings world = .ok o) : o.Inv := by
  obtain ⟨hv, rfl⟩ := of_ofPipeline h
  have hrest : Rest { pipeline := p, settings, world } :=
    ⟨hv, fun _ hk => absurd hk List.not_mem_nil, fun _ hk => absurd hk List.not_mem_nil, .nil,
      fun _ hd => absurd hd List.not_mem_nil, fun _ hk => absurd hk List.not_mem_nil,
      Pipeline.Linked.nil⟩
  exact hrest.inv ⟨rfl, rfl, rfl, rfl, rfl, rfl⟩

theorem Inv.history {o o' : Orchestrator ω} {ts : List (Transition ω)} (h : o.Inv)
    (ht : History o ts o') : o'.Inv :=
  ht.keeps (fun hm hs => (hm.next hs).1) h

section Frame

variable {o o' : Orchestrator ω} {s : Step ω}

theorem Move.pipeline (h : o.Move s o') : o'.pipeline = o.pipeline := by
  cases h with
  | still same => exact same.pipeline
  | _ => rfl

theorem Move.settings (h : o.Move s o') : o'.settings = o.settings := by
  cases h with
  | still same => exact same.settings
  | _ => rfl

theorem Move.generation_le (h : o.Move s o') : o.generation ≤ o'.generation := by
  cases h with
  | still same => exact Nat.le_of_eq same.generation.symm
  | refused => exact Nat.le_succ _
  | begun => exact Nat.le_succ _
  | _ => exact Nat.le_refl _

theorem Inv.pipeline_history {ts : List (Transition ω)} (h : o.Inv) (ht : History o ts o') :
    o'.pipeline = o.pipeline ∧ o'.settings = o.settings ∧ o.generation ≤ o'.generation := by
  induction ht with
  | nil => exact ⟨rfl, rfl, Nat.le_refl _⟩
  | snoc ht hs ih =>
    have hm := ((h.history ht).next hs).2
    exact ⟨hm.pipeline.trans ih.1, hm.settings.trans ih.2.1, Nat.le_trans ih.2.2 hm.generation_le⟩

end Frame

/-- Whatever has happened to a new orchestrator, it has the invariant, with the pipeline and the
settings that it was made with. -/
theorem inv_of_history {p : Pipeline} {settings : Settings} {world : ω} {o₀ o : Orchestrator ω}
    {ts : List (Transition ω)} (h₀ : ofPipeline p settings world = .ok o₀)
    (ht : History o₀ ts o) : o.Inv ∧ o.pipeline = p ∧ o.settings = settings := by
  have hinv₀ := inv_of_ofPipeline h₀
  obtain ⟨hp, hs, -⟩ := hinv₀.pipeline_history ht
  obtain ⟨-, rfl⟩ := of_ofPipeline h₀
  exact ⟨hinv₀.history ht, hp, hs⟩

end Relay.Orchestrator
