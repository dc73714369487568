import Relay.Proofs.Orchestrator.Moves

/-!
# Orchestrators with a past

An orchestrator that has runs behind it differs from a new one in its numbers: runs are counted from
further on, and the lists of workers and drivers begin with those of the past.  `withPast` puts a
past before an orchestrator.  This module shows that the past makes no other difference:

1. Every function of the orchestrator commutes with `withPast` (`launchNext_withPast`,
   `start_withPast`, `act_withPast` and the others), as long as the workers of the past are over and
   have reported.
2. So a step on the workers and drivers after the past leads to the same state with the same past
   (`next?_withPast`); a step on those of the past changes nothing but the past's drivers
   (`next?_leftover`).
3. Histories follow in both directions (`History.withPast`, `History.of_withPast`), and every idle
   state without outcomes is that of a new orchestrator with a past (`Idle.withPast_past`).
-/

namespace Relay

variable {ω : Type}

/-! ## Counting from further on -/

/-- A completion of a run that is counted from further on. -/
def Completion.renumber (g : Nat) (c : Completion) : Completion :=
  { c with generation := g + c.generation }

def Worker.renumber (g : Nat) (k : Worker) : Worker := { k with generation := g + k.generation }

def Driver.renumber (g : Nat) (d : Driver) : Driver :=
  { d with
    generation := g + d.generation
    queue := d.queue.map (Completion.renumber g)
    inHand := d.inHand.map (Completion.renumber g) }

theorem Worker.isFinished_renumber (k : Worker) (g : Nat) :
    (k.renumber g).isFinished = k.isFinished := rfl

theorem Worker.collect_renumber (k : Worker) (g : Nat) :
    (k.renumber g).collect = (k.collect.1, k.collect.2.renumber g) := by
  obtain ⟨generation, task, killSent, reported, collected⟩ := k
  unfold collect
  rw [isFinished_renumber]
  cases Worker.isFinished ⟨generation, task, killSent, reported, collected⟩ with
  | false => rfl
  | true => cases collected <;> rfl

theorem Worker.report_renumber (k : Worker) (g : Nat) :
    (k.renumber g).report = (k.report.1.map (Completion.renumber g), k.report.2.renumber g) := by
  obtain ⟨generation, task, killSent, reported, collected⟩ := k
  show Worker.report ⟨g + generation, task, killSent, reported, collected⟩ = _
  unfold report
  cases task.outcome? with
  | none => rfl
  | some r => cases reported <;> rfl

theorem Worker.step_renumber [FileStore ω] (k : Worker) (g : Nat) (w : ω) (s : Task.Signal) :
    (k.renumber g).step w s = ((k.step w s).1.renumber g, (k.step w s).2) := by
  have hadmits : (k.renumber g).admits s = k.admits s := by cases s <;> rfl
  unfold step
  rw [hadmits]
  split <;> rfl

theorem beq_add_left (g a b : Nat) : (g + a == g + b) = (a == b) := by
  rw [Bool.eq_iff_iff, beq_iff_eq, beq_iff_eq, Nat.add_left_cancel_iff]

/-! ## Lists with something in front -/

section Lists

variable {α : Type} (xs ys : List α) (f : α → α) (i : Nat)

theorem getElem?_behind : (xs ++ ys.map f)[xs.length + i]? = ys[i]?.map f := by
  rw [List.getElem?_append_right (Nat.le_add_right _ _), Nat.add_sub_cancel_left, List.getElem?_map]

theorem set_behind (a : α) :
    (xs ++ ys.map f).set (xs.length + i) (f a) = xs ++ (ys.set i a).map f := by
  rw [List.set_append_right _ _ (Nat.le_add_right _ _), Nat.add_sub_cancel_left, List.map_set]

theorem modify_behind {g : α → α} (h : ∀ a, g (f a) = f (g a)) :
    (xs ++ ys.map f).modify (xs.length + i) g = xs ++ (ys.modify i g).map f := by
  rw [List.modify_eq_set_getElem?, List.modify_eq_set_getElem?, getElem?_behind]
  cases ys[i]? with
  | none => rfl
  | some a =>
    show (xs ++ ys.map f).set (xs.length + i) (g (f a)) = _
    rw [h, set_behind]
    rfl

end Lists

/-! ## The past -/

/-- What runs that are over have left behind. -/
structure Past where
  /-- The number of starts. -/
  generation : Nat
  log : List Event
  workers : List Worker
  drivers : List Driver

/-- Nothing of the past is at work: the workers are over and have reported, and the drivers belong
to the runs that were counted. -/
structure Past.IsOver (x : Past) : Prop where
  ended : ∀ k ∈ x.workers, ∃ r, k.task.outcome? = some r
  reported : ∀ k ∈ x.workers, k.reported = true
  drivers : ∀ d ∈ x.drivers, d.generation ≤ x.generation

/-- The same past at a later time: only what its drivers hold may have changed. -/
structure Past.Later (x x' : Past) : Prop where
  generation : x'.generation = x.generation
  log : x'.log = x.log
  workers : x'.workers = x.workers
  drivers : x'.drivers.map Driver.generation = x.drivers.map Driver.generation

namespace Past

variable {x x' x'' : Past}

theorem Later.refl (x : Past) : x.Later x := ⟨rfl, rfl, rfl, rfl⟩

theorem Later.trans (h : x.Later x') (h' : x'.Later x'') : x.Later x'' :=
  ⟨h'.generation.trans h.generation, h'.log.trans h.log, h'.workers.trans h.workers,
    h'.drivers.trans h.drivers⟩

theorem Later.isOver (h : x.Later x') (hx : x.IsOver) : x'.IsOver := by
  refine ⟨?_, ?_, fun d' hd' => ?_⟩
  · rw [h.workers]
    exact hx.ended
  · rw [h.workers]
    exact hx.reported
  · have hmem : d'.generation ∈ x'.drivers.map Driver.generation := List.mem_map_of_mem hd'
    rw [h.drivers] at hmem
    obtain ⟨d, hd, heq⟩ := List.mem_map.1 hmem
    rw [h.generation, ← heq]
    exact hx.drivers d hd

/-- A driver of the past changes. -/
theorem later_set_driver {i : Nat} {d d' : Driver} (hd : x.drivers[i]? = some d)
    (hgen : d'.generation = d.generation) : x.Later { x with drivers := x.drivers.set i d' } :=
  ⟨rfl, rfl, rfl, map_set_of_eq hd hgen⟩

end Past

namespace Orchestrator

/-- An orchestrator with a past before it. -/
def withPast (o : Orchestrator ω) (x : Past) : Orchestrator ω :=
  { o with
    generation := x.generation + o.generation
    current := o.current.map (x.workers.length + ·)
    completions := o.completions.map (x.generation + ·)
    log := x.log ++ o.log
    workers := x.workers ++ o.workers.map (Worker.renumber x.generation)
    drivers := x.drivers ++ o.drivers.map (Driver.renumber x.generation)
    stopping := o.stopping.map (x.workers.length + ·) }

/-- What an orchestrator has behind it. -/
def past (o : Orchestrator ω) : Past :=
  { generation := o.generation, log := o.log, workers := o.workers, drivers := o.drivers }

/-- The new orchestrator for the same pipeline, with the files as they are now. -/
def anew (o : Orchestrator ω) : Orchestrator ω :=
  { pipeline := o.pipeline, settings := o.settings, world := o.world }

/-- An idle state without outcomes is that of a new orchestrator, with a past. -/
theorem Idle.withPast_past {o : Orchestrator ω} (h : o.Idle) (hnone : o.outcomes = []) :
    o.anew.withPast o.past = o := by
  obtain ⟨hrun, hcursor, hcurrent, hcompl, hwatch, hstop⟩ := h
  obtain ⟨pipeline, settings, running, cursor, generation, current, completions, outcomes, watched,
    log, workers, drivers, stopping, world⟩ := o
  simp only at hrun hcursor hcurrent hcompl hwatch hstop hnone
  subst hrun hcursor hcurrent hcompl hwatch hstop hnone
  simp [withPast, past, anew]

section Fields

variable (o : Orchestrator ω) (x : Past)

@[simp]
theorem workers_withPast :
    (o.withPast x).workers = x.workers ++ o.workers.map (Worker.renumber x.generation) := rfl

@[simp]
theorem drivers_withPast :
    (o.withPast x).drivers = x.drivers ++ o.drivers.map (Driver.renumber x.generation) := rfl

theorem getElem?_workers_withPast (i : Nat) : (o.withPast x).workers[x.workers.length + i]? =
    o.workers[i]?.map (Worker.renumber x.generation) := getElem?_behind _ _ _ _

theorem getElem?_drivers_withPast (i : Nat) : (o.withPast x).drivers[x.drivers.length + i]? =
    o.drivers[i]?.map (Driver.renumber x.generation) := getElem?_behind _ _ _ _

theorem isFree_withPast : (o.withPast x).isFree = o.isFree := by
  unfold isFree
  exact Option.isNone_map

theorem isCurrent_withPast (d : Driver) (c : Completion) :
    (o.withPast x).isCurrent (d.renumber x.generation) (c.renumber x.generation) =
      o.isCurrent d c := by
  show (o.running && x.generation + d.generation == x.generation + o.generation &&
    x.generation + c.generation == x.generation + o.generation) = _
  rw [beq_add_left, beq_add_left]
  rfl

end Fields

/-! ## Starting and stopping -/

section Run

variable (o : Orchestrator ω) (x : Past)

theorem send_withPast (e : Event) : (o.withPast x).send e = (o.send e).withPast x := by
  unfold send withPast
  rw [List.append_assoc]

theorem reset_withPast (completed : Bool) :
    (o.withPast x).reset completed = (o.reset completed).withPast x := by
  unfold reset
  exact send_withPast { o with running := false, cursor := 0, current := none, completions := none,
                               watched := false } x _

theorem record_withPast (r : Outcome) : (o.withPast x).record r = (o.record r).withPast x := by
  unfold record
  rw [send_withPast]
  rfl

theorem employ_withPast (t : Task) : (o.withPast x).employ t = (o.employ t).withPast x := by
  simp [employ, withPast, Worker.renumber]

theorem beginStop_withPast : (o.withPast x).beginStop = o.beginStop.withPast x := by
  have hrun : (o.withPast x).running = o.running := rfl
  have hcurrent : (o.withPast x).current = o.current.map (x.workers.length + ·) := rfl
  unfold beginStop
  rw [hrun, hcurrent]
  cases o.running with
  | false => rfl
  | true =>
    cases o.current with
    | none => exact reset_withPast o x false
    | some k =>
      have hkill := modify_behind x.workers o.workers (Worker.renumber x.generation) k
        (g := Worker.kill) fun _ => rfl
      simp only [withPast, Option.map_some, Option.map_none, Bool.not_true, Bool.false_eq_true,
        if_false, hkill]

theorem endStop?_withPast : (o.withPast x).endStop? = o.endStop?.map (·.withPast x) := by
  have hstopping : (o.withPast x).stopping = o.stopping.map (x.workers.length + ·) := rfl
  unfold endStop?
  rw [hstopping]
  cases o.stopping with
  | none => rfl
  | some i =>
    simp only [Option.map_some, Option.bind_eq_bind, Option.bind_some, getElem?_workers_withPast]
    cases o.workers[i]? with
    | none => rfl
    | some k =>
      simp only [Option.map_some, Option.bind_some, Worker.isFinished_renumber,
        Worker.collect_renumber, workers_withPast, set_behind]
      cases k.isFinished with
      | false => rfl
      | true =>
        cases k.collect.1 with
        | none => simp [withPast, reset, send]
        | some r => simp [withPast, reset, send, record]

variable [FileStore ω]

theorem launchNext_withPast :
    (o.withPast x).launchNext = (o.launchNext.1, o.launchNext.2.withPast x) := by
  have hrun : (o.withPast x).running = o.running := rfl
  have hpipeline : (o.withPast x).pipeline = o.pipeline := rfl
  have hcursor : (o.withPast x).cursor = o.cursor := rfl
  have hworld : (o.withPast x).world = o.world := rfl
  have hcompl : (o.withPast x).completions = o.completions.map (x.generation + ·) := rfl
  have hnone : (o.withPast x).launchNone = (o.launchNone.1, o.launchNone.2.withPast x) := by
    unfold launchNone
    rw [hrun, hpipeline, hcursor]
    split
    · simp [reset_withPast]
    · rfl
  unfold launchNext launchOr
  rw [hrun, hpipeline, hcursor, hworld, hcompl]
  cases o.running with
  | false => exact hnone
  | true =>
    cases o.pipeline.stages[o.cursor]? with
    | none =>
      simp only [Bool.not_true, Bool.false_eq_true, if_false]
      split
      · exact hnone
      · simp [reset_withPast]
    | some stage =>
      cases o.completions with
      | none => exact hnone
      | some g =>
        rcases openSinks o.world o.pipeline o.cursor with ⟨e | ⟨out, err⟩, world⟩
        · rfl
        · simp only [Bool.not_true, Bool.false_eq_true, if_false, Option.map_some]
          rw [← send_withPast, ← employ_withPast]
          rfl

theorem start_withPast : (o.withPast x).start = (o.start.1, o.start.2.withPast x) := by
  cases hrun : o.running with
  | true =>
    rw [start_of_running hrun, start_of_running (o := o.withPast x) hrun]
  | false =>
    have hbegun : (o.withPast x).begun = o.begun.withPast x := rfl
    rw [start_eq hrun, start_eq (o := o.withPast x) hrun, hbegun, launchNext_withPast]
    rcases o.begun.launchNext with ⟨e | ⟨⟩, o'⟩
    · simp [reset_withPast]
    · simp [withPast, Driver.of, Driver.renumber, Nat.add_assoc]

end Run

/-! ## Workers and drivers -/

section Workers

variable {o : Orchestrator ω} {x : Past}

/-- The drivers of the past are sent nothing any more. -/
theorem post_withPast (hx : x.IsOver) (ds : List Driver) {c : Completion} (hc : 0 < c.generation) :
    post (x.drivers ++ ds.map (Driver.renumber x.generation)) (c.renumber x.generation) =
      x.drivers ++ (post ds c).map (Driver.renumber x.generation) := by
  unfold post
  rw [List.map_append]
  congr 1
  · refine (List.map_congr_left fun d hd => if_neg fun h => ?_).trans (List.map_id x.drivers)
    have hle := hx.drivers d hd
    have heq : d.generation = x.generation + c.generation :=
      of_decide_eq_true (Bool.and_eq_true_iff.1 h).1
    omega
  · rw [List.map_map, List.map_map]
    refine List.map_congr_left fun d _ => ?_
    have hgen : (d.renumber x.generation).generation = (c.renumber x.generation).generation ↔
        d.generation = c.generation := Nat.add_left_cancel_iff
    have hlive : (d.renumber x.generation).isLive = d.isLive := rfl
    simp only [Function.comp_apply, hgen, hlive]
    split
    · simp [Driver.renumber]
    · rfl

theorem report_withPast (hx : x.IsOver) (ho : ∀ k ∈ o.workers, 0 < k.generation) (i : Nat) :
    (o.withPast x).report (x.workers.length + i) = (o.report i).withPast x := by
  unfold report
  rw [getElem?_workers_withPast]
  cases hk : o.workers[i]? with
  | none => rfl
  | some k =>
    simp only [Option.map_some, Worker.report_renumber, workers_withPast, set_behind]
    rcases k.report_cases with hr | ⟨c, hc, -, hr⟩
    · rw [hr]
      rfl
    · have hpos : 0 < c.generation := by
        rw [(Worker.completion?_eq_some_iff.1 hc).1]
        exact ho k (List.mem_of_getElem? hk)
      rw [hr]
      simp only [Option.map_some, drivers_withPast, post_withPast hx _ hpos]
      rfl

theorem channelOpen_withPast (hx : x.IsOver) (g : Nat) :
    (o.withPast x).channelOpen (x.generation + g) = o.channelOpen g := by
  have hcompl : (o.completions.map (x.generation + ·) == some (x.generation + g)) =
      (o.completions == some g) := by
    cases o.completions with
    | none => rfl
    | some a => exact beq_add_left x.generation a g
  have hpast : (x.workers.any fun k => k.generation == x.generation + g && !k.reported) =
      false := by
    rw [List.any_eq_false]
    intro k hk
    rw [hx.reported k hk, Bool.not_true, Bool.and_false]
    exact Bool.false_ne_true
  have hown : ((o.workers.map (Worker.renumber x.generation)).any
      fun k => k.generation == x.generation + g && !k.reported) =
        o.workers.any fun k => k.generation == g && !k.reported := by
    rw [List.any_map]
    congr 1
    funext k
    exact congrArg (· && !k.reported) (beq_add_left x.generation k.generation g)
  unfold channelOpen
  rw [workers_withPast, List.any_append, hpast, hown, Bool.false_or]
  exact congrArg (· || _) hcompl

theorem set_drivers_withPast (i : Nat) (d : Driver) :
    { o.withPast x with
      drivers := (o.withPast x).drivers.set (x.drivers.length + i) (d.renumber x.generation) } =
        { o with drivers := o.drivers.set i d }.withPast x := by
  rw [drivers_withPast, set_behind]
  rfl

theorem receive_withPast (hx : x.IsOver) (i : Nat) :
    (o.withPast x).receive (x.drivers.length + i) = (o.receive i).withPast x := by
  unfold receive
  rw [getElem?_drivers_withPast]
  cases o.drivers[i]? with
  | none => rfl
  | some d =>
    obtain ⟨g, queue, inHand, isLive⟩ := d
    have hopen : (o.withPast x).channelOpen (x.generation + g) = o.channelOpen g :=
      channelOpen_withPast hx g
    simp only [Option.map_some, Driver.renumber, hopen, Option.isSome_map]
    split
    · rfl
    · cases queue with
      | cons c queue => exact set_drivers_withPast i ⟨g, queue, some c, isLive⟩
      | nil =>
        cases o.channelOpen g with
        | true => rfl
        | false => exact set_drivers_withPast i ⟨g, [], inHand, false⟩

variable [FileStore ω]

theorem work_withPast (i : Nat) (s : Task.Signal) :
    (o.withPast x).work (x.workers.length + i) s = (o.work i s).withPast x := by
  have hworld : (o.withPast x).world = o.world := rfl
  unfold work
  rw [getElem?_workers_withPast]
  cases o.workers[i]? with
  | none => rfl
  | some k =>
    simp only [Option.map_some, hworld, Worker.step_renumber, workers_withPast, set_behind]
    rfl

theorem advance_withPast (c : Completion) :
    (o.withPast x).advance (c.renumber x.generation) = (o.advance c).withPast x := by
  have houtcome : (c.renumber x.generation).outcome = c.outcome := rfl
  rw [advance_eq, advance_eq, houtcome, record_withPast, launchNext_withPast]
  rcases (o.record c.outcome).launchNext with ⟨e | ⟨⟩, o'⟩
  · exact reset_withPast o' x false
  · rfl

theorem act_withPast (i : Nat) :
    (o.withPast x).act (x.drivers.length + i) = (o.act i).withPast x := by
  cases hd : o.drivers[i]? with
  | none =>
    have hd' : ((o.withPast x).drivers[x.drivers.length + i]?).bind Driver.inHand = none := by
      rw [getElem?_drivers_withPast, hd]
      rfl
    rw [act_of_empty hd', act_of_empty (by rw [hd]; rfl)]
  | some d =>
    have hd' := getElem?_drivers_withPast o x i
    rw [hd] at hd'
    cases hc : d.inHand with
    | none =>
      have hc' : (d.renumber x.generation).inHand = none := congrArg (Option.map _) hc
      rw [act_of_empty (by rw [hd']; exact hc'), act_of_empty (by rw [hd]; exact hc)]
    | some c =>
      have hc' : (d.renumber x.generation).inHand = some (c.renumber x.generation) :=
        congrArg (Option.map _) hc
      have hcurrent := isCurrent_withPast o x d c
      cases hcur : o.isCurrent d c with
      | false =>
        rw [act_of_stale hd' hc' (hcurrent.trans hcur), act_of_stale hd hc hcur]
        exact set_drivers_withPast i d.left
      | true =>
        rw [act_of_current hd' hc' (hcurrent.trans hcur), act_of_current hd hc hcur,
          advance_withPast, ← set_drivers_withPast]
        have hrun : ((o.advance c).withPast x).running = (o.advance c).running := rfl
        rw [hrun]
        cases (o.advance c).running with
        | true => rfl
        | false => rfl

end Workers

/-! ## Steps -/

def Step.withPast (x : Past) : Step ω → Step ω
  | .work k s => .work (x.workers.length + k) s
  | .report k => .report (x.workers.length + k)
  | .receive d => .receive (x.drivers.length + d)
  | .act d => .act (x.drivers.length + d)
  | s => s

/-- A step with the past taken away; none if it is one on the workers and drivers of the past. -/
def Step.withoutPast? (x : Past) : Step ω → Option (Step ω)
  | .work k s => if k < x.workers.length then none else some (.work (k - x.workers.length) s)
  | .report k => if k < x.workers.length then none else some (.report (k - x.workers.length))
  | .receive d => if d < x.drivers.length then none else some (.receive (d - x.drivers.length))
  | .act d => if d < x.drivers.length then none else some (.act (d - x.drivers.length))
  | s => some s

theorem Step.eq_withPast {x : Past} {s s' : Step ω} (h : s.withoutPast? x = some s') :
    s = s'.withPast x := by
  have behind : ∀ {n k : Nat}, ¬ k < n → k = n + (k - n) := fun h => by omega
  cases s with
  | work k s =>
    obtain ⟨hk, heq⟩ := Option.ite_none_left_eq_some.1 h
    cases heq
    exact congrArg (Step.work · s) (behind hk)
  | report k =>
    obtain ⟨hk, heq⟩ := Option.ite_none_left_eq_some.1 h
    cases heq
    exact congrArg Step.report (behind hk)
  | receive d =>
    obtain ⟨hd, heq⟩ := Option.ite_none_left_eq_some.1 h
    cases heq
    exact congrArg Step.receive (behind hd)
  | act d =>
    obtain ⟨hd, heq⟩ := Option.ite_none_left_eq_some.1 h
    cases heq
    exact congrArg Step.act (behind hd)
  | _ =>
    cases h
    rfl

/-- Only runs that were started have workers. -/
structure Numbered (o : Orchestrator ω) : Prop where
  workers : ∀ k ∈ o.workers, 0 < k.generation
  running : o.running = true → 0 < o.generation

section Steps

variable [FileStore ω] {o o' : Orchestrator ω} {x : Past} {s : Step ω}

omit [FileStore ω] in
theorem numbered_anew (o : Orchestrator ω) : o.anew.Numbered :=
  ⟨fun _ hk => absurd hk List.not_mem_nil, fun hrun => absurd hrun Bool.false_ne_true⟩

theorem Numbered.next (h : o.Numbered) (hm : o.Move s o') : o'.Numbered := by
  cases hm with
  | still same =>
    refine ⟨fun k' hk' => ?_, fun hrun => ?_⟩
    · obtain ⟨k, hk, hl⟩ := exists_left same.later hk'
      rw [hl.generation]
      exact h.workers k hk
    · rw [same.generation]
      exact h.running (same.running ▸ hrun)
  | refused => exact ⟨h.workers, nofun⟩
  | begun => exact ⟨forall_mem_concat h.workers (Nat.succ_pos _), fun _ => Nat.succ_pos _⟩
  | @stopped ks k ds d r hw =>
    have hworkers := h.workers
    rw [hw.workers] at hworkers
    refine ⟨forall_mem_concat (fun k hk => hworkers k (List.mem_append_left _ hk)) ?_, nofun⟩
    exact hworkers k (List.mem_append_right _ (List.mem_singleton_self k))
  | advanced hw =>
    have hpos := h.running hw.running
    exact ⟨forall_mem_concat h.workers hpos, fun _ => hpos⟩
  | completed => exact ⟨h.workers, nofun⟩
  | cut => exact ⟨h.workers, nofun⟩

/-- **A past makes no difference to a step** on the workers and drivers after it. -/
theorem next?_withPast (hx : x.IsOver) (h : o.Numbered) (s : Step ω) :
    (o.withPast x).next? (s.withPast x) = (o.next? s).map (·.withPast x) := by
  have hfree := isFree_withPast o x
  cases s with
  | start =>
    show (o.withPast x).next? .start = _
    rw [next?_start, next?_start, hfree, start_withPast]
    split <;> rfl
  | beginStop =>
    show (if _ then _ else _) = Option.map _ (if _ then _ else _)
    rw [hfree, beginStop_withPast]
    split <;> rfl
  | endStop => exact endStop?_withPast o x
  | work k s => exact congrArg some (work_withPast k s)
  | report k => exact congrArg some (report_withPast hx h.workers k)
  | receive d => exact congrArg some (receive_withPast hx d)
  | act d =>
    show (o.withPast x).next? (.act (x.drivers.length + d)) = _
    rw [next?_act, next?_act, hfree, act_withPast]
    split <;> rfl
  | disturb world => rfl

end Steps

/-! ## Leftovers -/

section Leftovers

variable [FileStore ω] {o o' : Orchestrator ω} {x : Past} {s : Step ω} {i : Nat}

omit [FileStore ω] in
theorem of_workers_withPast (hx : x.IsOver) (hi : i < x.workers.length) :
    ∃ k r, (o.withPast x).workers[i]? = some k ∧ k.task.outcome? = some r ∧ k.reported = true := by
  have hmem := List.getElem_mem hi
  obtain ⟨r, hr⟩ := hx.ended _ hmem
  refine ⟨x.workers[i], r, ?_, hr, hx.reported _ hmem⟩
  rw [workers_withPast, List.getElem?_append_left hi, List.getElem?_eq_getElem hi]

/-- A worker of the past is over: no signal changes it. -/
theorem work_leftover (hx : x.IsOver) (hi : i < x.workers.length) (s : Task.Signal) :
    (o.withPast x).work i s = o.withPast x := by
  obtain ⟨k, r, hk, hr, -⟩ := of_workers_withPast (o := o) hx hi
  obtain ⟨hi', hki⟩ := List.getElem?_eq_some_iff.1 hk
  have hstep : k.step (o.withPast x).world s = (k, (o.withPast x).world) := by
    unfold Worker.step
    rw [Task.step_of_over hr, ite_self]
  rw [work_eq hk, hstep, ← hki, List.set_getElem_self]

omit [FileStore ω] in
theorem report_leftover (hx : x.IsOver) (hi : i < x.workers.length) :
    (o.withPast x).report i = o.withPast x := by
  obtain ⟨k, -, hk, -, hrep⟩ := of_workers_withPast (o := o) hx hi
  rcases (o.withPast x).report_cases i with hr | ⟨v, c, hv, -, hnot, -⟩
  · exact hr
  · cases hk.symm.trans hv
    cases hrep.symm.trans hnot

omit [FileStore ω] in
theorem set_driver_leftover {d d' : Driver} (hi : i < x.drivers.length)
    (hd : (o.withPast x).drivers[i]? = some d) (hgen : d'.generation = d.generation) :
    ∃ x', x.Later x' ∧
      { o.withPast x with drivers := (o.withPast x).drivers.set i d' } = o.withPast x' := by
  rw [drivers_withPast, List.getElem?_append_left hi] at hd
  refine ⟨_, Past.later_set_driver hd hgen, ?_⟩
  rw [drivers_withPast, List.set_append_left _ _ hi]
  rfl

omit [FileStore ω] in
theorem receive_leftover (hi : i < x.drivers.length) :
    ∃ x', x.Later x' ∧ (o.withPast x).receive i = o.withPast x' := by
  rcases (o.withPast x).receive_cases i with hr | ⟨d, c, queue, hd, -, -, -, hr⟩ | ⟨d, hd, -, hr⟩
  · exact ⟨x, .refl x, hr⟩
  · rw [hr]
    exact set_driver_leftover hi hd rfl
  · rw [hr]
    exact set_driver_leftover hi hd rfl

/-- A driver of the past holds nothing of the current run. -/
theorem act_leftover (hx : x.IsOver) (h : o.Numbered) (hi : i < x.drivers.length) :
    ∃ x', x.Later x' ∧ (o.withPast x).act i = o.withPast x' := by
  have hd : (o.withPast x).drivers[i]? = some x.drivers[i] := by
    rw [drivers_withPast, List.getElem?_append_left hi, List.getElem?_eq_getElem hi]
  cases hc : x.drivers[i].inHand with
  | none =>
    exact ⟨x, .refl x, act_of_empty (by rw [hd]; exact hc)⟩
  | some c =>
    have hstale : (o.withPast x).isCurrent x.drivers[i] c = false := by
      have hle := hx.drivers _ (List.getElem_mem hi)
      rw [Bool.eq_false_iff]
      intro hcur
      have hcur' : (o.running && x.drivers[i].generation == x.generation + o.generation &&
        c.generation == x.generation + o.generation) = true := hcur
      rw [Bool.and_eq_true, Bool.and_eq_true, beq_iff_eq] at hcur'
      have hpos := h.running hcur'.1.1
      omega
    rw [act_of_stale hd hc hstale]
    exact set_driver_leftover hi hd rfl

/-- **A step of the past changes nothing but the past's drivers.** -/
theorem next?_leftover (hx : x.IsOver) (h : o.Numbered) (hs : s.withoutPast? x = none)
    (ho : (o.withPast x).next? s = some o') : ∃ x', x.Later x' ∧ o' = o.withPast x' := by
  have early : ∀ {n k : Nat} {s : Step ω}, (if k < n then none else some s) = none → k < n := by
    intro n k s h
    by_contra hn
    rw [if_neg hn] at h
    cases h
  cases s with
  | work k s =>
    cases ho
    exact ⟨x, .refl x, work_leftover hx (early hs) s⟩
  | report k =>
    cases ho
    exact ⟨x, .refl x, report_leftover hx (early hs)⟩
  | receive d =>
    cases ho
    exact receive_leftover (early hs)
  | act d =>
    have hfree := (Option.ite_none_right_eq_some.1 ho).2
    cases hfree
    exact act_leftover hx h (early hs)
  | _ => cases hs

end Leftovers

/-! ## Histories -/

def Transition.withPast (x : Past) (t : Transition ω) : Transition ω :=
  ⟨t.before.withPast x, t.step.withPast x, t.after.withPast x⟩

section Histories

variable [FileStore ω] {o o' : Orchestrator ω} {x x' : Past} {ts : List (Transition ω)}

theorem Numbered.history (h : o.Numbered) (hinv : o.Inv) (ht : History o ts o') : o'.Numbered := by
  induction ht with
  | nil => exact h
  | snoc ht hs ih => exact ih.next ((hinv.history ht).next hs).2

theorem History.withPast (hx : x.IsOver) (hinv : o.Inv) (h : o.Numbered) (ht : History o ts o') :
    History (o.withPast x) (ts.map (Transition.withPast x)) (o'.withPast x) := by
  induction ht with
  | nil => exact .nil
  | @snoc ts m o' s ht hs ih =>
    rw [List.map_append]
    refine ih.snoc ?_
    rw [next?_withPast hx (h.history hinv ht), hs]
    rfl

omit [FileStore ω] in
theorem Step.withoutPast?_of_later (h : x.Later x') (s : Step ω) :
    s.withoutPast? x' = s.withoutPast? x := by
  have hworkers := h.workers
  have hdrivers := congrArg List.length h.drivers
  rw [List.length_map, List.length_map] at hdrivers
  unfold Step.withoutPast?
  rw [hworkers, hdrivers]

/-- **What happens behind a past happens to a new orchestrator too**, apart from the steps of the
past, which change its drivers only. -/
theorem History.of_withPast {m : Orchestrator ω} (hx : x.IsOver) (hinv : o.Inv) (h : o.Numbered)
    (ht : History (o.withPast x) ts m) :
    ∃ us o' x', History o us o' ∧ x.Later x' ∧ m = o'.withPast x' ∧
      us.map Transition.step = (ts.map Transition.step).filterMap (Step.withoutPast? x) := by
  induction ht with
  | nil => exact ⟨[], o, x, .nil, .refl x, rfl, rfl⟩
  | @snoc ts m m' s _ hs ih =>
    obtain ⟨us, o', x', hus, hl, rfl, hsteps⟩ := ih
    have hx' := hl.isOver hx
    have h' := h.history hinv hus
    rw [List.map_append, List.filterMap_append, ← hsteps, List.map_singleton]
    cases hout : s.withoutPast? x with
    | none =>
      obtain ⟨x'', hl', rfl⟩ := next?_leftover hx' h' ((s.withoutPast?_of_later hl).trans hout) hs
      refine ⟨us, o', x'', hus, hl.trans hl', rfl, ?_⟩
      rw [List.filterMap_cons_none hout, List.filterMap_nil, List.append_nil]
    | some s' =>
      rw [Step.eq_withPast ((s.withoutPast?_of_later hl).trans hout), next?_withPast hx' h'] at hs
      obtain ⟨o'', ho'', rfl⟩ := Option.map_eq_some_iff.1 hs
      refine ⟨us ++ [⟨o', s', o''⟩], o'', x', hus.snoc ho'', hl, rfl, ?_⟩
      rw [List.map_append, List.filterMap_cons_some hout, List.filterMap_nil]
      rfl

end Histories

/-! ## Renewal -/

/-- The state behaves as the new orchestrator for the same pipeline and files does, apart from the
count of runs and from what is left of earlier ones. -/
structure Renewed [FileStore ω] (o : Orchestrator ω) : Prop where
  /-- A start gives the same answer and leads to the same state. -/
  start : o.start = (o.anew.start.1, o.anew.start.2.withPast o.past)
  /-- What can happen to the new one can happen to this one. -/
  follows : ∀ us f, History o.anew us f →
    History o (us.map (Transition.withPast o.past)) (f.withPast o.past)
  /-- Nothing else can happen, but for steps of old workers and drivers, which nobody notices. -/
  only : ∀ ts m, History o ts m → ∃ us f x, History o.anew us f ∧ o.past.Later x ∧
    us.map Transition.step = (ts.map Transition.step).filterMap (Step.withoutPast? o.past) ∧
    m = f.withPast x ∧ m.finalOutcome? = f.finalOutcome? ∧ m.start.1 = f.start.1

section Idle

variable {o : Orchestrator ω}

theorem Inv.isOver_past (h : o.Inv) (hi : o.Idle) : o.past.IsOver := by
  have hdone := h.done
  rw [hi.settled] at hdone
  exact ⟨fun k hk => (h.fits k hk).ended (hdone k hk), hdone, h.driverBound⟩

theorem ofPipeline_anew (hv : o.pipeline.isValid = true) :
    ofPipeline o.pipeline o.settings o.world = .ok o.anew :=
  ofPipeline_of_isValid hv o.settings o.world

/-- **An idle state without outcomes behaves as a new orchestrator.** -/
theorem Inv.renewed [FileStore ω] (h : o.Inv) (hi : o.Idle) (hnone : o.outcomes = []) :
    o.Renewed := by
  have hx := h.isOver_past hi
  have hinv := inv_of_ofPipeline (ofPipeline_anew h.valid)
  have hn := o.numbered_anew
  have heq := hi.withPast_past hnone
  refine ⟨?_, fun us f hus => ?_, fun ts m ht => ?_⟩
  · rw [← start_withPast, heq]
  · have hm := hus.withPast hx hinv hn
    rwa [heq] at hm
  · rw [← heq] at ht
    obtain ⟨us, f, x, hus, hl, rfl, hsteps⟩ := ht.of_withPast hx hinv hn
    exact ⟨us, f, x, hus, hl, hsteps, rfl, rfl, by rw [start_withPast]⟩

end Idle

end Orchestrator

end Relay
