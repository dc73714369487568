import Relay.Proofs.Orchestrator.Consistency
import Relay.Proofs.Task.Verdict

/-!
# What steps do to tasks and files

`Deed` lists what a step can do to the tasks and to the world: nothing, or a signal reaches the task
at work, programs change files, a stage is launched, or a redirect target of the next stage cannot
be opened.  `Inv.deed` says that every step does one of these; what becomes of tasks and of files is
studied through it and looks at no function of the orchestrator again.

The journal of a worker collects what happened to it during a history (`journal`), and it tells the
state of the worker's task (`Inv.traced`).
-/

namespace Relay

variable {ω : Type} [FileStore ω]

/-! ## Tasks with their journals -/

namespace Task

/-- The journal tells everything that has happened to the task, which was new before. -/
def Traced (log : List Notice) (t : Task) : Prop :=
  ∃ t₀ : Task, t₀.IsNew ∧ t₀.argv ≠ [] ∧ t.call = t₀.call ∧ Told t₀ log t

omit [FileStore ω] in
theorem IsNew.traced {t : Task} (new : t.IsNew) (hargv : t.argv ≠ []) : Traced [] t :=
  ⟨t, new, hargv, rfl, .ready rfl rfl⟩

theorem Traced.step {t : Task} {log : List Notice} (h : Traced log t) (w : ω) (s : Signal) :
    Traced (log ++ t.notices w s) (t.step w s).1 := by
  obtain ⟨t₀, new, hargv, hcall, ht⟩ := h
  exact ⟨t₀, new, hargv, (t.call_step w s).trans hcall, ht.step new hargv hcall w s⟩

/-- A task that is over keeps in memory the lines that its sinks accepted. -/
theorem Traced.lines {t : Task} {log : List Notice} (h : Traced log t) {r : Outcome}
    (hr : t.outcome? = some r) (s : Stream) :
    r.lines s = if (t.drain s).sink.target? = none then Drain.accepted (output s log) else [] := by
  obtain ⟨t₀, new, hargv, hcall, ht⟩ := h
  rcases ht.outcome?_cases new with ⟨hnone, -⟩ | ⟨r', hr', judged⟩
  · rw [hr] at hnone
    cases hnone
  · obtain rfl : r' = r := Option.some.inj (hr'.symm.trans hr)
    rw [judged.lines, target?_of_call_eq hcall]

end Task

namespace Orchestrator

/-- The tasks of all workers, in the order of their launch. -/
def tasks (o : Orchestrator ω) : List Task := o.workers.map Worker.task

omit [FileStore ω] in
theorem getElem?_tasks {o : Orchestrator ω} {i : Nat} {t : Task} :
    o.tasks[i]? = some t ↔ ∃ k, o.workers[i]? = some k ∧ k.task = t := by
  unfold tasks
  rw [List.getElem?_map, Option.map_eq_some_iff]

omit [FileStore ω] in
theorem tasks_concat {o : Orchestrator ω} {ks : List Worker} {k : Worker}
    (h : o.workers = ks ++ [k]) : o.tasks = ks.map Worker.task ++ [k.task] := by
  unfold tasks
  rw [h, List.map_append, List.map_singleton]

def Transition.notices (t : Transition ω) (i : Nat) : List Task.Notice :=
  match t.step, t.before.workers[i]? with
  | .work j signal, some k =>
    if j = i ∧ k.admits signal = true then k.task.notices t.before.world signal else []
  | _, _ => []

/-- What happened to a worker during a history. -/
def journal (ts : List (Transition ω)) (i : Nat) : List Task.Notice :=
  ts.flatMap fun t => t.notices i

theorem journal_concat (ts : List (Transition ω)) (t : Transition ω) (i : Nat) :
    journal (ts ++ [t]) i = journal ts i ++ t.notices i := by
  unfold journal
  rw [List.flatMap_append, List.flatMap_singleton]

/-! ## Deeds -/

/-- The stage `i` is the next one: the first of a new run, or that behind the latest task. -/
def IsNext (o o' : Orchestrator ω) (i : Nat) : Prop :=
  o.running = false ∧ o'.generation = o.generation + 1 ∧ i = 0 ∨
    o.running = true ∧ o'.generation = o.generation ∧
      ∃ t, o.tasks.getLast? = some t ∧ i = t.index + 1

/-- No run begins. -/
structure Calm (o o' : Orchestrator ω) : Prop where
  generation : o'.generation = o.generation
  running : o'.running = true → o.running = true

def IsQuiescent (o : Orchestrator ω) : Prop := ∀ t ∈ o.tasks, t.outcome?.isSome = true

/-- What a step does to the tasks and to the world. -/
inductive Deed (o : Orchestrator ω) : Step ω → Orchestrator ω → Prop where
  /-- Nothing. -/
  | rest {s : Step ω} {o' : Orchestrator ω} (calm : o.Calm o') (tasks : o'.tasks = o.tasks)
      (world : o'.world = o.world) (silent : ∀ i, Transition.notices ⟨o, s, o'⟩ i = []) :
      Deed o s o'
  | work {s : Step ω} {o' : Orchestrator ω} {ts : List Task} {t : Task} (signal : Task.Signal)
      (calm : o.Calm o') (before : o.tasks = ts ++ [t]) (undone : t.outcome? = none)
      (after : o'.tasks = ts ++ [(t.step o.world signal).1])
      (world : o'.world = (t.step o.world signal).2)
      (told : ∀ i, Transition.notices ⟨o, s, o'⟩ i =
        if i = ts.length then t.notices o.world signal else []) : Deed o s o'
  /-- Programs change files. -/
  | disturb (world : ω) : Deed o (.disturb world) { o with world }
  | launch {s : Step ω} {o' : Orchestrator ω} {i : Nat} {t : Task} (quiescent : o.IsQuiescent)
      (next : o.IsNext o' i) (stage : i < o.pipeline.stages.length)
      (opened : openSinks o.world o.pipeline i =
        (.ok (t.stdout.sink, t.stderr.sink), o'.world))
      (tasks : o'.tasks = o.tasks ++ [t]) (index : t.index = i) (new : t.IsNew)
      (argv : t.argv ≠ []) (silent : ∀ j, Transition.notices ⟨o, s, o'⟩ j = []) : Deed o s o'
  /-- A redirect target of the next stage cannot be opened. -/
  | refuse {s : Step ω} {o' : Orchestrator ω} {i : Nat} {e : Refusal} (quiescent : o.IsQuiescent)
      (next : o.IsNext o' i) (stage : i < o.pipeline.stages.length)
      (opened : openSinks o.world o.pipeline i = (.error e, o'.world))
      (tasks : o'.tasks = o.tasks) (ended : o'.running = false)
      (silent : ∀ j, Transition.notices ⟨o, s, o'⟩ j = []) : Deed o s o'

/-! ### Steps that leave tasks and files alone -/

section Rest

omit [FileStore ω]

theorem Calm.refl (o : Orchestrator ω) : o.Calm o := ⟨rfl, id⟩

theorem Calm.idle {o o' : Orchestrator ω} (h : o.Calm o') (hrun : o.running = false) :
    o'.running = false := by
  cases hrun' : o'.running with
  | false => rfl
  | true => exact absurd (hrun.symm.trans (h.running hrun')) Bool.false_ne_true

theorem Quiet.calm {o o' : Orchestrator ω} (h : o.Quiet o') : o.Calm o' := by
  refine ⟨h.generation, fun hr => ?_⟩
  rw [← h.running]
  exact hr

theorem tasks_of_modify {ks : List Worker} {i : Nat} {f : Worker → Worker}
    (hf : ∀ k, (f k).task = k.task) : (ks.modify i f).map Worker.task = ks.map Worker.task := by
  induction ks generalizing i with
  | nil => cases i <;> rfl
  | cons k rest ih =>
    cases i with
    | zero => exact congrArg (· :: _) (hf k)
    | succ i => exact congrArg (_ :: ·) ih

theorem tasks_of_set {ks : List Worker} {i : Nat} {k k' : Worker} (hk : ks[i]? = some k)
    (hsame : k'.task = k.task) : (ks.set i k').map Worker.task = ks.map Worker.task := by
  induction ks generalizing i with
  | nil => rfl
  | cons v rest ih =>
    cases i with
    | zero =>
      cases hk
      exact congrArg (· :: _) hsame
    | succ i => exact congrArg (_ :: ·) (ih hk)

theorem tasks_beginStop (o : Orchestrator ω) :
    o.Calm o.beginStop ∧ o.beginStop.tasks = o.tasks ∧ o.beginStop.world = o.world := by
  unfold Orchestrator.beginStop
  split
  · exact ⟨Calm.refl o, rfl, rfl⟩
  · split
    · exact ⟨⟨rfl, nofun⟩, rfl, rfl⟩
    · exact ⟨⟨rfl, id⟩, tasks_of_modify fun _ => rfl, rfl⟩

theorem tasks_report (o : Orchestrator ω) (i : Nat) :
    (o.report i).tasks = o.tasks ∧ (o.report i).world = o.world := by
  rcases o.report_cases i with hr | ⟨v, c, hv, -, -, hr⟩
  · rw [hr]
    exact ⟨rfl, rfl⟩
  · rw [hr]
    exact ⟨tasks_of_set hv rfl, rfl⟩

theorem tasks_receive (o : Orchestrator ω) (i : Nat) :
    (o.receive i).tasks = o.tasks ∧ (o.receive i).world = o.world := by
  rcases o.receive_cases i with h | ⟨e, c, queue, -, -, -, -, h⟩ | ⟨e, -, -, h⟩
  · rw [h]
    exact ⟨rfl, rfl⟩
  · rw [h]
    exact ⟨rfl, rfl⟩
  · rw [h]
    exact ⟨rfl, rfl⟩

theorem AtWork.tasks_endStop? {o o' : Orchestrator ω} {ks : List Worker} {k : Worker}
    {ds : List Driver} {d : Driver} (hw : o.AtWork ks k ds d) (h : o.endStop? = some o') :
    o.Calm o' ∧ o'.tasks = o.tasks ∧ o'.world = o.world := by
  obtain ⟨r, -, -, rfl⟩ := endStop?_of_atWork hw h
  refine ⟨⟨rfl, nofun⟩, ?_, rfl⟩
  rw [tasks_concat hw.workers]
  exact List.map_append

end Rest

/-! ### Every step -/

omit [FileStore ω] in
theorem IsQuiescent.outcome?_ne_none {o : Orchestrator ω} (h : o.IsQuiescent) {t : Task}
    (ht : t ∈ o.tasks) : t.outcome? ≠ none := by
  intro hr
  have hover := h t ht
  rw [hr] at hover
  cases hover

omit [FileStore ω] in
theorem Inv.over_of_settled {o : Orchestrator ω} (h : o.Inv) {k : Worker} (hk : k ∈ o.settled) :
    k.task.outcome?.isSome = true := by
  obtain ⟨r, hr⟩ := (h.fits k (mem_workers_of_settled hk)).ended (h.done k hk)
  rw [hr]
  rfl

omit [FileStore ω] in
theorem Inv.isQuiescent_of_idle {o : Orchestrator ω} (h : o.Inv) (hrun : o.running = false) :
    o.IsQuiescent := by
  intro t ht
  obtain ⟨k, hk, rfl⟩ := List.mem_map.1 ht
  refine h.over_of_settled ?_
  rwa [(h.idle hrun).settled]

omit [FileStore ω] in
theorem AtWork.isQuiescent {o : Orchestrator ω} {ks : List Worker} {k : Worker} {ds : List Driver}
    {d : Driver} (hw : o.AtWork ks k ds d) (h : o.Inv) {r : Outcome}
    (hr : k.task.outcome? = some r) : o.IsQuiescent := by
  intro t ht
  obtain ⟨v, hv, rfl⟩ := List.mem_map.1 ht
  rw [hw.workers] at hv
  rcases List.mem_append.1 hv with hv | hv
  · refine h.over_of_settled ?_
    rwa [hw.settled]
  · rw [List.mem_singleton.1 hv, hr]
    rfl

omit [FileStore ω] in
/-- A task that is not over is that of the worker at work. -/
theorem Inv.of_undone {o : Orchestrator ω} (h : o.Inv) {i : Nat} {v : Worker}
    (hv : o.workers[i]? = some v) (hr : v.task.outcome? = none) :
    ∃ ks, o.workers = ks ++ [v] ∧ i = ks.length := by
  have hnot : ∀ k ∈ o.settled, k ≠ v := by
    rintro k hk rfl
    have hover := h.over_of_settled hk
    rw [hr] at hover
    cases hover
  rcases h.phase with hi | ⟨ks, k, ds, d, hw⟩
  · rw [hi.settled] at hnot
    exact absurd rfl (hnot v (List.mem_of_getElem? hv))
  · rw [hw.settled] at hnot
    rw [hw.workers] at hv
    rcases of_getElem?_concat hv with ⟨-, hv'⟩ | ⟨hi, rfl⟩
    · exact absurd rfl (hnot v (List.mem_of_getElem? hv'))
    · exact ⟨ks, hw.workers, hi⟩

theorem openSink_memory {w w' : ω} {target : Option Text} {mode : OpenMode} {lines : Array Text}
    (h : openSink w target mode = .ok (.memory lines, w')) : lines = #[] := by
  unfold openSink at h
  cases target with
  | none =>
    cases h
    rfl
  | some path =>
    have ht := Sink.target?_of_openTarget h
    cases ht

theorem isNew_stageTask {w w' : ω} {p : Pipeline} {i : Nat} {out err : Sink}
    (hopen : openSinks w p i = (.ok (out, err), w')) (o : Orchestrator ω) (stage : Stage) :
    (o.stageTask stage out err).IsNew := by
  unfold openSinks at hopen
  split at hopen
  · cases hopen
  · rename_i herr
    split at hopen
    · cases hopen
    · rename_i hout
      cases hopen
      refine ⟨rfl, rfl, fun s => ?_⟩
      cases s with
      | stdout =>
        refine ⟨rfl, rfl, fun lines hl => ?_⟩
        obtain rfl : out = .memory lines := hl
        exact openSink_memory hout
      | stderr =>
        refine ⟨rfl, rfl, fun lines hl => ?_⟩
        obtain rfl : err = .memory lines := hl
        exact openSink_memory herr

omit [FileStore ω] in
/-- Every stage of a valid pipeline names a program. -/
theorem Inv.argv_ne_nil {o : Orchestrator ω} (h : o.Inv) {i : Nat} {stage : Stage}
    (hs : o.pipeline.stages[i]? = some stage) : stage.argv ≠ [] :=
  ((Pipeline.isValid_iff _).1 h.valid).2.1 stage (List.mem_of_getElem? hs)

omit [FileStore ω] in
theorem tasks_launched (o : Orchestrator ω) (stage : Stage) (out err : Sink) (world : ω) :
    (o.launched stage out err world).tasks = o.tasks ++ [o.stageTask stage out err] :=
  List.map_append

theorem Inv.deed_start {o : Orchestrator ω} (h : o.Inv) : o.Deed .start o.start.2 := by
  cases hrun : o.running with
  | true =>
    rw [start_of_running hrun]
    exact .rest (Calm.refl o) rfl rfl fun _ => rfl
  | false =>
    have hover := h.isQuiescent_of_idle hrun
    rw [start_eq hrun]
    rcases launchNext_cases (o := o.begun) rfl rfl with
      ⟨hlast, -⟩ | ⟨stage, e, world, hstage, hopen, hl⟩ |
      ⟨stage, out, err, world, hstage, hopen, hl⟩
    · have hne := ((Pipeline.isValid_iff _).1 h.valid).1
      exact absurd (List.length_eq_zero_iff.1 (Nat.le_zero.1 hlast)) hne
    · rw [hl]
      exact .refuse hover (.inl ⟨hrun, rfl, rfl⟩) (List.getElem?_eq_some_iff.1 hstage).1 hopen rfl
        rfl fun _ => rfl
    · rw [hl]
      exact .launch (t := o.begun.stageTask stage out err) hover (.inl ⟨hrun, rfl, rfl⟩)
        (List.getElem?_eq_some_iff.1 hstage).1 hopen
        (tasks_launched o.begun stage out err world) rfl (isNew_stageTask hopen _ _)
        (h.argv_ne_nil hstage) fun _ => rfl

/-- A signal tells of the worker at work only. -/
theorem notices_work {o : Orchestrator ω} {ks : List Worker} {k : Worker} {signal : Task.Signal}
    (hw : o.workers = ks ++ [k]) (ha : k.admits signal = true) (o' : Orchestrator ω) (i : Nat) :
    Transition.notices ⟨o, .work ks.length signal, o'⟩ i =
      if i = ks.length then k.task.notices o.world signal else [] := by
  by_cases hi : i = ks.length
  · subst hi
    have hk : o.workers[ks.length]? = some k := by rw [hw, List.getElem?_concat_length]
    simp [Transition.notices, hk, ha]
  · rw [if_neg hi]
    unfold Transition.notices
    split
    · rename_i heq _
      cases heq
      exact if_neg fun hj => hi hj.1.symm
    · rfl

theorem Inv.deed_work {o : Orchestrator ω} (h : o.Inv) (i : Nat) (signal : Task.Signal) :
    o.Deed (.work i signal) (o.work i signal) := by
  -- the signal tells something only if it reaches a task that is not over
  have silent : (∀ v, o.workers[i]? = some v → v.admits signal = true →
      v.task.notices o.world signal = []) →
      ∀ j, Transition.notices ⟨o, .work i signal, o.work i signal⟩ j = [] := by
    intro hnone j
    unfold Transition.notices
    split
    · rename_i heq hk
      cases heq
      split
      · rename_i hj
        rw [← hj.1] at hk
        exact hnone _ hk hj.2
      · rfl
    · rfl
  cases hv : o.workers[i]? with
  | none =>
    have hquiet := silent fun v hv' => by
      rw [hv] at hv'
      cases hv'
    rw [work_eq_self hv] at hquiet ⊢
    exact .rest (Calm.refl o) rfl rfl hquiet
  | some v =>
    have rest (hsame : v.step o.world signal = (v, o.world))
        (hnone : v.admits signal = true → v.task.notices o.world signal = []) :
        o.Deed (.work i signal) (o.work i signal) := by
      have hquiet := silent fun v' hv' ha => by
        obtain rfl : v = v' := Option.some.inj (hv.symm.trans hv')
        exact hnone ha
      have hwork := work_eq hv signal
      rw [hsame] at hwork
      rw [hwork] at hquiet ⊢
      exact .rest ⟨rfl, id⟩ (tasks_of_set hv rfl) rfl hquiet
    by_cases ha : v.admits signal = true
    · cases hr : v.task.outcome? with
      | some r =>
        refine rest ?_ fun _ => Task.notices_of_over hr _ _
        unfold Worker.step
        rw [if_pos ha, Task.step_of_over hr]
      | none =>
        obtain ⟨ks, hks, rfl⟩ := h.of_undone hv hr
        have hstep : v.step o.world signal =
            ({ v with task := (v.task.step o.world signal).1 },
              (v.task.step o.world signal).2) := by
          unfold Worker.step
          rw [if_pos ha]
        have hwork := work_eq hv signal
        rw [hstep, hks, set_length_concat] at hwork
        refine .work signal (o.quiet_work _ _).calm (tasks_concat hks) hr ?_ ?_ fun i => ?_
        · rw [hwork]
          exact List.map_append
        · rw [hwork]
        · rw [List.length_map]
          exact notices_work hks ha _ i
    · refine rest ?_ fun ha' => absurd ha' ha
      unfold Worker.step
      rw [if_neg ha]

theorem Inv.deed_act {o : Orchestrator ω} (h : o.Inv) (i : Nat) : o.Deed (.act i) (o.act i) := by
  rcases o.act_cases i with ⟨-, hs⟩ | ⟨e, c, he, hc, ⟨-, hs⟩ | ⟨hcur, hs⟩⟩
  · rw [hs]
    exact .rest (Calm.refl o) rfl rfl fun _ => rfl
  · rw [hs]
    exact .rest ⟨rfl, id⟩ rfl rfl fun _ => rfl
  · have hrun := running_of_isCurrent hcur
    obtain ⟨ks, k, ds, d, hw⟩ := h.atWork hrun
    obtain ⟨rfl, rfl⟩ := hw.of_isCurrent he hcur
    obtain ⟨-, hr, -, -⟩ := hw.of_inHand hc
    have hover := hw.isQuiescent h hr
    have hnext : ∀ {o' : Orchestrator ω}, o'.generation = o.generation →
        o.IsNext o' o.cursor := by
      intro o' hg
      refine .inr ⟨hrun, hg, k.task, ?_, ?_⟩
      · rw [tasks_concat hw.workers, List.getLast?_concat]
      · rw [hw.index, hw.cursor]
    rw [hs, advance_eq]
    rcases launchNext_cases (o := o.record c.outcome) hrun hw.completions with
      ⟨-, hl⟩ | ⟨stage, x, world, hstage, hopen, hl⟩ |
      ⟨stage, out, err, world, hstage, hopen, hl⟩
    · rw [hl]
      exact .rest ⟨rfl, nofun⟩ rfl rfl fun _ => rfl
    · rw [hl]
      exact .refuse hover (hnext rfl) (List.getElem?_eq_some_iff.1 hstage).1 hopen rfl rfl
        fun _ => rfl
    · rw [hl]
      exact .launch (t := (o.record c.outcome).stageTask stage out err) hover (hnext rfl)
        (List.getElem?_eq_some_iff.1 hstage).1 hopen
        (tasks_launched (o.record c.outcome) stage out err world) rfl
        (isNew_stageTask hopen _ _) (h.argv_ne_nil hstage) fun _ => rfl

/-- **Every step does one of these deeds.** -/
theorem Inv.deed {o o' : Orchestrator ω} {s : Step ω} (h : o.Inv) (hs : o.next? s = some o') :
    o.Deed s o' := by
  unfold next? nextBy? at hs
  split at hs
  · split at hs
    · cases hs
      exact h.deed_start
    · cases hs
  · split at hs
    · cases hs
      obtain ⟨hc, ht, hw⟩ := o.tasks_beginStop
      exact .rest hc ht hw fun _ => rfl
    · cases hs
  · rcases h.phase with hi | ⟨ks, k, ds, d, hat⟩
    · unfold endStop? at hs
      rw [hi.stopping] at hs
      cases hs
    · obtain ⟨hc, ht, hw⟩ := hat.tasks_endStop? hs
      exact .rest hc ht hw fun _ => rfl
  · cases hs
    exact h.deed_work _ _
  · cases hs
    obtain ⟨ht, hw⟩ := o.tasks_report _
    exact .rest (o.quiet_report _).calm ht hw fun _ => rfl
  · cases hs
    obtain ⟨ht, hw⟩ := o.tasks_receive _
    exact .rest (o.quiet_receive _).calm ht hw fun _ => rfl
  · split at hs
    · cases hs
      exact h.deed_act _
    · cases hs
  · cases hs
    exact .disturb _

/-! ## Journals of workers -/

/-- What a history tells of the workers from number `n` on. -/
structure Traces (ts : List (Transition ω)) (n : Nat) (o : Orchestrator ω) : Prop where
  traced : ∀ i t, n ≤ i → o.tasks[i]? = some t → Task.Traced (journal ts i) t
  /-- Of workers to come nothing is told. -/
  ahead : ∀ i, o.tasks.length ≤ i → journal ts i = []

theorem Traces.silent {ts : List (Transition ω)} {n : Nat} {o o' : Orchestrator ω} {s : Step ω}
    (h : Traces ts n o) (ht : o'.tasks = o.tasks)
    (hs : ∀ i, Transition.notices ⟨o, s, o'⟩ i = []) : Traces (ts ++ [⟨o, s, o'⟩]) n o' := by
  have hsame : ∀ i, journal (ts ++ [⟨o, s, o'⟩]) i = journal ts i := by
    intro i
    rw [journal_concat, hs, List.append_nil]
  refine ⟨fun i t hi hti => ?_, fun i hi => ?_⟩
  · rw [hsame]
    rw [ht] at hti
    exact h.traced i t hi hti
  · rw [hsame]
    rw [ht] at hi
    exact h.ahead i hi

theorem Traces.concat {ts : List (Transition ω)} {n : Nat} {o o' : Orchestrator ω} {s : Step ω}
    (h : Traces ts n o) (hd : o.Deed s o') : Traces (ts ++ [⟨o, s, o'⟩]) n o' := by
  cases hd with
  | rest _ ht _ hs => exact h.silent ht hs
  | disturb => exact h.silent rfl fun _ => rfl
  | refuse _ _ _ _ ht _ hs => exact h.silent ht hs
  | @work _ _ pre t signal _ hbefore _ hafter _ htold =>
    refine ⟨fun i t' hi hti => ?_, fun i hi => ?_⟩
    · rw [journal_concat, htold]
      rw [hafter] at hti
      rcases of_getElem?_concat hti with ⟨hlt, hti⟩ | ⟨rfl, rfl⟩
      · rw [if_neg (Nat.ne_of_lt hlt), List.append_nil]
        refine h.traced i t' hi ?_
        rw [hbefore, List.getElem?_append_left hlt]
        exact hti
      · have hlast : o.tasks[pre.length]? = some t := by
          rw [hbefore, List.getElem?_concat_length]
        rw [if_pos rfl]
        exact (h.traced _ _ hi hlast).step o.world signal
    · rw [hafter, List.length_append, List.length_singleton] at hi
      have hne : i ≠ pre.length := by omega
      rw [journal_concat, htold, if_neg hne, List.append_nil]
      refine h.ahead i ?_
      rw [hbefore, List.length_append, List.length_singleton]
      exact hi
  | launch _ _ _ _ ht _ new hargv hs =>
    have hsame : ∀ i, journal (ts ++ [⟨o, s, o'⟩]) i = journal ts i := by
      intro i
      rw [journal_concat, hs, List.append_nil]
    refine ⟨fun i t hi hti => ?_, fun i hi => ?_⟩
    · rw [hsame]
      rw [ht] at hti
      rcases of_getElem?_concat hti with ⟨-, hti⟩ | ⟨rfl, rfl⟩
      · exact h.traced i t hi hti
      · rw [h.ahead _ (Nat.le_refl _)]
        exact new.traced hargv
    · rw [hsame]
      rw [ht, List.length_append] at hi
      exact h.ahead i (by omega)

/-- The journals of the workers that a history launches tell their states. -/
theorem Inv.traces {o o' : Orchestrator ω} {ts : List (Transition ω)} (h : o.Inv)
    (ht : History o ts o') : Traces ts o.tasks.length o' := by
  induction ht with
  | nil =>
    refine ⟨fun i t hi hti => ?_, fun _ _ => rfl⟩
    rw [List.getElem?_eq_none hi] at hti
    cases hti
  | snoc ht hs ih => exact ih.concat ((h.history ht).deed hs)

theorem traces_of_history {p : Pipeline} {settings : Settings} {world : ω} {o₀ o : Orchestrator ω}
    {ts : List (Transition ω)} (h₀ : ofPipeline p settings world = .ok o₀) (ht : History o₀ ts o) :
    Traces ts 0 o := by
  have htraces := (inv_of_ofPipeline h₀).traces ht
  obtain ⟨-, rfl⟩ := of_ofPipeline h₀
  exact htraces

end Orchestrator

end Relay
