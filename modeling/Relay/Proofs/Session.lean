import Mathlib.Logic.Relation
import Relay.Proofs.Orchestrator.Course
import Relay.Session

/-!
# Sessions take the steps of an orchestrator

A session runs real programs and takes the steps of an orchestrator in one of many possible orders.
All that it does while somebody waits are steps of the orchestrator, none of them a start or a stop
(`Session.unattended_settle`): what holds of every history then holds of it.

1. Whatever a task's program does reaches the task as signals, none of them a kill, while files
   change (`Task.goesOn_proceed`).
2. Signals of this kind can reach the task's worker at any time (`unattended_of_worksOn`).
3. A session waits by turns: the current task goes on, its worker reports and the driver acts.

Whoever waits without end for a run that was started sees its end (`Session.running_wait`).

1. What a program does is a tree of turns, and each of them comes, whoever else is at work
   (`Scene.fst_await`).  So the program ends, and its task with it (`Task.isOver_follow`).
2. Once the task is over its outcome is recorded, and the run is over or its next stage is about to
   begin (`Session.drive_report`).  Each time around one more stage has an outcome.
-/

namespace Relay

/-! ## Tasks with real programs -/

/-- Whoever waits without end for a turn sees it come, whatever others do. -/
theorem Scene.fst_await (own : Nat) (s : Scene) (a : Aftermath) :
    (s.await .endless (some own) a).1 = true := by
  induction a generalizing s with
  | «over» files => rfl
  | resting files due resume ih =>
    unfold await
    dsimp only
    split
    · rename_i hspent
      cases hspent
    · split
      · rfl
      · exact ih _ _

namespace Task

/-- A signal other than a kill reaches a task, or files change. -/
inductive Works : Task × Host → Task × Host → Prop where
  | signal {t : Task} {h : Host} {s : Signal} (kind : ∀ out err, s ≠ .killed out err) :
    Works (t, h) (t.step h s)
  | disturb {t : Task} {h : Host} (h' : Host) : Works (t, h) (t, h')

/-- A task goes on, perhaps many times. -/
abbrev WorksOn : Task × Host → Task × Host → Prop := Relation.ReflTransGen Works

def GoesOn (t : Task) (s : Scene) (r : Task × Scene) : Prop := WorksOn (t, s.host) (r.1, r.2.host)

variable {t : Task} {h : Host} {s : Scene} {r : Task × Scene}

theorem GoesOn.refl (t : Task) (s : Scene) : t.GoesOn s (t, s) := Relation.ReflTransGen.refl

theorem GoesOn.trans {r' : Task × Scene} (h : t.GoesOn s r) (h' : r.1.GoesOn r.2 r') :
    t.GoesOn s r' :=
  Relation.ReflTransGen.trans h h'

theorem goesOn_other (t : Task) (s s' : Scene) : t.GoesOn s (t, s') :=
  Relation.ReflTransGen.single (.disturb s'.host)

theorem worksOn_steps {signals : List Signal}
    (kind : ∀ s ∈ signals, ∀ out err, s ≠ .killed out err) :
    WorksOn (t, h) (t.steps h signals) := by
  induction signals generalizing t h with
  | nil => exact .refl
  | cons s signals ih =>
    obtain ⟨hs, hrest⟩ := List.forall_mem_cons.1 kind
    exact .head (.signal hs) (ih hrest)

theorem worksOn_observe (t : Task) (h : Host) (a : Stretch) : WorksOn (t, h) (t.observe h a) := by
  refine .head (.disturb { h with files := a.files }) (worksOn_steps ?_)
  unfold signalsOf
  split <;> split <;> simp

theorem goesOn_follow (p : Patience) (t : Task) (s : Scene) (e : Execution) :
    t.GoesOn s (t.follow p s e) := by
  induction e generalizing t s with
  | ended a ending aftermath =>
    have hended : WorksOn (t.observe s.host a)
        ((t.observe s.host a).1.steps (t.observe s.host a).2 (endSignals ending)) :=
      worksOn_steps (by simp [endSignals])
    exact (t.worksOn_observe s.host a).trans hended
  | resting a due resume kill ih =>
    have hobserve := t.worksOn_observe s.host a
    unfold follow
    dsimp only
    split
    · rename_i s' _
      exact (hobserve.tail (.disturb s'.host)).trans (ih s'.host.files _ s')
    · rename_i s' _
      exact hobserve.tail (.disturb s'.host)

theorem worksOn_launch (settings : Settings) (t : Task) (h : Host) :
    WorksOn (t, h) (t.launch settings h).2 := by
  unfold launch
  split
  · exact .single (.signal nofun)
  · exact .single (.signal nofun)

/-- However long somebody waits, the task only goes on. -/
theorem goesOn_proceed (settings : Settings) (p : Patience) (t : Task) (s : Scene) :
    t.GoesOn s (t.proceed settings p s) := by
  unfold proceed
  split
  · split
    · exact goesOn_other t s _
    · -- the program is launched
      rename_i s' _
      have hlaunch : WorksOn (t, s.host) (t.launch settings s'.host).2 :=
        .head (.disturb s'.host) (t.worksOn_launch settings s'.host)
      split
      · rename_i heq
        rw [heq] at hlaunch
        exact hlaunch
      · rename_i program t' host heq
        rw [heq] at hlaunch
        exact hlaunch.trans (t'.goesOn_follow p { s' with host } program)
  · split
    · exact goesOn_other t s _
    · rename_i s' _
      exact (goesOn_other t s s').trans (t.goesOn_follow p s' _)
  · exact GoesOn.refl t s

/-! ### Waiting without end -/

theorem isOver_endSignals (h : t.hasProgram = true) (host : Host) (ending : Ending) :
    (t.steps host (endSignals ending)).1.isOver = true := by
  obtain ⟨index, argv, input, fed, ⟨outSink, outRest, out⟩, ⟨errSink, errRest, err⟩, phase⟩ := t
  cases phase with
  | ready => cases h
  | «over» => cases h
  | transferring =>
    -- the activities that had not ended before end now
    cases fed <;> cases out <;> cases err <;> rfl
  | _ => rfl

theorem hasProgram_observe (h : t.hasProgram = true) (host : Host) (a : Stretch) :
    (t.observe host a).1.hasProgram = true := by
  refine hasProgram_steps h _ ?_
  unfold signalsOf
  split <;> split <;> simp

/-- **Every program ends, and its task with it**, if it is followed without end. -/
theorem isOver_follow (h : t.hasProgram = true) (s : Scene) (e : Execution) :
    (t.follow .endless s e).1.isOver = true := by
  induction e generalizing t s with
  | ended a ending aftermath => exact isOver_endSignals (hasProgram_observe h s.host a) _ ending
  | resting a due resume kill ih =>
    have hobserve := hasProgram_observe h s.host a
    unfold follow
    dsimp only
    split
    · exact ih _ hobserve _
    · -- the next turn does come
      rename_i hnone
      cases (Scene.fst_await _ _ _).symm.trans (congrArg Prod.fst hnone)

/-- A task whose program could not be started is over, and otherwise the program is at work. -/
theorem launch_cases (settings : Settings) (h : t.phase = .ready) (host : Host) :
    (t.launch settings host).1 = none ∧ (t.launch settings host).2.1.isOver = true ∨
      ∃ program, (t.launch settings host).1 = some program ∧
        (t.launch settings host).2.1.hasProgram = true := by
  obtain ⟨index, argv, input, fed, stdout, stderr, phase⟩ := t
  cases h
  unfold launch
  cases argv with
  | nil =>
    split
    · exact .inl ⟨rfl, rfl⟩
    · exact .inl ⟨rfl, rfl⟩
  | cons program args =>
    split
    · exact .inl ⟨rfl, rfl⟩
    · exact .inr ⟨_, rfl, rfl⟩

/-- Whoever waits without end for a new task sees it over. -/
theorem isOver_proceed (settings : Settings) (h : t.phase = .ready)
    (hstanding : s.standing = .unstarted) : (t.proceed settings .endless s).1.isOver = true := by
  unfold proceed
  rw [hstanding]
  dsimp only
  split
  · rename_i hnone
    cases (Scene.fst_await _ _ _).symm.trans (congrArg Prod.fst hnone)
  · rename_i s' _
    rcases launch_cases settings h s'.host with ⟨hnone, hover⟩ | ⟨program, hsome, hprogram⟩
    · split
      · rename_i heq
        rw [heq] at hover
        exact hover
      · rename_i heq
        rw [heq] at hnone
        cases hnone
    · split
      · rename_i heq
        rw [heq] at hsome
        cases hsome
      · rename_i heq
        rw [heq] at hprogram
        exact isOver_follow hprogram _ _

end Task

/-! ## Workers with real programs -/

namespace Orchestrator

/-- One state comes of another, and nothing was started or stopped in between. -/
def Unattended (o o' : Orchestrator Host) : Prop := ∃ ts, History o ts o' ∧ LeftAlone ts

variable {o m o' : Orchestrator Host} {k : Nat}

theorem Unattended.refl (o : Orchestrator Host) : o.Unattended o :=
  ⟨[], .nil, fun _ ht => absurd ht List.not_mem_nil⟩

theorem Unattended.trans (h : o.Unattended m) (h' : m.Unattended o') : o.Unattended o' := by
  obtain ⟨ts, ht, hl⟩ := h
  obtain ⟨us, hu, hl'⟩ := h'
  exact ⟨ts ++ us, ht.trans hu, hl.append hl'⟩

theorem unattended_of_next {s : Step Host} (hs : o.next? s = some o') (hstart : s ≠ .start)
    (hstop : s ≠ .beginStop) : o.Unattended o' :=
  ⟨_, .snoc .nil hs, List.forall_mem_singleton.2 ⟨hstart, hstop⟩⟩

theorem unattended_of_isOwn {s : Step Host} (hs : o.next? s = some o') (hown : s.isOwn = true) :
    o.Unattended o' := by
  refine unattended_of_next hs ?_ ?_
  · rintro rfl
    cases hown
  · rintro rfl
    cases hown

theorem Unattended.stopping (h : o.Unattended o') (hno : o.stopping = none) :
    o'.stopping = none := by
  obtain ⟨ts, ht, hl⟩ := h
  exact stopping_of_leftAlone ht hl hno

theorem Unattended.inv (h : o.Unattended o') (hinv : o.Inv) : o'.Inv := by
  obtain ⟨ts, ht, -⟩ := h
  exact hinv.history ht

theorem Unattended.pipeline (h : o.Unattended o') (hinv : o.Inv) : o'.pipeline = o.pipeline := by
  obtain ⟨ts, ht, -⟩ := h
  exact (hinv.pipeline_history ht).1

theorem unattended_disturb (o : Orchestrator Host) (world : Host) :
    o.Unattended { o with world } :=
  unattended_of_next (s := .disturb world) rfl nofun nofun

/-- A worker's task goes on. -/
theorem unattended_of_worksOn {worker : Worker} (hk : o.workers[k]? = some worker)
    {r : Task × Host} (hr : Task.WorksOn (worker.task, o.world) r) :
    o.Unattended
      { o with workers := o.workers.set k { worker with task := r.1 }, world := r.2 } := by
  have hlt := (List.getElem?_eq_some_iff.1 hk).1
  induction hr with
  | refl =>
    have hself : o.workers.set k worker = o.workers := by
      obtain ⟨hlt, rfl⟩ := List.getElem?_eq_some_iff.1 hk
      exact List.set_getElem_self hlt
    rw [show ({ worker with task := worker.task } : Worker) = worker from rfl, hself]
    exact Unattended.refl o
  | tail _ hwork ih =>
    refine ih.trans ?_
    cases hwork with
    | disturb h' => exact unattended_disturb _ h'
    | @signal t h s kind =>
      refine unattended_of_isOwn (s := .work k s) ?_ (isOwn_work kind k)
      have hk' : (o.workers.set k { worker with task := t })[k]? =
          some { worker with task := t } :=
        List.getElem?_set_self hlt
      rw [next?, nextBy?, work_eq hk', Worker.step, if_pos (Worker.admits_of_ne_killed kind _),
        List.set_set]

end Orchestrator

/-! ## Sessions -/

namespace Session

/-- The current task goes on. -/
theorem unattended_onTask (s : Session) (k : Nat) (settings : Settings) (p : Patience) :
    s.orchestrator.Unattended (s.onTask k (Task.proceed settings p)).orchestrator := by
  unfold onTask
  split
  · exact Orchestrator.Unattended.refl _
  · rename_i worker hk
    have hgoes := worker.task.goesOn_proceed settings p s.scene
    have hworks := Orchestrator.unattended_of_worksOn hk hgoes
    simp only [Orchestrator.onTask, withScene, onHost, hk]
    exact hworks

/-- The driver of the latest run receives a completion and acts on it. -/
theorem unattended_drive {o : Orchestrator Host} (hno : o.stopping = none) :
    o.Unattended (drive o) := by
  have hreceive : o.Unattended (o.receive (o.drivers.length - 1)) :=
    Orchestrator.unattended_of_isOwn (s := .receive (o.drivers.length - 1)) rfl rfl
  have hfree : (o.receive (o.drivers.length - 1)).isFree = true := by
    rw [Orchestrator.isFree, hreceive.stopping hno]
    rfl
  refine hreceive.trans
    (Orchestrator.unattended_of_isOwn (s := .act (o.drivers.length - 1)) ?_ rfl)
  exact if_pos hfree

/-- Once around: the current task goes on, its worker reports and the driver acts. -/
theorem unattended_round (s : Session) (k : Nat) (settings : Settings) (p : Patience)
    (hno : s.orchestrator.stopping = none) :
    s.orchestrator.Unattended
      (drive ((s.onTask k (Task.proceed settings p)).orchestrator.report k)) := by
  have hreport := (s.unattended_onTask k settings p).trans
    (Orchestrator.unattended_of_isOwn (s := .report k) rfl rfl)
  exact hreport.trans (unattended_drive (hreport.stopping hno))

/-- **Whoever waits starts and stops nothing**: the orchestrator takes steps of its own. -/
theorem unattended_settle (p : Patience) (n : Nat) (s : Session)
    (hno : s.orchestrator.stopping = none) :
    s.orchestrator.Unattended (s.settle p n).orchestrator := by
  induction n generalizing s with
  | zero => exact Orchestrator.Unattended.refl _
  | succ n ih =>
    unfold settle
    split
    · exact Orchestrator.unattended_disturb _ _
    · rename_i k _
      have htask := s.unattended_onTask k s.orchestrator.settings p
      have hround := s.unattended_round k s.orchestrator.settings p hno
      dsimp only
      generalize s.onTask k (Task.proceed s.orchestrator.settings p) = s' at htask hround ⊢
      split
      · have hrest := ih
          { s' with orchestrator := drive (s'.orchestrator.report k), standing := .unstarted }
          (hround.stopping hno)
        exact hround.trans hrest
      · exact htask

end Session

/-! ## Waiting without end -/

namespace Orchestrator

/-- If a run is in progress, the task of its current stage is new. -/
def Poised (o : Orchestrator Host) : Prop :=
  o.running = true → ∃ i k, o.current = some i ∧ o.workers[i]? = some k ∧ k.task.phase = .ready

variable {o o' : Orchestrator Host} {ks : List Worker} {k : Worker} {ds : List Driver} {d : Driver}

theorem poised_launched (o : Orchestrator Host) (stage : Stage) (out err : Sink) (world : Host)
    (ds : List Driver) : Poised { o.launched stage out err world with drivers := ds } := by
  intro _
  exact ⟨o.workers.length, _, rfl, List.getElem?_concat_length, rfl⟩

/-- A step leaves the run as it is, or it ends it or begins the next stage. -/
theorem Move.still_or_poised {s : Step Host} (hm : o.Move s o') :
    o.Still o' ∧ o.launches? s = none ∨ o'.Poised := by
  cases hm with
  | still same launches => exact .inl ⟨same, launches⟩
  | begun => exact .inr (poised_launched _ _ _ _ _ _)
  | advanced => exact .inr (poised_launched _ _ _ _ _ _)
  | _ => exact .inr fun hrun => by cases hrun

/-- A run that has just started is about to launch its first program. -/
theorem Inv.poised_start (h : o.Inv) (hok : o.start.1 = .ok ()) : o.start.2.Poised := by
  rcases h.start.2.still_or_poised with ⟨-, hnone⟩ | hpoised
  · -- only a start during a run launches nothing, and it is refused
    cases hrun : o.running with
    | true =>
      rw [start_of_running hrun] at hok
      cases hok
    | false => simp [launches?, hrun] at hnone
  · exact hpoised

/-- When the run's driver has acted, one more stage has an outcome, and the run is over or about to
launch the next program. -/
theorem AtWork.act (hw : o.AtWork ks k ds d) (h : o.Inv) (hfree : o.isFree = true)
    {c : Completion} (hc : d.inHand = some c) :
    (o.act ds.length).Poised ∧
      (o.act ds.length).outcomes.length = o.outcomes.length + 1 := by
  have hlen : (o.act ds.length).outcomes.length = o.outcomes.length + 1 := by
    rw [hw.outcomes_act hc, List.length_append]
    rfl
  rcases (h.act hfree ds.length).2.still_or_poised with ⟨hsame, -⟩ | hpoised
  · rw [hsame.outcomes] at hlen
    omega
  · exact ⟨hpoised, hlen⟩

end Orchestrator

namespace Session

open Orchestrator

variable {o : Orchestrator Host} {ks : List Worker} {k : Worker} {ds : List Driver} {d : Driver}

/-- Once the worker at work has reported, the run's driver takes the run further. -/
theorem drive_of_atWork (hw : o.AtWork ks k ds d) (h : o.Inv) (hfree : o.isFree = true)
    (hrep : k.reported = true) :
    (drive o).Poised ∧ (drive o).outcomes.length = o.outcomes.length + 1 := by
  have hd : o.drivers[ds.length]? = some d := by
    rw [hw.drivers]
    exact List.getElem?_concat_length
  have hlast : drive o = (o.receive ds.length).act ds.length := by
    unfold drive
    rw [hw.drivers, List.length_append]
    rfl
  rw [hlast]
  cases hin : d.inHand with
  | some c =>
    have hsame : o.receive ds.length = o := by
      unfold Orchestrator.receive
      simp [hd, hin]
    rw [hsame]
    exact hw.act h hfree hin
  | none =>
    -- the completion is in the queue, so the driver receives it first
    obtain ⟨r, hr⟩ := (h.fits k hw.mem).ended hrep
    have hqueue := hw.pending.trans (Worker.sent_of_reported hrep (hw.completion? hr))
    unfold Driver.pending at hqueue
    rw [hin] at hqueue
    have hreceive := hw.receive_eq hin hqueue
    have hquiet := o.quiet_receive ds.length
    have hinv := h.receive ds.length
    obtain ⟨ks', k', ds', d', hw'⟩ := hinv.atWork (hquiet.running.trans hw.running)
    obtain ⟨rfl, hd'⟩ := List.append_inj'
      (hw'.drivers.symm.trans (congrArg Orchestrator.drivers hreceive)) rfl
    have hin' : d'.inHand = some { generation := o.generation, outcome := r } := by
      rw [List.singleton_inj.1 hd']
    have hfree' : (o.receive ds'.length).isFree = true := by
      rw [isFree, hquiet.stopping]
      exact hfree
    rw [← hquiet.outcomes]
    exact hw'.act hinv hfree' hin'

theorem drive_report (hw : o.AtWork ks k ds d) (h : o.Inv) (hfree : o.isFree = true) {r : Outcome}
    (hr : k.task.outcome? = some r) (hnot : k.reported = false) :
    (drive (o.report ks.length)).Poised ∧
      (drive (o.report ks.length)).outcomes.length = o.outcomes.length + 1 := by
  have hquiet := o.quiet_report ks.length
  have hworkers := congrArg Orchestrator.workers (hw.report_eq hr hnot)
  obtain ⟨ds', d', hw'⟩ := (h.report ks.length).atWork_of_workers
    (hquiet.running.trans hw.running) hworkers
  have hfree' : (o.report ks.length).isFree = true := by
    rw [isFree, hquiet.stopping]
    exact hfree
  rw [← hquiet.outcomes]
  exact drive_of_atWork hw' (h.report ks.length) hfree' rfl

/-- The orchestrator after a task has gone on. -/
theorem onTask_eq {s : Session} {i : Nat} (hk : s.orchestrator.workers[i]? = some k)
    (f : Task → Scene → Task × Scene) :
    (s.onTask i f).orchestrator = { s.orchestrator with
      workers := s.orchestrator.workers.set i { k with task := (f k.task s.scene).1 }
      world := (f k.task s.scene).2.host } := by
  simp only [onTask, hk, Orchestrator.onTask, withScene, onHost]

/-- A session whose run, if one is in progress, is about to launch a program. -/
structure Ready (s : Session) : Prop where
  inv : s.orchestrator.Inv
  free : s.orchestrator.stopping = none
  poised : s.orchestrator.Poised
  unstarted : s.orchestrator.running = true → s.standing = .unstarted

/-- The task of the worker at work is new. -/
theorem Ready.atWork {s : Session} (h : s.Ready) (hrun : s.orchestrator.running = true) :
    ∃ ks k ds d, s.orchestrator.AtWork ks k ds d ∧ s.orchestrator.current = some ks.length ∧
      s.orchestrator.workers[ks.length]? = some k ∧ k.task.phase = .ready ∧ k.reported = false := by
  obtain ⟨ks, k, ds, d, hw⟩ := h.inv.atWork hrun
  have hfree : s.orchestrator.isFree = true := by
    rw [isFree, h.free]
    rfl
  obtain ⟨hcurrent, -, -⟩ := hw.current hfree
  have hk : s.orchestrator.workers[ks.length]? = some k := by
    rw [hw.workers]
    exact List.getElem?_concat_length
  obtain ⟨i, k', hi, hk', hready⟩ := h.poised hrun
  obtain rfl : i = ks.length := Option.some.inj (hi.symm.trans hcurrent)
  obtain rfl : k' = k := Option.some.inj (hk'.symm.trans hk)
  refine ⟨ks, k', ds, d, hw, hcurrent, hk, hready, ?_⟩
  -- a worker that has reported is over
  cases hrep : k'.reported with
  | false => rfl
  | true =>
    obtain ⟨r, hr⟩ := (h.inv.fits k' hw.mem).ended hrep
    rw [Task.outcome?, hready] at hr
    cases hr

/-- Once around: the current stage runs to its end, and one more stage has an outcome. -/
theorem Ready.settle_succ {s : Session} (h : s.Ready) (hrun : s.orchestrator.running = true)
    (n : Nat) : ∃ s' : Session, s.settle .endless (n + 1) = s'.settle .endless n ∧ s'.Ready ∧
      s'.orchestrator.pipeline = s.orchestrator.pipeline ∧
        s'.orchestrator.outcomes.length = s.orchestrator.outcomes.length + 1 := by
  obtain ⟨ks, k, ds, d, hw, hcurrent, hk, hready, hnot⟩ := h.atWork hrun
  -- its program runs to its end
  have hover := Task.isOver_proceed s.orchestrator.settings hready (s := s.scene)
    (h.unstarted hrun)
  obtain ⟨r, hr⟩ := Option.isSome_iff_exists.1 hover
  have htask := onTask_eq hk (Task.proceed s.orchestrator.settings .endless)
  rw [hw.workers, set_length_concat] at htask
  have hunattended := s.unattended_onTask ks.length s.orchestrator.settings .endless
  have hround := s.unattended_round ks.length s.orchestrator.settings .endless h.free
  have hsettle : s.settle .endless (n + 1) =
      (let s' := s.onTask ks.length (Task.proceed s.orchestrator.settings .endless)
      if s'.isOver ks.length then
        settle .endless n { s' with
          orchestrator := drive (s'.orchestrator.report ks.length), standing := .unstarted }
      else s') := by
    rw [settle, hcurrent]
  generalize s.onTask ks.length (Task.proceed s.orchestrator.settings .endless) = s' at *
  have hinv := hunattended.inv h.inv
  have hrun' : s'.orchestrator.running = true := by
    rw [htask]
    exact hrun
  obtain ⟨ds', d', hw'⟩ := hinv.atWork_of_workers hrun' (congrArg Orchestrator.workers htask)
  have hfree' : s'.orchestrator.isFree = true := by
    rw [isFree, hunattended.stopping h.free]
    rfl
  have hisOver : s'.isOver ks.length = true := by
    rw [isOver, hw'.workers, List.getElem?_concat_length]
    exact hover
  -- and the run goes on
  obtain ⟨hpoised, hlen⟩ := drive_report hw' hinv hfree' hr hnot
  refine ⟨_, hsettle.trans (if_pos hisOver), ⟨hround.inv h.inv, hround.stopping h.free, hpoised,
    fun _ => rfl⟩, hround.pipeline h.inv, ?_⟩
  rw [hlen, htask]

/-- **Whoever waits without end for a run sees its end**, if it waits for as many stages as are
left. -/
theorem running_settle {n : Nat} {s : Session} (h : s.Ready)
    (hn : s.orchestrator.pipeline.stages.length - s.orchestrator.outcomes.length < n) :
    (s.settle .endless n).orchestrator.running = false := by
  induction n generalizing s with
  | zero => omega
  | succ n ih =>
    cases hrun : s.orchestrator.running with
    | false =>
      unfold settle
      rw [(h.inv.idle hrun).current]
      exact hrun
    | true =>
      obtain ⟨ks, k, ds, d, hw⟩ := h.inv.atWork hrun
      have hlt := h.inv.outcomes_lt hw
      obtain ⟨s', hs', hready, hp, hlen⟩ := h.settle_succ hrun n
      rw [hs']
      refine ih hready ?_
      rw [hp, hlen]
      omega

theorem ready_start (h : o.Inv) (hno : o.stopping = none) (hok : o.start.1 = .ok ()) :
    (Session.of o).start.2.Ready where
  inv := h.start.1
  free := o.start_keeps.2.trans hno
  poised := h.poised_start hok
  unstarted _ := by
    simp only [Session.start, Session.of, hok]

/-- **Whoever waits for a run that was started sees its end.** -/
theorem running_wait (h : o.Inv) (hno : o.stopping = none) (hok : o.start.1 = .ok ()) :
    (Session.of o).start.2.wait.orchestrator.running = false :=
  running_settle (ready_start h hno hok) (Nat.lt_succ_of_le (Nat.sub_le _ _))

end Session

end Relay
