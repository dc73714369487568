import Relay.Proofs.Task

/-!
# Workers and those who stop them

A worker sends one completion, and whoever stops it is handed one outcome.  A `Handle` keeps a
worker together with what it has sent and with the answers of the stops, one after another;
everything may happen in any order, and files may change in between.  `reports_once` says what holds at any time:

1. `Task.Exit` lists the ways in which a task can end, and there are no others
   (`Task.isOver_step_iff`).
2. Every event keeps `Sound`: what was sent is the completion of the worker, if it has reported, and
   the first answer was its outcome (`Sound.next`).
3. So on every way to its end a worker sends one completion and gives its sender up; the first stop
   is answered with the same outcome, every later one with none.
-/

namespace Relay

variable {ω : Type} [FileStore ω]

/-! ## How tasks end -/

/-- `t.Exit s status`: the signal `s` ends the task `t`, and `status` is how its stage has ended, as
long as its sinks can be finished. -/
inductive Task.Exit (t : Task) : Task.Signal → Status → Prop where
  | vacant {s : Task.Signal} (ready : t.phase = .ready) (noProgram : t.argv = [])
      (tried : s = .launched ∨ ∃ cause, s = .refused cause) : Exit t s (.failed .noProgram)
  /-- The program could not be started. -/
  | refused {program : Text} {args : List Text} (ready : t.phase = .ready)
      (argv : t.argv = program :: args) (cause : IoError) :
      Exit t (.refused cause) (.failed (.launch program cause))
  /-- The program has ended; input, outputs or waiting may have failed. -/
  | exited {transferred : Except IoError Unit} (awaiting : t.phase = .awaiting transferred)
      (waited : Except IoError Int) :
      Exit t (.exited waited) (statusOf (t.argv.headD []) transferred waited)
  /-- The program was killed and has ended; waiting may have failed. -/
  | killed (killing : t.phase = .killing) (waited : Except IoError Int) :
      Exit t (.exited waited) .stopped

namespace Task

theorem closed_cases {α : Type} (status : Status) (r : Except IoError α) :
    closed status r = status ∨ ∃ e, closed status r = .failed (.closing e) := by
  unfold closed
  split
  · split
    · exact .inl rfl
    · exact .inr ⟨_, rfl⟩
  · exact .inl rfl

theorem exists_outcome_conclude (t : Task) (w : ω) (status : Status) :
    ∃ r, (t.conclude w status).1.outcome? = some r ∧ r.index = t.index ∧ r.argv = t.argv ∧
      (r.status = status ∨ ∃ e, r.status = .failed (.closing e)) := by
  refine ⟨_, rfl, rfl, rfl, ?_⟩
  show closed (closed status _) _ = status ∨ _
  rcases closed_cases (closed status _) (t.stderr.sink.finish (t.stdout.sink.finish w).2).1
    with h | ⟨e, h⟩
  · rcases closed_cases status (t.stdout.sink.finish w).1 with h' | ⟨e, h'⟩
    · exact .inl (h.trans h')
    · exact .inr ⟨e, h.trans h'⟩
  · exact .inr ⟨e, h⟩

theorem Exit.exists_outcome {t : Task} {s : Signal} {status : Status} (h : t.Exit s status)
    (w : ω) :
    ∃ r, (t.step w s).1.outcome? = some r ∧ r.index = t.index ∧ r.argv = t.argv ∧
      (r.status = status ∨ ∃ e, r.status = .failed (.closing e)) := by
  obtain ⟨index, argv, input, fed, stdout, stderr, phase⟩ := t
  cases h with
  | vacant ready noProgram tried =>
    cases ready
    cases noProgram
    rcases tried with rfl | ⟨cause, rfl⟩
    · exact ⟨_, rfl, rfl, rfl, .inl rfl⟩
    · exact ⟨_, rfl, rfl, rfl, .inl rfl⟩
  | refused ready argv cause =>
    cases ready
    cases argv
    exact exists_outcome_conclude _ w _
  | exited awaiting waited =>
    cases awaiting
    exact exists_outcome_conclude _ w _
  | killed killing waited =>
    cases killing
    exact exists_outcome_conclude _ w _

/-- **There is no other way to the end of a task.** -/
theorem isOver_step_iff {t : Task} (ht : t.outcome? = none) (w : ω) (s : Signal) :
    (t.step w s).1.isOver = true ↔ ∃ status, t.Exit s status := by
  constructor
  · intro h
    obtain ⟨r, hr⟩ := Option.isSome_iff_exists.1 h
    -- while input and outputs are under way, joining them gives no outcome yet
    have join : ∀ {t' : Task}, t'.outcome? = t.outcome? → t'.joined.outcome? ≠ some r := by
      intro t' he hj
      rw [outcome?_joined t' (he.trans ht)] at hj
      cases hj
    unfold step at hr
    split at hr
    · rename_i ready
      split at hr
      · rename_i hargv
        exact ⟨_, .vacant ready hargv (.inl rfl)⟩
      · cases hr
    · rename_i cause ready
      split at hr
      · rename_i hargv
        exact ⟨_, .vacant ready hargv (.inr ⟨cause, rfl⟩)⟩
      · rename_i program args hargv
        exact ⟨_, .refused ready hargv cause⟩
    · exact absurd hr (join rfl)
    · exact absurd hr (join (outcome?_onDrain t w _ _))
    · exact absurd hr (join (outcome?_onDrain t w _ _))
    · exact absurd hr (join (outcome?_onDrain t w _ _))
    · rename_i transferred waited awaiting
      exact ⟨_, .exited awaiting waited⟩
    · cases hr
    · cases hr
    · rename_i waited killing
      exact ⟨_, .killed killing waited⟩
    · cases ht.symm.trans hr
  · rintro ⟨status, h⟩
    obtain ⟨r, hr, -⟩ := h.exists_outcome w
    unfold isOver
    rw [hr]
    rfl

/-- After a kill a task has only to wait for its program. -/
theorem exit_of_killed {t : Task}
    (h : t.phase = .transferring ∨ ∃ transferred, t.phase = .awaiting transferred) (w : ω)
    (out err : Option Cut) (waited : Except IoError Int) :
    (t.step w (.killed out err)).1.Exit (.exited waited) .stopped := by
  obtain ⟨index, argv, input, fed, stdout, stderr, phase⟩ := t
  rcases h with htransferring | ⟨transferred, hawaiting⟩
  · cases htransferring
    exact .killed rfl waited
  · cases hawaiting
    exact .killed rfl waited

end Task

/-! ## Handles -/

/-- A worker in the hands of whoever may stop it. -/
structure Handle where
  worker : Worker
  /-- A stop was called and has not returned. -/
  isStopping : Bool := false
  sent : List Completion := []
  /-- What the stops have returned. -/
  answers : List (Option Outcome) := []

namespace Handle

/-- What can happen to a worker and its handle. -/
inductive Event (ω : Type) where
  /-- A signal arrives, with the files as they are then. -/
  | signal (world : ω) (s : Task.Signal)
  | report
  | stop
  /-- The stop returns. -/
  | answer

/-- Puts a stage to work for a run, with the lines that it reads and its two sinks. -/
def spawn (generation index : Nat) (argv input : List Text) (out err : Sink) : Handle :=
  { worker :=
      { generation,
        task := { index, argv, input, stdout := { sink := out }, stderr := { sink := err } } } }

/-- Whether the worker may still send. -/
def holdsSender (h : Handle) : Bool := !h.worker.reported

/-- Whether a stop has nothing to wait for: the outcome was handed out or the worker is finished. -/
def isFinished (h : Handle) : Bool := h.worker.collected || h.worker.isFinished

/-- What an event makes of a handle.  Stops are called one after another, and each returns as soon
as it has nothing to wait for. -/
def next (h : Handle) : Event ω → Handle
  | .signal w s => { h with worker := (h.worker.step w s).1 }
  | .report =>
    { h with worker := h.worker.report.2, sent := h.sent ++ h.worker.report.1.toList }
  | .stop => if h.isStopping then h else { h with worker := h.worker.kill, isStopping := true }
  | .answer =>
    if h.isStopping && h.isFinished then
      { h with worker := h.worker.collect.2, isStopping := false
               answers := h.answers ++ [h.worker.collect.1] }
    else h

def after (h : Handle) (es : List (Event ω)) : Handle := es.foldl next h

theorem after_append (h : Handle) (es fs : List (Event ω)) :
    h.after (es ++ fs) = (h.after es).after fs := List.foldl_append

/-! ## What holds at any time -/

def home (t : Task) : Pipeline := { stages := List.replicate (t.index + 1) ⟨t.argv⟩ }

/-- What holds of the handle of a worker for the task `t` of the run `g`. -/
structure Sound (g : Nat) (t : Task) (h : Handle) : Prop where
  generation : h.worker.generation = g
  call : h.worker.task.call = t.call
  fits : h.worker.Fits (home t)
  sent : h.sent = h.worker.sent
  asked : h.isStopping = true → h.worker.killSent = true
  /-- The first answer was the outcome, and the others were none. -/
  answers : (h.answers = [] ∧ h.worker.collected = false) ∨
    ∃ r n, h.worker.task.outcome? = some r ∧ h.worker.reported = true ∧
      h.worker.collected = true ∧ h.answers = some r :: List.replicate n none

variable {g : Nat} {t : Task} {h : Handle}

omit [FileStore ω] in
theorem sound_spawn (g index : Nat) (argv input : List Text) (out err : Sink) :
    Sound g (spawn g index argv input out err).worker.task (spawn g index argv input out err) := by
  refine ⟨rfl, rfl, ⟨⟨⟨argv⟩, ?_, rfl⟩, nofun, nofun, nofun, nofun⟩, rfl, nofun, .inl ⟨rfl, rfl⟩⟩
  exact List.getElem?_replicate_of_lt (Nat.lt_succ_self index)

theorem Sound.answers_later (hs : Sound g t h) {k : Worker} (hl : h.worker.Later k)
    (hcol : k.collected = h.worker.collected) :
    (h.answers = [] ∧ k.collected = false) ∨
      ∃ r n, k.task.outcome? = some r ∧ k.reported = true ∧ k.collected = true ∧
        h.answers = some r :: List.replicate n none := by
  rw [hcol]
  rcases hs.answers with hnone | ⟨r, n, hr, hrep, hc, ha⟩
  · exact .inl hnone
  · exact .inr ⟨r, n, hl.outcome r hr, hl.reported hrep, hc, ha⟩

theorem Sound.signal (hs : Sound g t h) (w : ω) (s : Task.Signal) :
    Sound g t (h.next (.signal w s)) := by
  have hl := h.worker.step_later w s
  refine ⟨hl.generation.trans hs.generation, hl.call.trans hs.call, hs.fits.step w s, ?_, ?_,
    hs.answers_later hl (h.worker.step_collected w s)⟩
  · exact hs.sent.trans (hs.fits.sent_step w s).symm
  · intro hstop
    exact (h.worker.step_killSent w s).trans (hs.asked hstop)

omit [FileStore ω] in
theorem Sound.report (hs : Sound g t h) :
    Sound g t { h with worker := h.worker.report.2,
                       sent := h.sent ++ h.worker.report.1.toList } := by
  rcases h.worker.report_cases with hr | ⟨c, hc, hnot, hr⟩
  · rw [hr, Option.toList_none, List.append_nil]
    exact hs
  · have hl : h.worker.Later { h.worker with reported := true } :=
      Worker.Later.of_task_eq rfl rfl fun _ => rfl
    have hfits : { h.worker with reported := true }.Fits (home t) :=
      hs.fits.of_task_eq rfl id
        fun _ => ⟨c.outcome, (Worker.completion?_eq_some_iff.1 hc).2⟩
    rw [hr]
    refine ⟨hs.generation, hs.call, hfits, ?_, hs.asked, hs.answers_later hl rfl⟩
    show h.sent ++ [c] = _
    rw [hs.sent, Worker.sent_of_not_reported hnot,
      Worker.sent_of_reported rfl (hl.completion? hc), List.nil_append]

omit [FileStore ω] in
theorem Sound.stop (hs : Sound g t h) :
    Sound g t { h with worker := h.worker.kill, isStopping := true } := by
  have hl : h.worker.Later h.worker.kill := Worker.Later.of_task_eq rfl rfl id
  exact ⟨hs.generation, hs.call, hs.fits.of_task_eq rfl (fun _ => rfl) hs.fits.ended, hs.sent,
    fun _ => rfl, hs.answers_later hl rfl⟩

omit [FileStore ω] in
theorem Sound.answer (hs : Sound g t h) (hfin : h.isFinished = true) :
    Sound g t { h with worker := h.worker.collect.2, isStopping := false,
                       answers := h.answers ++ [h.worker.collect.1] } := by
  rcases hs.answers with ⟨hnone, hcol⟩ | ⟨r, n, hr, hrep, hcol, ha⟩
  · have hfin' : h.worker.isFinished = true := by
      rwa [isFinished, hcol, Bool.false_or] at hfin
    obtain ⟨hrep, r, hr⟩ := Worker.of_isFinished hfin'
    rw [Worker.collect_eq hfin' hcol hr, hnone]
    exact ⟨hs.generation, hs.call, hs.fits.of_task_eq rfl id hs.fits.ended, hs.sent, nofun,
      .inr ⟨r, 0, hr, hrep, rfl, rfl⟩⟩
  · have hcollect : h.worker.collect = (none, h.worker) := by
      unfold Worker.collect
      rw [hcol, Bool.not_true, Bool.and_false]
      rfl
    rw [hcollect, ha]
    refine ⟨hs.generation, hs.call, hs.fits, hs.sent, nofun, .inr ⟨r, n + 1, hr, hrep, hcol, ?_⟩⟩
    rw [List.replicate_succ', List.cons_append]

/-- **Every event keeps what holds.** -/
theorem Sound.next (hs : Sound g t h) (e : Event ω) : Sound g t (h.next e) := by
  cases e with
  | signal w s => exact hs.signal w s
  | report => exact hs.report
  | stop =>
    show Sound g t (if h.isStopping then h else _)
    split
    · exact hs
    · exact hs.stop
  | answer =>
    show Sound g t (if h.isStopping && h.isFinished then _ else h)
    split
    · rename_i hcond
      exact hs.answer (Bool.and_eq_true_iff.1 hcond).2
    · exact hs

theorem Sound.after (hs : Sound g t h) (es : List (Event ω)) : Sound g t (h.after es) := by
  induction es generalizing h with
  | nil => exact hs
  | cons e es ih => exact ih (hs.next e)

/-! ## Once, and always the same -/

/-- What can be seen of the worker of a stage. -/
structure Consistent (g index : Nat) (argv : List Text) (h : Handle) : Prop where
  /-- The worker has its sender and has sent nothing, or it has sent its outcome and given the
  sender up. -/
  sent : (h.sent = [] ∧ h.holdsSender = true) ∨
    ∃ r, h.sent = [{ generation := g, outcome := r }] ∧ h.holdsSender = false ∧
      h.worker.task.outcome? = some r ∧ r.index = index ∧ r.argv = argv
  /-- The first stop was answered with the outcome that was sent, the others with none. -/
  answers : h.answers = [] ∨ ∃ r n, h.sent = [{ generation := g, outcome := r }] ∧
    h.answers = some r :: List.replicate n none
  finished : h.answers ≠ [] → h.worker.isFinished = true ∧ h.isFinished = true

omit [FileStore ω] in
theorem Sound.sent_of_reported (hs : Sound g t h) (hrep : h.worker.reported = true) {r : Outcome}
    (hr : h.worker.task.outcome? = some r) : h.sent = [{ generation := g, outcome := r }] := by
  rw [hs.sent, ← hs.generation]
  exact Worker.sent_of_reported hrep (Worker.completion?_eq_some_iff.2 ⟨rfl, hr⟩)

omit [FileStore ω] in
theorem Sound.consistent (hs : Sound g t h) : h.Consistent g t.index t.argv := by
  refine ⟨?_, ?_, fun hne => ?_⟩
  · cases hrep : h.worker.reported with
    | false =>
      refine .inl ⟨hs.sent.trans (Worker.sent_of_not_reported hrep), ?_⟩
      rw [holdsSender, hrep]
      rfl
    | true =>
      obtain ⟨r, hr⟩ := hs.fits.ended hrep
      obtain ⟨hindex, hargv⟩ := hs.fits.own r hr
      refine .inr ⟨r, hs.sent_of_reported hrep hr, ?_, hr, ?_, ?_⟩
      · rw [holdsSender, hrep]
        rfl
      · exact hindex.trans (congrArg Call.index hs.call)
      · exact hargv.trans (congrArg Call.argv hs.call)
  · rcases hs.answers with ⟨hnone, -⟩ | ⟨r, n, hr, hrep, -, ha⟩
    · exact .inl hnone
    · exact .inr ⟨r, n, hs.sent_of_reported hrep hr, ha⟩
  · rcases hs.answers with ⟨hnone, -⟩ | ⟨r, n, hr, hrep, hcol, -⟩
    · exact absurd hnone hne
    · refine ⟨?_, ?_⟩
      · rw [Worker.isFinished, Task.isOver, hr, hrep]
        rfl
      · rw [isFinished, hcol, Bool.true_or]

/-- A worker whose task is over has sent its outcome after a report. -/
theorem Sound.sent_report (hs : Sound g t h) {r : Outcome}
    (hr : h.worker.task.outcome? = some r) :
    (h.next (.report : Event ω)).sent = [{ generation := g, outcome := r }] := by
  have hs' := hs.next (.report : Event ω)
  have hfin : h.worker.report.2.isFinished = true := Worker.isFinished_report hr
  obtain ⟨hrep, r', hr'⟩ := Worker.of_isFinished hfin
  have hsame : h.worker.report.2.task = h.worker.task := by
    rcases h.worker.report_cases with hk | ⟨c, -, -, hk⟩
    · rw [hk]
    · rw [hk]
  exact hs'.sent_of_reported hrep ((congrArg Task.outcome? hsame).trans hr)

theorem answers_answer (hstop : h.isStopping = true) (hfin : h.isFinished = true) :
    (h.next (.answer : Event ω)).answers = h.answers ++ [h.worker.collect.1] := by
  show (if h.isStopping && h.isFinished then _ else h : Handle).answers = _
  rw [hstop, hfin]
  rfl

theorem Sound.exists_answer (hs : Sound g t h) (hstop : h.isStopping = true) (w : ω)
    (waited : Except IoError Int) :
    ∃ a, (h.after [.signal w .launched, .signal w (.killed none none), .signal w (.exited waited),
      .report, .answer]).answers = h.answers ++ [a] := by
  obtain ⟨r, hr⟩ := h.worker.exists_outcome_killed (hs.asked hstop) w w w none none waited
  let reported := h.after [.signal w .launched, .signal w (.killed none none),
    .signal w (.exited waited), .report]
  have hfin : reported.isFinished = true := by
    rw [isFinished, Bool.or_eq_true]
    exact .inr (Worker.isFinished_report hr)
  exact ⟨_, answers_answer (ω := ω) hstop hfin⟩

/-- What comes next for a handle, whatever happened before. -/
structure Reliable (ω : Type) [FileStore ω] (g index : Nat) (argv : List Text) (h : Handle) :
    Prop where
  /-- A signal that the worker takes ends the task in one of the ways of `Task.Exit`, or it does not
  end it. -/
  ends : ∀ (w : ω) s, h.worker.task.outcome? = none → h.worker.admits s = true →
    ((h.next (.signal w s)).worker.task.isOver = true ↔ ∃ status, h.worker.task.Exit s status)
  /-- On each of these ways the next report sends the outcome, which is the stage's own. -/
  reports : ∀ (w : ω) s status, h.worker.admits s = true → h.worker.task.Exit s status →
    ∃ r, (h.after [.signal w s, .report]).sent = [{ generation := g, outcome := r }] ∧
      r.index = index ∧ r.argv = argv ∧
      (r.status = status ∨ ∃ e, r.status = .failed (.closing e))
  /-- A kill is taken while input and outputs are under way or while the program is waited for, and
  then the end of the program ends the task. -/
  kills : ∀ (w : ω) out err waited, h.worker.killSent = true →
    (h.worker.task.phase = .transferring ∨ ∃ r, h.worker.task.phase = .awaiting r) →
    (h.next (.signal w (.killed out err))).worker.task.Exit (.exited waited) .stopped
  /-- A stop in progress can return at any time, once the task has taken the kill, its program has
  ended and it has reported. -/
  returns : h.isStopping = true → ∀ (w : ω) waited, ∃ a,
    (h.after [.signal w .launched, .signal w (.killed none none), .signal w (.exited waited),
      .report, .answer]).answers = h.answers ++ [a]

theorem task_next_signal (w : ω) {s : Task.Signal} (hadmits : h.worker.admits s = true) :
    (h.next (.signal w s)).worker.task = (h.worker.task.step w s).1 :=
  Worker.task_step_of_admits hadmits w

theorem Sound.reliable (hs : Sound g t h) : h.Reliable ω g t.index t.argv where
  ends w s hnone hadmits := by
    rw [task_next_signal w hadmits]
    exact Task.isOver_step_iff hnone w s
  reports w s status hadmits hexit := by
    obtain ⟨r, hr, hindex, hargv, hstatus⟩ := hexit.exists_outcome w
    rw [← task_next_signal w hadmits] at hr
    refine ⟨r, (hs.next (.signal w s)).sent_report (ω := ω) hr, ?_, ?_, hstatus⟩
    · exact hindex.trans (congrArg Call.index hs.call)
    · exact hargv.trans (congrArg Call.argv hs.call)
  kills w out err waited hkill hphase := by
    rw [task_next_signal (s := .killed out err) w hkill]
    exact Task.exit_of_killed hphase w out err waited
  returns hstop w waited := hs.exists_answer hstop w waited

/-- **A worker reports once, and what it reports is what the first stop is handed**, for every
stage, and in whatever order its task makes progress and stops are called. -/
theorem reports_once (g index : Nat) (argv input : List Text) (out err : Sink)
    (es : List (Event ω)) :
    ((spawn g index argv input out err).after es).Consistent g index argv ∧
      ((spawn g index argv input out err).after es).Reliable ω g index argv := by
  have hs : Sound g _ ((spawn g index argv input out err).after es) :=
    (sound_spawn g index argv input out err).after es
  exact ⟨hs.consistent, hs.reliable⟩

/-- A stop is called, and the program is started nevertheless and then killed. -/
def hasty : List (Event Host) := [.stop, .signal {} .launched, .signal {} (.killed none none)]

def twice : List (Event Host) :=
  [.signal {} (.exited (.ok 137)), .report, .answer, .stop, .answer]

/-- The outcome of a program that was stopped before it printed anything. -/
def cutShort : Outcome := { index := 0, argv := [['a']], status := .stopped }

theorem reports_once_twice :
    let h := (spawn 7 0 [['a']] [] .empty .empty).after (hasty ++ twice)
    h.Consistent 7 0 [['a']] ∧ h.sent = [{ generation := 7, outcome := cutShort }] ∧
      h.answers = [some cutShort, none] ∧
      ∃ r, (((spawn 7 0 [['a']] [] .empty .empty).after hasty).after
          [.signal ({} : Host) (.exited (.ok 137)), .report]).sent =
            [{ generation := 7, outcome := r }] ∧
        (r.status = .stopped ∨ ∃ e, r.status = .failed (.closing e)) := by
  obtain ⟨hconsistent, -⟩ := reports_once 7 0 [['a']] [] .empty .empty (hasty ++ twice)
  obtain ⟨-, hreliable⟩ := reports_once 7 0 [['a']] [] .empty .empty hasty
  obtain ⟨r, hr, -, -, hstatus⟩ :=
    hreliable.reports {} (.exited (.ok 137)) .stopped rfl (.killed rfl _)
  exact ⟨hconsistent, rfl, rfl, r, hr, hstatus⟩

/-- A stage without a program reports too. -/
example : ((spawn 7 0 [] [] .empty .empty).after
    [.signal ({} : Host) .launched, .report]).sent =
      [{ generation := 7, outcome := { index := 0, argv := [], status := .failed .noProgram } }] :=
  rfl

end Handle

end Relay
