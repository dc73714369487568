import Relay.Proofs.Task.Journal

/-!
# What an outcome tells

The outcome of a stage is judged by its journal, whatever the program does, whatever the sinks
answer and whenever a kill arrives (`Task.verdict`).

1. While input and outputs are under way the task's state is what the journal tells (`Working`).
2. The end of the activities, the wait for the program and closing the sinks each add one result;
   the status keeps the first failure among them (`statusOf_eq`, `closed_barring`).
3. So the status of a task that took no kill is the first failure of its journal, and without one it
   is the program's code; a kill leaves only the failures to close (`Judged`).
-/

namespace Relay

variable {ω : Type} [FileStore ω]

def Outcome.lines (r : Outcome) : Stream → List Text
  | .stdout => r.stdout
  | .stderr => r.stderr

def Status.barring : Option Failure → Status → Status
  | some f, _ => .failed f
  | none, s => s

namespace Task

/-! ## Failures -/

def error? {α : Type} : Option (Except IoError α) → Option IoError
  | some (.error e) => some e
  | _ => none

/-- The error of feeding a program; that the program reads no further is none. -/
def feedError? : Option (Except IoError Unit) → Option IoError
  | some (.error e) => if e = .os .brokenPipe then none else some e
  | _ => none

def closingFailure? (log : List Notice) (s : Stream) : Option Failure :=
  (error? (Drain.closing? (output s log))).map .closing

/-- The failure of input or outputs that a journal tells: the first in the order of feeding, the
standard output and the error output. -/
def transferFailure? (program : Text) (log : List Notice) : Option Failure :=
  (((feedError? (feed? log)).or (error? (Drain.end? (output .stdout log)))).or
    (error? (Drain.end? (output .stderr log)))).map (.transfer program)

/-- The first failure that a journal tells: of the launch, of input or outputs, of the wait, of
closing the standard output, of closing the error output. -/
def firstFailure? (program : Text) (log : List Notice) : Option Failure :=
  (((((error? (launch? log)).map (.launch program)).or (transferFailure? program log)).or
    ((error? (wait? log)).map (.waiting program))).or (closingFailure? log .stdout)).or
      (closingFailure? log .stderr)

/-- All went well up to closing the sinks: the program was started and gave its code unkilled,
feeding it ended well or because it read no further, and both outputs were read to their ends with
every line accepted. -/
structure Smooth (log : List Notice) (code : Int) : Prop where
  launched : launch? log = some (.ok ())
  unkilled : wasKilled log = false
  waited : wait? log = some (.ok code)
  fed : feed? log = some (.ok ()) ∨ feed? log = some (.error (.os .brokenPipe))
  drained : ∀ s, Drain.end? (output s log) = some (.ok ())
  lines : ∀ s, Drain.accepted (output s log) = Text.decodeLines (Drain.heard (output s log))

/-- All went well, and both sinks were closed. -/
structure Flawless (log : List Notice) (code : Int) : Prop extends Smooth log code where
  closed : ∀ s, Drain.closing? (output s log) = some (.ok ())

/-- A task that has taken no signal. -/
structure IsNew (t : Task) : Prop where
  phase : t.phase = .ready
  fed : t.fed = none
  outputs : ∀ s, (t.drain s).IsNew

/-! ## The readings of a journal -/

@[simp]
theorem launch?_append (l m : List Notice) : launch? (l ++ m) = (launch? l).or (launch? m) :=
  List.findSome?_append

@[simp]
theorem feed?_append (l m : List Notice) : feed? (l ++ m) = (feed? l).or (feed? m) :=
  List.findSome?_append

@[simp]
theorem output_append (s : Stream) (l m : List Notice) :
    output s (l ++ m) = output s l ++ output s m :=
  List.filterMap_append

@[simp]
theorem wait?_append (l m : List Notice) : wait? (l ++ m) = (wait? l).or (wait? m) :=
  List.findSome?_append

@[simp]
theorem wasKilled_append (l m : List Notice) :
    wasKilled (l ++ m) = (wasKilled l || wasKilled m) :=
  List.any_append

@[simp]
theorem launch?_nil : launch? [] = none := rfl

@[simp]
theorem feed?_nil : feed? [] = none := rfl

@[simp]
theorem output_nil (s : Stream) : output s [] = [] := rfl

@[simp]
theorem wait?_nil : wait? [] = none := rfl

@[simp]
theorem wasKilled_nil : wasKilled [] = false := rfl

@[simp]
theorem launch?_cons (n : Notice) (l : List Notice) :
    launch? (n :: l) = n.launch?.or (launch? l) := by
  cases h : n.launch? <;> simp [launch?, h]

@[simp]
theorem feed?_cons (n : Notice) (l : List Notice) : feed? (n :: l) = n.feed?.or (feed? l) := by
  cases h : n.feed? <;> simp [feed?, h]

@[simp]
theorem output_cons (s : Stream) (n : Notice) (l : List Notice) :
    output s (n :: l) = (n.output? s).toList ++ output s l := by
  cases h : n.output? s <;> simp [output, h]

@[simp]
theorem wait?_cons (n : Notice) (l : List Notice) : wait? (n :: l) = n.wait?.or (wait? l) := by
  cases h : n.wait? <;> simp [wait?, h]

@[simp]
theorem wasKilled_cons (n : Notice) (l : List Notice) :
    wasKilled (n :: l) = (n.isKill || wasKilled l) :=
  List.any_cons

theorem map_output (x : Stream) (l : List Drain.Notice) :
    launch? (l.map (.output x)) = none ∧ feed? (l.map (.output x)) = none ∧
      wait? (l.map (.output x)) = none ∧ wasKilled (l.map (.output x)) = false ∧
        ∀ s, output s (l.map (.output x)) = if x = s then l else [] := by
  refine ⟨?_, ?_, ?_, ?_, fun s => ?_⟩
  · simp [launch?, Notice.launch?]
  · simp [feed?, Notice.feed?]
  · simp [wait?, Notice.wait?]
  · simp [wasKilled, Notice.isKill]
  · by_cases h : x = s
    · simp [output, Notice.output?, h, Function.comp_def]
    · simp [output, Notice.output?, h, Function.comp_def]

/-! ## The status -/

/-- Failing to close a sink counts only if nothing failed before. -/
theorem closed_barring {α : Type} (f? : Option Failure) {s : Status} (hs : s.isFailed = false)
    (r : Except IoError α) :
    closed (.barring f? s) r = .barring (f?.or ((error? (some r)).map .closing)) s := by
  cases r with
  | ok a =>
    cases f? with
    | none => rfl
    | some f => rfl
  | error e =>
    cases f? with
    | none => simp [closed, Status.barring, error?, hs]
    | some f => rfl

theorem eq_ok_of_error? {r : Except IoError Unit} (h : error? (some r) = none) : r = .ok () := by
  cases r with
  | ok => rfl
  | error e => cases h

theorem eq_of_feedError? {r : Except IoError Unit} (h : feedError? (some r) = none) :
    r = .ok () ∨ r = .error (.os .brokenPipe) := by
  cases r with
  | ok => exact .inl rfl
  | error e =>
    by_cases he : e = .os .brokenPipe
    · exact .inr (congrArg _ he)
    · simp [feedError?, he] at h

theorem error?_feedResult (r : Except IoError Unit) :
    error? (some (feedResult r)) = feedError? (some r) := by
  unfold feedResult
  split
  · split
    · simp [error?, feedError?, *]
    · simp [error?, feedError?, *]
  · rename_i hnot
    cases r with
    | ok => rfl
    | error e =>
      have he : e ≠ .os .brokenPipe := by
        rintro rfl
        exact hnot _ rfl
      simp [error?, feedError?, he]

theorem statusOf_eq (program : Text) (fed out err : Except IoError Unit)
    (waited : Except IoError Int) :
    statusOf program (firstError [feedResult fed, out, err]) waited =
      .barring (((((feedError? (some fed)).or (error? (some out))).or (error? (some err))).map
        (.transfer program)).or ((error? (some waited)).map (.waiting program)))
          (.exited (waited.toOption.getD 0)) := by
  rw [← error?_feedResult]
  cases feedResult fed with
  | error e => rfl
  | ok =>
    cases out with
    | error e => rfl
    | ok =>
      cases err with
      | error e => rfl
      | ok =>
        cases waited with
        | error e => rfl
        | ok code => rfl

/-! ## Concluding -/

/-- How closing the sinks of a task ends. -/
def closings (t : Task) (w : ω) : Stream → Except IoError Unit
  | .stdout => (t.stdout.sink.finish w).1.map fun _ => ()
  | .stderr => (t.stderr.sink.finish (t.stdout.sink.finish w).2).1.map fun _ => ()

theorem output_closeNotices (t : Task) (w : ω) (s : Stream) :
    output s (t.closeNotices w) = [.closed (t.closings w s)] := by
  cases s with
  | stdout => rfl
  | stderr => rfl

@[simp]
theorem launch?_closeNotices (t : Task) (w : ω) : launch? (t.closeNotices w) = none := rfl

@[simp]
theorem feed?_closeNotices (t : Task) (w : ω) : feed? (t.closeNotices w) = none := rfl

@[simp]
theorem wait?_closeNotices (t : Task) (w : ω) : wait? (t.closeNotices w) = none := rfl

@[simp]
theorem wasKilled_closeNotices (t : Task) (w : ω) : wasKilled (t.closeNotices w) = false := rfl

theorem closed_map {α : Type} (status : Status) (r : Except IoError α) :
    closed status (r.map fun _ => ()) = closed status r := by
  cases r with
  | ok => rfl
  | error => rfl

theorem kept_finish (k : Sink) (w : ω) :
    kept (k.finish w).1 = match k with
      | .memory lines => lines.toList
      | .file _ => [] := by
  cases k with
  | memory lines => rfl
  | file f =>
    show kept ((f.finish w).1.map fun _ => []) = []
    cases (f.finish w).1 with
    | ok => rfl
    | error => rfl

/-- The program could not be started, or it was waited for. -/
def Decided (log : List Notice) : Prop :=
  (error? (launch? log)).isSome ∨ (wait? log).isSome

/-- What the journal of a task that is over tells of its outcome. -/
structure Judged (t₀ : Task) (log : List Notice) (r : Outcome) : Prop where
  index : r.index = t₀.index
  argv : r.argv = t₀.argv
  /-- A sink in memory keeps exactly the lines that it accepted. -/
  lines : ∀ s, r.lines s =
    if (t₀.drain s).sink.target? = none then Drain.accepted (output s log) else []
  decided : Decided log
  status :
    wasKilled log = true ∧
        r.status = .barring ((closingFailure? log .stdout).or (closingFailure? log .stderr))
          .stopped ∨
      wasKilled log = false ∧ ∃ code,
        r.status = .barring (firstFailure? (t₀.argv.headD []) log) (.exited code) ∧
          (firstFailure? (t₀.argv.headD []) log = none → Flawless log code)

section Conclude

variable {t₀ t : Task} {log : List Notice}

theorem target?_of_call_eq (h : t.call = t₀.call) (s : Stream) :
    (t.drain s).sink.target? = (t₀.drain s).sink.target? := by
  cases s with
  | stdout => exact congrArg Call.stdoutTarget h
  | stderr => exact congrArg Call.stderrTarget h

/-- The outcome of a task that concludes, with the results of closing its sinks. -/
theorem exists_conclude (hcall : t.call = t₀.call)
    (hkept : ∀ s, (t.drain s).Kept (output s log)) (w : ω) (status : Status) :
    ∃ r, (t.conclude w status).1.phase = .over r ∧ r.index = t₀.index ∧ r.argv = t₀.argv ∧
      (∀ s, r.lines s = if (t₀.drain s).sink.target? = none then
        Drain.accepted (output s (log ++ t.closeNotices w)) else []) ∧
      r.status = closed (closed status (t.closings w .stdout)) (t.closings w .stderr) := by
  have hlines : ∀ (s : Stream) (w' : ω), kept ((t.drain s).sink.finish w').1 =
      if (t₀.drain s).sink.target? = none then
        Drain.accepted (output s (log ++ t.closeNotices w)) else [] := by
    intro s w'
    have hacc : Drain.accepted (output s (log ++ t.closeNotices w)) =
        Drain.accepted (output s log) := by
      simp [output_closeNotices, Drain.Notice.line?]
    rw [kept_finish, hacc, ← target?_of_call_eq hcall s]
    cases hs : (t.drain s).sink with
    | memory lines =>
      have hmem : (Sink.memory lines).target? = none := rfl
      rw [if_pos hmem]
      exact (hkept s).lines lines hs
    | file f =>
      have hfile : (Sink.file f).target? ≠ none := Option.some_ne_none f.target
      rw [if_neg hfile]
  refine ⟨_, rfl, congrArg Call.index hcall, congrArg Call.argv hcall, fun s => ?_, ?_⟩
  · cases s with
    | stdout => exact hlines .stdout w
    | stderr => exact hlines .stderr (t.stdout.sink.finish w).2
  · rw [closings, closings, closed_map, closed_map]
    rfl

theorem closing?_closeNotices (hkept : ∀ s, (t.drain s).Kept (output s log)) (w : ω)
    (s : Stream) :
    Drain.closing? (output s (log ++ t.closeNotices w)) = some (t.closings w s) := by
  rw [output_append, Drain.closing?_append, (hkept s).unclosed, output_closeNotices]
  rfl

/-- A task that concludes after a kill. -/
theorem judged_of_killed (hcall : t.call = t₀.call)
    (hkept : ∀ s, (t.drain s).Kept (output s log)) (hkill : wasKilled log = true)
    (hdecided : Decided log) (w : ω) :
    ∃ r, (t.conclude w .stopped).1.phase = .over r ∧ Judged t₀ (log ++ t.closeNotices w) r := by
  obtain ⟨r, hphase, hindex, hargv, hlines, hstatus⟩ := exists_conclude hcall hkept w .stopped
  have hkill' : wasKilled (log ++ t.closeNotices w) = true := by simp [hkill]
  have hdecided' : Decided (log ++ t.closeNotices w) := by simpa [Decided] using hdecided
  refine ⟨r, hphase, hindex, hargv, hlines, hdecided', .inl ⟨hkill', ?_⟩⟩
  calc r.status
      = closed (closed (.barring none .stopped) (t.closings w .stdout)) (t.closings w .stderr) :=
        hstatus
    _ = .barring ((closingFailure? (log ++ t.closeNotices w) .stdout).or
          (closingFailure? (log ++ t.closeNotices w) .stderr)) .stopped := by
        rw [closed_barring _ rfl, closed_barring _ rfl]
        simp only [closingFailure?, closing?_closeNotices hkept, Option.none_or]

theorem firstFailure?_closeNotices (hkept : ∀ s, (t.drain s).Kept (output s log)) (w : ω)
    (program : Text) :
    firstFailure? program (log ++ t.closeNotices w) =
      ((firstFailure? program log).or
        ((error? (some (t.closings w .stdout))).map .closing)).or
          ((error? (some (t.closings w .stderr))).map .closing) := by
  have hbefore : ∀ s, closingFailure? log s = none := by
    intro s
    rw [closingFailure?, (hkept s).unclosed]
    rfl
  have hafter : ∀ s, closingFailure? (log ++ t.closeNotices w) s =
      (error? (some (t.closings w s))).map .closing := by
    intro s
    rw [closingFailure?, closing?_closeNotices hkept]
  have htransfer : transferFailure? program (log ++ t.closeNotices w) =
      transferFailure? program log := by
    simp [transferFailure?, output_closeNotices, Drain.Notice.end?, feed?_closeNotices]
  rw [firstFailure?, firstFailure?, hafter, hafter, hbefore, hbefore, htransfer]
  simp [launch?_closeNotices, wait?_closeNotices]

theorem Smooth.closeNotices {code : Int} (h : Smooth log code)
    (hkept : ∀ s, (t.drain s).Kept (output s log)) {w : ω} (hc : ∀ s, t.closings w s = .ok ()) :
    Flawless (log ++ t.closeNotices w) code := by
  refine ⟨⟨?_, ?_, ?_, ?_, fun s => ?_, fun s => ?_⟩, fun s => ?_⟩
  · simp [h.launched]
  · simp [h.unkilled, wasKilled_closeNotices]
  · simp [h.waited]
  · simpa [feed?_closeNotices] using h.fed
  · simp [h.drained s]
  · simp [output_closeNotices, Drain.Notice.line?, Drain.Notice.bytes, h.lines s]
  · rw [closing?_closeNotices hkept, hc s]

/-- A task that concludes without a kill, because of a failure or with a code. -/
theorem judged_of_unkilled (hcall : t.call = t₀.call)
    (hkept : ∀ s, (t.drain s).Kept (output s log)) (hkill : wasKilled log = false)
    (hdecided : Decided log) {code : Int}
    (hsmooth : firstFailure? (t₀.argv.headD []) log = none → Smooth log code) (w : ω) :
    ∃ r, (t.conclude w (.barring (firstFailure? (t₀.argv.headD []) log) (.exited code))).1.phase =
      .over r ∧ Judged t₀ (log ++ t.closeNotices w) r := by
  obtain ⟨r, hphase, hindex, hargv, hlines, hstatus⟩ := exists_conclude hcall hkept w
    (.barring (firstFailure? (t₀.argv.headD []) log) (.exited code))
  refine ⟨r, hphase, hindex, hargv, hlines, ?_, .inr ⟨?_, code, ?_, fun hnone => ?_⟩⟩
  · simpa [Decided] using hdecided
  · simp [hkill, wasKilled_closeNotices]
  · rw [hstatus, closed_barring _ rfl, closed_barring _ rfl, firstFailure?_closeNotices hkept]
  · rw [firstFailure?_closeNotices hkept, Option.or_eq_none_iff, Option.or_eq_none_iff] at hnone
    obtain ⟨⟨hfirst, hout⟩, herr⟩ := hnone
    refine (hsmooth hfirst).closeNotices hkept fun s => ?_
    cases s with
    | stdout => exact eq_ok_of_error? (Option.map_eq_none_iff.1 hout)
    | stderr => exact eq_ok_of_error? (Option.map_eq_none_iff.1 herr)

end Conclude

/-! ## The state of a task and its journal -/

/-- What the journal of a task tells while its program is at work or just done. -/
structure Working (log : List Notice) (t : Task) : Prop where
  launched : launch? log = some (.ok ())
  fed : t.fed = (feed? log).map feedResult
  outputs : ∀ s, (t.drain s).Told (output s log)
  unwaited : wait? log = none
  unkilled : wasKilled log = false

/-- What the journal of a task tells that has taken a kill and waits for its program. -/
structure Dying (log : List Notice) (t : Task) : Prop where
  launched : launch? log = some (.ok ())
  outputs : ∀ s, (t.drain s).Kept (output s log)
  unwaited : wait? log = none
  killed : wasKilled log = true

/-- What the journal of a task tells of its state. -/
inductive Told (t₀ : Task) (log : List Notice) (t : Task) : Prop where
  /-- Nothing has happened yet. -/
  | ready (state : t = t₀) (empty : log = [])
  | transferring (phase : t.phase = .transferring) (working : Working log t)
  /-- All three activities have ended. -/
  | awaiting {fed out err : Except IoError Unit}
    (phase : t.phase = .awaiting (firstError [feedResult fed, out, err])) (working : Working log t)
    (hfed : feed? log = some fed) (hout : Drain.end? (output .stdout log) = some out)
    (herr : Drain.end? (output .stderr log) = some err)
  | killing (phase : t.phase = .killing) (dying : Dying log t)
  | finished {r : Outcome} (phase : t.phase = .over r) (judged : Judged t₀ log r)

omit [FileStore ω] in
theorem drain_onDrain (t : Task) (w : ω) (s x : Stream) (f : Drain → ω → Drain × ω) :
    (t.onDrain w s f).1.drain x = if s = x then (f (t.drain s) w).1 else t.drain x := by
  cases s <;> cases x <;> rfl

omit [FileStore ω] in
theorem fed_onDrain (t : Task) (w : ω) (s : Stream) (f : Drain → ω → Drain × ω) :
    (t.onDrain w s f).1.fed = t.fed := by
  cases s <;> rfl

omit [FileStore ω] in
theorem Working.onDrain {log : List Notice} {t : Task} (h : Working log t) (w : ω) (s : Stream)
    {f : Drain → ω → Drain × ω} {l : List Drain.Notice}
    (hf : (f (t.drain s) w).1.Told (output s log ++ l)) :
    Working (log ++ l.map (.output s)) (t.onDrain w s f).1 := by
  obtain ⟨hlaunch, hfeed, hwait, hkill, hout⟩ := map_output s l
  refine ⟨?_, ?_, fun x => ?_, ?_, ?_⟩
  · rw [launch?_append, h.launched]
    rfl
  · rw [fed_onDrain, feed?_append, hfeed, Option.or_none, h.fed]
  · rw [drain_onDrain, output_append, hout]
    by_cases hx : s = x
    · subst hx
      rw [if_pos rfl, if_pos rfl]
      exact hf
    · rw [if_neg hx, if_neg hx, List.append_nil]
      exact h.outputs x
  · rw [wait?_append, h.unwaited, hwait]
    rfl
  · rw [wasKilled_append, h.unkilled, hkill]
    rfl

omit [FileStore ω] in
theorem Working.of_phase {log : List Notice} {t : Task} (h : Working log t) (p : Phase) :
    Working log { t with phase := p } := by
  refine ⟨h.launched, h.fed, fun s => ?_, h.unwaited, h.unkilled⟩
  rw [drain_phase]
  exact h.outputs s

omit [FileStore ω] in
theorem Working.joined {t₀ t : Task} {log : List Notice} (h : Working log t)
    (phase : t.phase = .transferring) : Told t₀ log t.joined := by
  unfold Task.joined
  split
  · rename_i fed out err hfed hout herr
    obtain ⟨raw, hraw, rfl⟩ := Option.map_eq_some_iff.1 (h.fed.symm.trans hfed)
    exact .awaiting rfl (h.of_phase _) hraw ((h.outputs .stdout).result.symm.trans hout)
      ((h.outputs .stderr).result.symm.trans herr)
  · exact .transferring phase h

omit [FileStore ω] in
theorem Working.feed {t : Task} {log : List Notice} (h : Working log t) (r : Except IoError Unit) :
    Working (log ++ if t.fed.isSome then [] else [.feed r])
      { t with fed := some (t.fed.getD (feedResult r)) } := by
  obtain ⟨index, argv, input, fed, stdout, stderr, phase⟩ := t
  have hout : stdout.Told (output .stdout log) := h.outputs .stdout
  have herr : stderr.Told (output .stderr log) := h.outputs .stderr
  cases fed with
  | some x =>
    rw [Option.isSome_some, if_pos rfl, List.append_nil]
    exact h
  | none =>
    have hnone : feed? log = none := Option.map_eq_none_iff.1 h.fed.symm
    refine ⟨?_, ?_, fun s => ?_, ?_, ?_⟩
    · simp [h.launched]
    · simp [hnone, Notice.feed?]
    · cases s with
      | stdout =>
        show stdout.Told _
        simpa [Notice.output?] using hout
      | stderr =>
        show stderr.Told _
        simpa [Notice.output?] using herr
    · simp [h.unwaited, Notice.wait?]
    · simp [h.unkilled, Notice.isKill]

omit [FileStore ω] in
theorem IsNew.launch {t : Task} (new : t.IsNew) :
    Working (.launch (.ok ()) :: if t.input.isEmpty then [.feed (.ok ())] else [])
      { t with
        fed := if t.input.isEmpty then some (.ok ()) else none
        phase := .transferring } := by
  obtain ⟨index, argv, input, fed, stdout, stderr, phase⟩ := t
  have hout := (new.outputs .stdout).told
  have herr := (new.outputs .stderr).told
  cases input with
  | nil =>
    refine ⟨rfl, rfl, fun s => ?_, rfl, rfl⟩
    cases s with
    | stdout => exact hout
    | stderr => exact herr
  | cons line rest =>
    refine ⟨rfl, rfl, fun s => ?_, rfl, rfl⟩
    cases s with
    | stdout => exact hout
    | stderr => exact herr

theorem IsNew.refuse {t : Task} (new : t.IsNew) (w : ω) {program : Text} (cause : IoError)
    (hprogram : t.argv.headD [] = program) :
    Told t (.launch (.error cause) :: t.closeNotices w)
      (t.conclude w (.failed (.launch program cause))).1 := by
  have hstatus : Status.failed (.launch program cause) = .barring
      (firstFailure? (t.argv.headD []) [.launch (.error cause)]) (.exited 0) := by
    rw [hprogram]
    rfl
  have hkept : ∀ s, (t.drain s).Kept (output s [.launch (.error cause)]) :=
    fun s => (new.outputs s).told.toKept
  have hfailed : firstFailure? (t.argv.headD []) [.launch (.error cause)] = none →
      Smooth [.launch (.error cause)] 0 := nofun
  obtain ⟨r, hphase, judged⟩ := judged_of_unkilled rfl hkept rfl (.inl rfl) hfailed w
  rw [hstatus]
  exact .finished hphase judged

section End

variable {t₀ t : Task} {log : List Notice} (h : Working log t) (hcall : t.call = t₀.call)
include h hcall

/-- The program ends by itself. -/
theorem Working.exited {fed out err : Except IoError Unit} (hfed : feed? log = some fed)
    (hout : Drain.end? (output .stdout log) = some out)
    (herr : Drain.end? (output .stderr log) = some err) (w : ω) (waited : Except IoError Int) :
    Told t₀ (log ++ .wait waited :: t.closeNotices w)
      (t.conclude w (statusOf (t.argv.headD [])
        (firstError [feedResult fed, out, err]) waited)).1 := by
  have hlog : log ++ .wait waited :: t.closeNotices w =
      (log ++ [.wait waited]) ++ t.closeNotices w := List.append_cons ..
  have hargv : t.argv = t₀.argv := congrArg Call.argv hcall
  have hfirst : firstFailure? (t₀.argv.headD []) (log ++ [.wait waited]) =
      (((((feedError? (some fed)).or (error? (some out))).or (error? (some err))).map
        (.transfer (t₀.argv.headD []))).or
          ((error? (some waited)).map (.waiting (t₀.argv.headD [])))) := by
    have hclosing : ∀ s, closingFailure? (log ++ [.wait waited]) s = none := by
      intro s
      simp [closingFailure?, Notice.output?, (h.outputs s).unclosed, error?]
    rw [firstFailure?, transferFailure?, hclosing, hclosing]
    simp [h.launched, h.unwaited, hfed, hout, herr, Notice.wait?, Notice.output?, error?]
  have hkept : ∀ s, (t.drain s).Kept (output s (log ++ [.wait waited])) := by
    intro s
    simpa [Notice.output?] using (h.outputs s).toKept
  have hkill : wasKilled (log ++ [.wait waited]) = false := by simp [h.unkilled, Notice.isKill]
  have hdecided : Decided (log ++ [.wait waited]) := by
    simp [Decided, h.unwaited, Notice.wait?]
  have hsmooth : firstFailure? (t₀.argv.headD []) (log ++ [.wait waited]) = none →
      Smooth (log ++ [.wait waited]) (waited.toOption.getD 0) := by
    intro hnone
    rw [hfirst, Option.or_eq_none_iff, Option.map_eq_none_iff, Option.or_eq_none_iff,
      Option.or_eq_none_iff, Option.map_eq_none_iff] at hnone
    obtain ⟨⟨⟨hf, ho⟩, he⟩, hw⟩ := hnone
    have hend : ∀ s, Drain.end? (output s log) = some (.ok ()) := by
      intro s
      cases s with
      | stdout => rw [hout, eq_ok_of_error? ho]
      | stderr => rw [herr, eq_ok_of_error? he]
    refine ⟨?_, hkill, ?_, ?_, fun s => ?_, fun s => ?_⟩
    · simp [h.launched]
    · cases waited with
      | ok code => simp [h.unwaited, Notice.wait?, Except.toOption]
      | error e => cases hw
    · simpa [hfed] using eq_of_feedError? hf
    · simp [hend s, Notice.output?]
    · simpa [Notice.output?] using (h.outputs s).complete ((h.outputs s).result.trans (hend s))
  obtain ⟨r, hphase, judged⟩ := judged_of_unkilled hcall hkept hkill hdecided hsmooth w
  rw [hlog, statusOf_eq, hargv, ← hfirst]
  exact .finished hphase judged

end End

section Kill

variable {t₀ t : Task} {log : List Notice}

omit [FileStore ω] in
/-- A kill is taken while the program is waited for. -/
theorem Working.dying (h : Working log t) :
    Dying (log ++ [.kill]) { t with phase := .killing } := by
  refine ⟨?_, fun s => ?_, ?_, ?_⟩
  · simp [h.launched]
  · simpa [Notice.output?] using (h.outputs s).toKept
  · simp [h.unwaited, Notice.wait?]
  · simp [Notice.isKill]

theorem Working.severed (h : Working log t) (w : ω) (out err : Option Cut) :
    Dying (log ++ ((t.stdout.severNotices out).map (.output .stdout) ++
      (t.stderr.severNotices err).map (.output .stderr) ++ [.kill]))
      { (t.sever w out err).1 with phase := .killing } := by
  obtain ⟨hout₁, -, hout₃, -, -⟩ := map_output .stdout (t.stdout.severNotices out)
  obtain ⟨herr₁, -, herr₃, -, -⟩ := map_output .stderr (t.stderr.severNotices err)
  refine ⟨?_, fun s => ?_, ?_, ?_⟩
  · simp [h.launched]
  · simp only [output_append, (map_output _ _).2.2.2.2]
    cases s with
    | stdout =>
      have hout : t.stdout.Told (output .stdout log) := h.outputs .stdout
      show (t.stdout.sever w out).1.Kept _
      simpa [Notice.output?] using hout.sever w out
    | stderr =>
      have herr : t.stderr.Told (output .stderr log) := h.outputs .stderr
      show (t.stderr.sever (t.stdout.sever w out).2 err).1.Kept _
      simpa [Notice.output?] using herr.sever (t.stdout.sever w out).2 err
  · simp [h.unwaited, hout₃, herr₃, Notice.wait?]
  · simp [Notice.isKill]

theorem Dying.exited (h : Dying log t) (hcall : t.call = t₀.call) (w : ω)
    (waited : Except IoError Int) :
    Told t₀ (log ++ .wait waited :: t.closeNotices w) (t.conclude w .stopped).1 := by
  have hkept : ∀ s, (t.drain s).Kept (output s (log ++ [.wait waited])) := by
    intro s
    simpa [Notice.output?] using h.outputs s
  have hkill : wasKilled (log ++ [.wait waited]) = true := by simp [h.killed]
  have hdecided : Decided (log ++ [.wait waited]) := by
    simp [Decided, h.unwaited, Notice.wait?]
  obtain ⟨r, hphase, judged⟩ := judged_of_killed hcall hkept hkill hdecided w
  rw [List.append_cons]
  exact .finished hphase judged

end Kill

/-- All that a signal does to a task is what the journal tells of it. -/
theorem Told.step {t₀ t : Task} {log : List Notice} (h : Told t₀ log t) (new : t₀.IsNew)
    (hargv : t₀.argv ≠ []) (hcall : t.call = t₀.call) (w : ω) (s : Signal) :
    Told t₀ (log ++ t.notices w s) (t.step w s).1 := by
  obtain ⟨index, argv, input, fed, stdout, stderr, phase⟩ := t
  cases h with
  | ready state empty =>
    subst state empty
    cases new.phase
    cases argv with
    | nil => exact absurd rfl hargv
    | cons program args =>
      cases s with
      | launched => exact .transferring rfl new.launch
      | refused cause => exact new.refuse w cause rfl
      | _ => exact .ready rfl rfl
  | transferring hphase hwork =>
    cases hphase
    cases s with
    | fed r => exact (hwork.feed r).joined rfl
    | printed s b =>
      exact (hwork.onDrain w s (f := fun d w => d.take w b)
        ((hwork.outputs s).take w b)).joined (phase_onDrain _ w s _)
    | ended s =>
      exact (hwork.onDrain w s (f := fun d w => d.close w)
        ((hwork.outputs s).close w)).joined (phase_onDrain _ w s _)
    | broken s cause =>
      exact (hwork.onDrain w s (f := fun d w => (d.settle (.error cause), w))
        ((hwork.outputs s).breakOff cause)).joined (phase_onDrain _ w s _)
    | killed out err => exact .killing rfl (hwork.severed w out err)
    | _ =>
      rw [show notices _ w _ = [] from rfl, List.append_nil]
      exact .transferring rfl hwork
  | awaiting hphase hwork hfed hout herr =>
    cases hphase
    cases s with
    | exited waited => exact hwork.exited hcall hfed hout herr w waited
    | killed out err => exact .killing rfl hwork.dying
    | _ =>
      rw [show notices _ w _ = [] from rfl, List.append_nil]
      exact .awaiting rfl hwork hfed hout herr
  | killing hphase hdying =>
    cases hphase
    cases s with
    | exited waited => exact hdying.exited hcall w waited
    | _ =>
      rw [show notices _ w _ = [] from rfl, List.append_nil]
      exact .killing rfl hdying
  | finished hphase judged =>
    cases hphase
    rw [show notices _ w _ = [] from rfl, List.append_nil]
    exact .finished rfl judged

/-! ## Whole journals -/

/-- The whole journal of a task tells its state. -/
theorem Told.after {t₀ t : Task} {log : List Notice} (h : Told t₀ log t) (new : t₀.IsNew)
    (hargv : t₀.argv ≠ []) (hcall : t.call = t₀.call) (es : List (ω × Signal)) :
    Told t₀ (log ++ t.journal es) (t.after es) := by
  induction es generalizing t log with
  | nil => simpa [journal, Task.after] using h
  | cons e rest ih =>
    have hstep := ih (h.step new hargv hcall e.1 e.2) ((t.call_step e.1 e.2).trans hcall)
    rw [List.append_assoc] at hstep
    exact hstep

theorem not_decided {log : List Notice} (launched : launch? log = some (.ok ()))
    (unwaited : wait? log = none) : ¬ Decided log := by
  simp [Decided, launched, unwaited, error?]

/-- The journal of a task decides whether there is an outcome, and then which. -/
theorem Told.outcome?_cases {t₀ t : Task} {log : List Notice} (h : Told t₀ log t)
    (new : t₀.IsNew) :
    t.outcome? = none ∧ ¬ Decided log ∨ ∃ r, t.outcome? = some r ∧ Judged t₀ log r := by
  obtain ⟨index, argv, input, fed, stdout, stderr, phase⟩ := t
  cases h with
  | ready state empty =>
    subst state empty
    cases new.phase
    exact .inl ⟨rfl, by simp [Decided, error?]⟩
  | transferring hphase hwork =>
    cases hphase
    exact .inl ⟨rfl, not_decided hwork.launched hwork.unwaited⟩
  | awaiting hphase hwork =>
    cases hphase
    exact .inl ⟨rfl, not_decided hwork.launched hwork.unwaited⟩
  | killing hphase hdying =>
    cases hphase
    exact .inl ⟨rfl, not_decided hdying.launched hdying.unwaited⟩
  | finished hphase judged =>
    cases hphase
    exact .inr ⟨_, rfl, judged⟩

theorem Flawless.firstFailure?_eq_none {log : List Notice} {code : Int} (h : Flawless log code)
    (program : Text) : firstFailure? program log = none := by
  have hfed : feedError? (feed? log) = none := by
    rcases h.fed with hf | hf
    · rw [hf]
      rfl
    · simp [hf, feedError?]
  simp [firstFailure?, transferFailure?, closingFailure?, hfed, h.launched, h.drained, h.waited,
    h.closed, error?]

theorem Judged.exited_iff {t₀ : Task} {log : List Notice} {r : Outcome} (h : Judged t₀ log r)
    (code : Int) : r.status = .exited code ↔ Flawless log code := by
  constructor
  · intro hr
    rcases h.status with ⟨-, hs⟩ | ⟨-, c, hs, hflawless⟩
    · rw [hr] at hs
      cases hc : (closingFailure? log .stdout).or (closingFailure? log .stderr) with
      | none =>
        rw [hc] at hs
        cases hs
      | some f =>
        rw [hc] at hs
        cases hs
    · rw [hr] at hs
      cases hf : firstFailure? (t₀.argv.headD []) log with
      | none =>
        rw [hf] at hs
        cases hs
        exact hflawless hf
      | some f =>
        rw [hf] at hs
        cases hs
  · intro hflawless
    rcases h.status with ⟨hk, -⟩ | ⟨-, c, hs, hsame⟩
    · rw [hflawless.unkilled] at hk
      cases hk
    · have hnone := hflawless.firstFailure?_eq_none (t₀.argv.headD [])
      have hcode := (hsame hnone).waited
      rw [hflawless.waited] at hcode
      cases hcode
      rw [hs, hnone]
      rfl

/-- **The outcome of a stage is what its journal tells**, whatever the program does, whatever the
sinks answer and whenever a kill arrives.  It is there once the program could not be started or was waited
for. -/
theorem verdict {t : Task} (new : t.IsNew) (hargv : t.argv ≠ []) (es : List (ω × Signal)) :
    let log := t.journal es
    ((t.after es).outcome?.isSome ↔ Decided log) ∧
      ∀ r, (t.after es).outcome? = some r →
        (∀ code, r.status = .exited code ↔ Flawless log code) ∧
        (wasKilled log = true → r.status =
          .barring ((closingFailure? log .stdout).or (closingFailure? log .stderr)) .stopped) ∧
        (wasKilled log = false → (¬ ∃ code, Flawless log code) →
          ∃ f, firstFailure? (t.argv.headD []) log = some f ∧ r.status = .failed f) ∧
        r.index = t.index ∧ r.argv = t.argv ∧
        ∀ s, r.lines s =
          if (t.drain s).sink.target? = none then Drain.accepted (output s log) else [] := by
  have hready : Told t [] t := .ready rfl rfl
  have htold : Told t (t.journal es) (t.after es) := hready.after new hargv rfl es
  rcases htold.outcome?_cases new with ⟨hnone, hund⟩ | ⟨r₀, hr₀, judged⟩
  · rw [hnone]
    exact ⟨iff_of_false nofun hund, nofun⟩
  refine ⟨iff_of_true (by rw [hr₀]; rfl) judged.decided, fun r hr => ?_⟩
  obtain rfl : r₀ = r := Option.some.inj (hr₀.symm.trans hr)
  refine ⟨judged.exited_iff, fun hkill => ?_, fun hkill hnot => ?_, judged.index, judged.argv,
    judged.lines⟩
  · rcases judged.status with ⟨-, hs⟩ | ⟨hk, -⟩
    · exact hs
    · rw [hkill] at hk
      cases hk
  · rcases judged.status with ⟨hk, -⟩ | ⟨-, code, hs, hflawless⟩
    · rw [hkill] at hk
      cases hk
    · cases hf : firstFailure? (t.argv.headD []) (t.journal es) with
      | none => exact absurd ⟨code, hflawless hf⟩ hnot
      | some f =>
        rw [hf] at hs
        exact ⟨f, rfl, hs⟩

/-- A program that prints a line, reads none of its input and ends with code 3. -/
def curt : Task := { index := 0, argv := [['p']], input := [['x']] }

/-- What happens to it. -/
def curtly : List (Host × Signal) :=
  [({}, .launched), ({}, .printed .stdout [104, 105, 10]), ({}, .fed (.error (.os .brokenPipe))),
    ({}, .ended .stdout), ({}, .ended .stderr), ({}, .exited (.ok 3))]

theorem verdict_curtly :
    curt.IsNew ∧ curt.argv ≠ [] ∧
      (curt.after curtly).outcome? =
        some { index := 0, argv := [['p']], status := .exited 3, stdout := [['h', 'i']] } ∧
      Flawless (curt.journal curtly) 3 := by
  have new : curt.IsNew := by
    refine ⟨rfl, rfl, fun s => ?_⟩
    cases s with
    | stdout => exact ⟨rfl, rfl, fun lines h => by cases h; rfl⟩
    | stderr => exact ⟨rfl, rfl, fun lines h => by cases h; rfl⟩
  have hr : (curt.after curtly).outcome? =
      some { index := 0, argv := [['p']], status := .exited 3, stdout := [['h', 'i']] } := by
    decide +kernel
  exact ⟨new, nofun, hr, (((verdict new nofun curtly).2 _ hr).1 3).1 rfl⟩

end Task

end Relay
