import Relay.Outcome
import Relay.Settings.Basic
import Relay.Sink

/-!
# Stage tasks

A task brings one stage from its launch to its outcome.  What its program does, how its output
arrives in chunks and when it is killed are events from outside; `Task.step` is what the task makes
of them.

While the program works the task feeds it its input and drains both outputs, each into its own sink;
the three activities are independent and end one by one.  When all have ended the task waits for the
program.  A kill may be taken in either phase; a line that is on its way into a redirect file then
may have arrived there in part (`Cut`).  The program is killed, and the task still waits for it.  At
last both sinks are finished, and the outcome tells the first failure: launching, feeding, the
standard output, the error output, waiting, finishing the standard output, finishing the error
output.
-/

namespace Relay

/-! ## Draining -/

/-- One output of a program on its way into a sink. -/
structure Drain where
  sink : Sink
  /-- The bytes of a line that has not ended yet. -/
  unfinished : Bytes := []
  /-- How draining ended, once it has. -/
  result : Option (Except IoError Unit) := none

/-- A line that is on its way into a sink when a kill arrives. -/
structure Cut where
  /-- The chunk that completed the line, or none if the output came to its end behind it. -/
  chunk : Option Bytes
  /-- How many bytes of the line and its line feed were taken in. -/
  taken : Nat

namespace Drain

variable {ω : Type} [FileStore ω]

/-- Takes lines into the sink; a line that the sink refuses ends draining. -/
def takeLines (d : Drain) (w : ω) (lines : List Text) : Drain × ω :=
  match d.sink.pushAll w lines with
  | (.ok (), sink, w) => ({ d with sink }, w)
  | (.error e, sink, w) => ({ d with sink, result := some (.error e) }, w)

/-- Takes a chunk of output: the lines that it completes. -/
def take (d : Drain) (w : ω) (b : Bytes) : Drain × ω :=
  if d.result.isSome then (d, w)
  else
    let (finished, rest) := Text.cutLines (d.unfinished ++ b)
    { d with unfinished := rest }.takeLines w (finished.map Text.decodeLine)

/-- The line that a drain takes in next, given the chunk that completes it; without a chunk the
output came to its end. -/
def nextLine? (d : Drain) : Option Bytes → Option Text
  | some b => ((Text.cutLines (d.unfinished ++ b)).1.map Text.decodeLine).head?
  | none => (Text.decodeRest d.unfinished).head?

/-- Notes that draining ended, unless it had before. -/
def settle (d : Drain) (r : Except IoError Unit) : Drain :=
  { d with result := some (d.result.getD r) }

/-- Takes the end of the output: an unfinished line counts if it is not empty. -/
def close (d : Drain) (w : ω) : Drain × ω :=
  if d.result.isSome then (d, w)
  else
    let (d, w) := { d with unfinished := [] }.takeLines w (Text.decodeRest d.unfinished)
    (d.settle (.ok ()), w)

/-- Takes in what a kill leaves of the line that is on its way, if there is one. -/
def sever (d : Drain) (w : ω) (cut : Option Cut) : Drain × ω :=
  match cut.bind fun c => (d.nextLine? c.chunk).map fun line => (line, c.taken) with
  | none => (d, w)
  | some (line, taken) =>
    if d.result.isSome then (d, w)
    else
      let (sink, w) := d.sink.pushPart w line taken
      ({ d with sink }, w)

end Drain

/-! ## Tasks -/

/-- The outputs of a program. -/
inductive Stream where
  | stdout
  | stderr
  deriving DecidableEq, Repr

namespace Task

/-- What happens to a task from outside. -/
inductive Signal where
  | launched
  /-- The program could not be started. -/
  | refused (cause : IoError)
  /-- All input was written, or writing it failed. -/
  | fed (result : Except IoError Unit)
  | printed (s : Stream) (b : Bytes)
  /-- An output came to its end. -/
  | ended (s : Stream)
  /-- Reading an output failed. -/
  | broken (s : Stream) (cause : IoError)
  /-- Waiting for the program gave its code, or failed. -/
  | exited (waited : Except IoError Int)
  /-- The task took a kill, with a line on its way into either sink or none. -/
  | killed (out err : Option Cut := none)

/-- How far a task is. -/
inductive Phase where
  /-- The program is not started yet. -/
  | ready
  /-- Input and outputs are under way. -/
  | transferring
  /-- Input and outputs are done, with this result; the program has not been waited for. -/
  | awaiting (transferred : Except IoError Unit)
  /-- A kill was taken and the program killed; it has not been waited for. -/
  | killing
  | over (outcome : Outcome)

end Task

/-- A stage's task. -/
structure Task where
  /-- The stage's position in the pipeline. -/
  index : Nat
  argv : List Text
  /-- The lines that the program reads. -/
  input : List Text := []
  /-- How feeding ended, once it has. -/
  fed : Option (Except IoError Unit) := none
  stdout : Drain := { sink := .empty }
  stderr : Drain := { sink := .empty }
  phase : Task.Phase := .ready

namespace Task

variable {ω : Type} [FileStore ω]

/-- The outcome, once the task is over. -/
def outcome? (t : Task) : Option Outcome :=
  match t.phase with
  | .over o => some o
  | _ => none

def isOver (t : Task) : Bool := t.outcome?.isSome

/-- Whether the task has started a program and not waited for it. -/
def hasProgram (t : Task) : Bool :=
  match t.phase with
  | .transferring => true
  | .awaiting _ => true
  | .killing => true
  | _ => false

/-- A status after a sink was finished: a failure to finish makes the stage fail, unless it failed
before. -/
def closed {α : Type} (status : Status) (r : Except IoError α) : Status :=
  match r with
  | .error e => if status.isFailed then status else .failed (.closing e)
  | .ok _ => status

/-- The lines that a finished sink kept. -/
def kept (r : Except IoError (List Text)) : List Text :=
  match r with
  | .ok lines => lines
  | .error _ => []

/-- Finishes both sinks and ends the task. -/
def conclude (t : Task) (w : ω) (status : Status) : Task × ω :=
  let (out, w) := t.stdout.sink.finish w
  let (err, w) := t.stderr.sink.finish w
  let outcome : Outcome :=
    { index := t.index, argv := t.argv, status := closed (closed status out) err,
      stdout := kept out, stderr := kept err }
  ({ t with phase := .over outcome }, w)

/-- Ends a task without a program; its sinks are given up. -/
def giveUp (t : Task) (w : ω) : Task × ω :=
  let w := t.stderr.sink.abandon (t.stdout.sink.abandon w)
  let outcome : Outcome := { index := t.index, argv := t.argv, status := .failed .noProgram }
  ({ t with phase := .over outcome }, w)

def firstError : List (Except IoError Unit) → Except IoError Unit
  | [] => .ok ()
  | .error e :: _ => .error e
  | .ok () :: rest => firstError rest

/-- Goes on to waiting once all three activities have ended. -/
def joined (t : Task) : Task :=
  match t.fed, t.stdout.result, t.stderr.result with
  | some fed, some out, some err => { t with phase := .awaiting (firstError [fed, out, err]) }
  | _, _, _ => t

/-- How feeding counts: a program that reads no further is no failure. -/
def feedResult : Except IoError Unit → Except IoError Unit
  | .error (.os code) => if code = .brokenPipe then .ok () else .error (.os code)
  | r => r

def drain (t : Task) : Stream → Drain
  | .stdout => t.stdout
  | .stderr => t.stderr

def onDrain (t : Task) (w : ω) (s : Stream) (f : Drain → ω → Drain × ω) : Task × ω :=
  match s with
  | .stdout =>
    let (d, w) := f t.stdout w
    ({ t with stdout := d }, w)
  | .stderr =>
    let (d, w) := f t.stderr w
    ({ t with stderr := d }, w)

/-- The status that a program's end gives. -/
def statusOf (program : Text) (transferred : Except IoError Unit) (waited : Except IoError Int) :
    Status :=
  match transferred, waited with
  | .error e, _ => .failed (.transfer program e)
  | .ok (), .error e => .failed (.waiting program e)
  | .ok (), .ok code => .exited code

/-- What a task makes of a signal; signals that do not belong to its phase change nothing. -/
def step (t : Task) (w : ω) (signal : Signal) : Task × ω :=
  match t.phase, signal with
  | .ready, .launched =>
    match t.argv with
    | [] => t.giveUp w
    | _ :: _ =>
      let fed := if t.input.isEmpty then some (.ok ()) else none
      ({ t with fed, phase := .transferring }, w)
  | .ready, .refused cause =>
    match t.argv with
    | [] => t.giveUp w
    | program :: _ => t.conclude w (.failed (.launch program cause))
  | .transferring, .fed r =>
    ({ t with fed := some (t.fed.getD (feedResult r)) }.joined, w)
  | .transferring, .printed s b =>
    let (t, w) := t.onDrain w s fun d w => d.take w b
    (t.joined, w)
  | .transferring, .ended s =>
    let (t, w) := t.onDrain w s fun d w => d.close w
    (t.joined, w)
  | .transferring, .broken s cause =>
    let (t, w) := t.onDrain w s fun d w => (d.settle (.error cause), w)
    (t.joined, w)
  | .awaiting transferred, .exited waited =>
    t.conclude w (statusOf (t.argv.headD []) transferred waited)
  | .transferring, .killed out err =>
    let (t, w) := t.onDrain w .stdout fun d w => d.sever w out
    let (t, w) := t.onDrain w .stderr fun d w => d.sever w err
    ({ t with phase := .killing }, w)
  | .awaiting _, .killed _ _ => ({ t with phase := .killing }, w)
  -- the program may end in any way, and waiting for it may fail
  | .killing, .exited _ => t.conclude w .stopped
  | _, _ => (t, w)

def steps (t : Task) (w : ω) : List Signal → Task × ω
  | [] => (t, w)
  | signal :: rest =>
    let (t, w) := t.step w signal
    t.steps w rest

end Task

/-! ## Workers -/

/-- Tells those who wait that a stage of some run is over. -/
structure Completion where
  /-- The run that the stage belongs to. -/
  generation : Nat
  outcome : Outcome
  deriving DecidableEq, Repr

/-- A task at work for a run.  It reports its outcome once, and hands it once to whoever stops
it. -/
structure Worker where
  generation : Nat
  task : Task
  killSent : Bool := false
  /-- The completion was sent. -/
  reported : Bool := false
  /-- The outcome was handed to whoever stopped the task. -/
  collected : Bool := false

namespace Worker

variable {ω : Type} [FileStore ω]

/-- Whether a signal can arrive: a kill must have been sent. -/
def admits (k : Worker) : Task.Signal → Bool
  | .killed _ _ => k.killSent
  | _ => true

/-- Lets a signal arrive. -/
def step (k : Worker) (w : ω) (signal : Task.Signal) : Worker × ω :=
  if k.admits signal then
    let (task, w) := k.task.step w signal
    ({ k with task }, w)
  else (k, w)

/-- Sends the completion, once the task is over. -/
def report (k : Worker) : Option Completion × Worker :=
  match k.task.outcome?, k.reported with
  | some outcome, false =>
    (some { generation := k.generation, outcome }, { k with reported := true })
  | _, _ => (none, k)

/-- Whether the worker has done everything: its task is over and the completion sent. -/
def isFinished (k : Worker) : Bool := k.task.isOver && k.reported

def kill (k : Worker) : Worker := { k with killSent := true }

/-- Hands the outcome of a finished worker to whoever stopped it, the first time. -/
def collect (k : Worker) : Option Outcome × Worker :=
  if k.isFinished && !k.collected then (k.task.outcome?, { k with collected := true })
  else (none, k)

end Worker

end Relay
