import Relay.Process.Pipe
import Relay.Task

/-!
# Transfers

While a stage's program works, it shares three pipes with the task: the task feeds its input through
one and drains its two outputs through the others.  The program reads and writes as it likes; it is
any machine that makes requests (`Program`).  The task's three activities run side by side, and each
lets go of its pipe when it ends, so that a program whose output has stopped being drained is
refused, as is the feeding of a program that has given up its input.

A party waits in one situation only: feeding while the input pipe is full, draining while an output
pipe is empty and the program can still write to it, the program while it reads an empty input that
is still fed or writes to a full output that is still drained.
-/

namespace Relay

/-! ## Programs -/

/-- What a program asks of its surroundings. -/
inductive Request where
  /-- Reads its input, at most so many bytes. -/
  | read (most : Nat)
  | write (s : Stream) (b : Bytes)
  | closeInput
  | closeOutput (s : Stream)
  | exit
  deriving DecidableEq, Repr

/-- What a program is told. -/
inductive Reply where
  /-- The bytes that were read; none at the end of the input. -/
  | read (b : Bytes)
  /-- How many bytes were written. -/
  | wrote (n : Nat)
  /-- The program itself, or the other side, has let go of the pipe. -/
  | refused
  | closed
  deriving DecidableEq, Repr

/-- A program: any machine that makes one request after another, whatever it is told. -/
structure Program (σ : Type) where
  requests : σ → Request → Prop
  /-- The states in which it may go on after a reply to a request. -/
  next : σ → Request → Reply → σ → Prop
  exists_request : ∀ x, ∃ q, requests x q
  exists_next : ∀ x q r, ∃ y, next x q r y

/-! ## Transfers -/

/-- The pipe of an output. -/
structure Outlet where
  pipe : Pipe
  /-- The program can still write to it. -/
  held : Bool := true

/-- A task and its program with the pipes between them. -/
structure Transfer (ω σ : Type) where
  task : Task
  world : ω
  /-- The input that was not written to its pipe yet. -/
  unsent : Bytes
  stdin : Pipe
  /-- The program can still read its input. -/
  reads : Bool := true
  stdout : Outlet
  stderr : Outlet
  /-- The state of the program, until it exits. -/
  program : Option σ

namespace Transfer

variable {ω σ : Type}

def outlet (t : Transfer ω σ) : Stream → Outlet
  | .stdout => t.stdout
  | .stderr => t.stderr

def onOutlet (t : Transfer ω σ) (s : Stream) (f : Outlet → Outlet) : Transfer ω σ :=
  match s with
  | .stdout => { t with stdout := f t.stdout }
  | .stderr => { t with stderr := f t.stderr }

/-- Whether a pipe takes nothing at the moment. -/
def isFull (p : Pipe) : Bool := p.room 1 = 0

def isDrained (t : Transfer ω σ) (s : Stream) : Bool := (t.task.drain s).result.isNone

def isFed (t : Transfer ω σ) : Bool := t.task.fed.isNone

/-- Everything is done: the program has exited and the three activities have ended. -/
def isFinal (t : Transfer ω σ) : Bool :=
  t.program.isNone && !t.isFed && !t.isDrained .stdout && !t.isDrained .stderr

/-! ### The program's requests -/

/-- The surroundings without anything that an exited program held. -/
def letGo (t : Transfer ω σ) : Transfer ω σ :=
  { t with
    reads := false
    stdout := { t.stdout with held := false }
    stderr := { t.stderr with held := false } }

/-- What becomes of a request; nothing while the program has to wait. -/
def serve (t : Transfer ω σ) : Request → Option (Reply × Transfer ω σ)
  | .read most =>
    if !t.reads then some (.refused, t)
    else if t.stdin.size = 0 then
      if t.isFed then none else some (.read [], t)
    else some (.read (t.stdin.bytes.take most), { t with stdin := t.stdin.drop most })
  | .write s b =>
    let o := t.outlet s
    if !o.held || !t.isDrained s then some (.refused, t)
    else if isFull o.pipe then none
    else
      let n := o.pipe.room b.length
      some (.wrote n, t.onOutlet s fun o => { o with pipe := o.pipe.push (b.take n) })
  | .closeInput => some (.closed, { t with reads := false })
  | .closeOutput s => some (.closed, t.onOutlet s ({ · with held := false }))
  | .exit => some (.closed, t.letGo)

/-- A program makes a request that is served, and goes on in some state unless it has exited. -/
inductive Serves (P : Program σ) (t : Transfer ω σ) (q : Request) : Transfer ω σ → Prop
  | intro {x y : σ} {r : Reply} {t' : Transfer ω σ} (running : t.program = some x)
      (requests : P.requests x q) (serve : t.serve q = some (r, t')) (next : P.next x q r y) :
      Serves P t q { t' with program := if q = .exit then none else some y }

/-! ### The task's activities -/

variable [FileStore ω]

def signal (t : Transfer ω σ) (s : Task.Signal) : Transfer ω σ :=
  let (task, world) := t.task.step t.world s
  { t with task, world }

/-- An activity of the task, and how many bytes beyond the first it moves at most. -/
inductive Activity where
  | feed (more : Nat)
  | drain (s : Stream) (more : Nat)
  deriving DecidableEq, Repr

/-- What an activity does next, unless it has ended or has to wait.  It ends with the input, or the
output, or when the program no longer reads. -/
def advance (t : Transfer ω σ) : Activity → Option (Transfer ω σ)
  | .feed more =>
    if !t.isFed then none
    else if t.unsent = [] then some (t.signal (.fed (.ok ())))
    else if !t.reads then some (t.signal (.fed (.error (.os .brokenPipe))))
    else if isFull t.stdin then none
    else
      let n := t.stdin.room (t.unsent.take (more + 1)).length
      some { t with unsent := t.unsent.drop n, stdin := t.stdin.push (t.unsent.take n) }
  | .drain s more =>
    let o := t.outlet s
    if !t.isDrained s then none
    else if o.pipe.size = 0 then
      if o.held then none else some (t.signal (.ended s))
    else
      let t := t.onOutlet s fun o => { o with pipe := o.pipe.drop (more + 1) }
      some (t.signal (.printed s (o.pipe.bytes.take (more + 1))))

/-- What an activity does next while the task transfers. -/
def work (t : Transfer ω σ) (a : Activity) : Option (Transfer ω σ) :=
  match t.task.phase with
  | .transferring => t.advance a
  | _ => none

/-- What happens to a transfer from outside. -/
inductive Mishap (ω : Type) where
  /-- Writing the input fails. -/
  | feeding (cause : IoError)
  /-- Reading an output fails. -/
  | draining (s : Stream) (cause : IoError)
  /-- The files of the world change. -/
  | elsewhere (w : ω)

/-- A transfer after a mishap; an activity that has ended does not fail any more. -/
def suffer (t : Transfer ω σ) : Mishap ω → Transfer ω σ
  | .feeding cause => if t.isFed then t.signal (.fed (.error cause)) else t
  | .draining s cause => if t.isDrained s then t.signal (.broken s cause) else t
  | .elsewhere world => { t with world }

inductive Step (P : Program σ) (t : Transfer ω σ) : Transfer ω σ → Prop
  | work {a : Activity} {t' : Transfer ω σ} (h : t.work a = some t') : Step P t t'
  | program {q : Request} {t' : Transfer ω σ} (h : t.Serves P q t') : Step P t t'
  | mishap (m : Mishap ω) : Step P t (t.suffer m)

/-- How many bytes a pipe can hold at once: one at least. -/
abbrev Capacity := { n : Nat // 0 < n }

def emptyPipe (c : Capacity) : Pipe := { limit := some c.1 }

/-- What a transfer begins with: a call with its input and sinks, the world, the capacities of the
pipes, and the state of the program. -/
structure Setup (ω σ : Type) where
  index : Nat
  program : Text
  args : List Text
  input : List Text
  stdoutSink : Sink
  stderrSink : Sink
  world : ω
  stdinCapacity : Capacity
  stdoutCapacity : Capacity
  stderrCapacity : Capacity
  state : σ

/-- The task of a call, before it is launched. -/
def Setup.task (u : Setup ω σ) : Task :=
  { index := u.index, argv := u.program :: u.args, input := u.input,
    stdout := { sink := u.stdoutSink }, stderr := { sink := u.stderrSink } }

/-- The transfer of a stage whose program has just been started. -/
def start (u : Setup ω σ) : Transfer ω σ :=
  let (task, world) := u.task.step u.world .launched
  { task, world
    unsent := Text.encodeLines u.input
    stdin := emptyPipe u.stdinCapacity
    stdout := { pipe := emptyPipe u.stdoutCapacity }
    stderr := { pipe := emptyPipe u.stderrCapacity }
    program := some u.state }

end Transfer

end Relay
