import Relay.Process.System

/-!
# Threads

A `Thread` is what a process will do, as data: it looks at the system and changes it, lets time
pass, waits for something, and starts further processes.  A `Machine` is a system together with the
threads of its processes.  It lets the processes take turns in the order in which their times come,
so that what they do to each other depends on the threads alone.
-/

namespace Relay

/-- What a process will do. -/
inductive Thread where
  | ended (ending : Ending)
  /-- It goes on with what it sees. -/
  | look (next : System → Thread)
  /-- It leaves the system in another state. -/
  | put (system : System) (next : Thread)
  /-- It lets some microseconds pass. -/
  | rest (time : Nat) (next : Thread)
  /-- It goes on as soon as something holds. -/
  | wait (ready : System → Bool) (next : Thread)
  /-- It starts a process, whose number both are told. -/
  | spawn (child next : Nat → Thread)

namespace Thread

def change (f : System → System) (next : Thread) : Thread := .look fun s => .put (f s) next

/-- The microseconds for which somebody who starts a process is busy. -/
def spawnTime : Nat := 100

/-- The microseconds after which a new process does its first step. -/
def birthTime : Nat := 300

/-- The microseconds that somebody takes to go on who had to wait. -/
def wakeTime : Nat := 50

end Thread

/-! ## Machines -/

/-- A process whose turn comes at some time. -/
structure Slot where
  number : Nat
  due : Nat
  thread : Thread

/-- A system and the threads of its processes. -/
structure Machine where
  system : System
  slots : List Slot := []

namespace Slot

/-- Whether a process waits for something. -/
def waits (slot : Slot) : Bool :=
  match slot.thread with
  | .wait _ _ => true
  | _ => false

/-- Lets a process go on that waited for something that holds now. -/
def awaken (s : System) (slot : Slot) : Slot :=
  match slot.thread with
  | .wait ready next =>
    if ready s then { slot with due := max slot.due (s.now + Thread.wakeTime), thread := next }
    else slot
  | _ => slot

/-- Whether a process can take its turn. -/
def canGoOn (s : System) (slot : Slot) : Bool :=
  !slot.waits && (s.process? slot.number).all fun p => !p.stopped

end Slot

/-- The slot whose turn comes first; of several, the first one. -/
def earliest? : List Slot → Option Slot
  | [] => none
  | slot :: rest =>
    match earliest? rest with
    | none => some slot
    | some other => if other.due < slot.due then some other else some slot

namespace Machine

/-- Lets a process work until it ends, rests, waits or starts a process; answers the system and the
slots that stand for the process from then on. -/
def turn (number : Nat) (s : System) : Thread → System × List Slot
  | .ended ending => (s.finish number ending, [])
  | .look next => turn number s (next s)
  | .put s next => if (s.ending? number).isSome then (s, []) else turn number s next
  | .rest time next => (s, [⟨number, s.now + time, next⟩])
  | .wait ready next =>
    if ready s then turn number s next else (s, [⟨number, s.now, .wait ready next⟩])
  | .spawn child next =>
    let (born, s) := s.addChild number
    (s, [⟨number, s.now + Thread.spawnTime, next born⟩,
      ⟨born, s.now + Thread.birthTime, child born⟩])

/-- Lets the process whose turn comes first work; nothing happens if none can. -/
def step (m : Machine) : Machine :=
  match earliest? (m.slots.filter (·.canGoOn m.system)) with
  | none => m
  | some slot =>
    let (s, slots) := turn slot.number (m.system.beginTurn slot.number slot.due) slot.thread
    let others := m.slots.filter fun other => other.number ≠ slot.number
    let alive := (others ++ slots).filter fun slot => (s.ending? slot.number).isNone
    { system := s, slots := alive.map (·.awaken s) }

/-- When the next process takes its turn, if any does. -/
def nextDue? (m : Machine) : Option Nat :=
  (earliest? (m.slots.filter (·.canGoOn m.system))).map (·.due)

/-- Lets the processes work whose turn comes up to some time; at most `n` turns are taken. -/
def run (horizon : Nat) : Nat → Machine → Machine
  | 0, m => m
  | n + 1, m =>
    match m.nextDue? with
    | none => m
    | some due => if horizon < due then m else run horizon n m.step

end Machine

/-! ## Executions -/

/-- What happened in one stretch of a program's work. -/
structure Stretch where
  files : FileTree
  out : Bytes := []
  err : Bytes := []
  /-- Whether something may still be printed on the standard output. -/
  outOpen : Bool := true
  /-- Whether something may still be printed on the error output. -/
  errOpen : Bool := true

/-- What processes do that go on after the program that started them: between their turns they rest,
and only the files show what they did. -/
inductive Aftermath where
  /-- Nobody does anything any more. -/
  | over (files : FileTree)
  /-- They go on at some time, with the files as they are then. -/
  | resting (files : FileTree) (due : Nat) (resume : FileTree → Aftermath)

/-- What a program does, seen from outside.  It works in stretches: within one it reads and changes
files and prints; between two it rests for a while, and other things may happen. -/
inductive Execution where
  /-- It works and ends; what it started may go on. -/
  | ended (stretch : Stretch) (ending : Ending) (aftermath : Aftermath)
  /-- It works, rests up to some time and goes on with the files as they are then, unless it is
  killed before. -/
  | resting (stretch : Stretch) (due : Nat) (resume : FileTree → Execution)
    (kill : FileTree → Aftermath)

/-- The microseconds of a rest that has no end. -/
def forever : Nat := Nat.pow 10 18

namespace Machine

/-- The number of the process that a machine was made for. -/
def mainNumber : Nat := 4242

/-- The pipe that the main process reads. -/
def inputPipe : Nat := 0

/-- The pipe that the main process prints to. -/
def outputPipe : Nat := 1

/-- The pipe that the main process complains to. -/
def errorPipe : Nat := 2

/-- The machine of one process.  Its input is at its end behind some bytes, or a device that holds
nothing; both of its outputs are read by the surroundings, which count as a process. -/
def boot (files : FileTree) (input : Option Bytes) (thread : Thread) : Machine :=
  let null : OpenFile := { entry := .device .null, reads := true, writes := false }
  let (source, files) := match input with
    | some _ => (Channel.source inputPipe, files)
    | none =>
      let (descriptor, files) := files.addOpen null
      (Channel.file descriptor, files)
  let pipes := [(inputPipe, Pipe.holding (input.getD [])), (outputPipe, Pipe.holding []),
    (errorPipe, Pipe.holding [])]
  let surroundings : Process :=
    { number := mainNumber - 1, parent := 0
      table := [(0, .source outputPipe), (1, .source errorPipe)] }
  let main : Process :=
    { number := mainNumber, parent := mainNumber - 1
      table := [(0, source), (1, .sink outputPipe), (2, .sink errorPipe)] }
  { system :=
      { files, pipes, nextPipe := 3, processes := [surroundings, main]
        nextNumber := mainNumber + 1 }
    slots := [⟨mainNumber, files.clock, thread⟩] }

/-- The files as the surroundings see them. -/
def visibleFiles (m : Machine) : FileTree :=
  { m.system.files with mask := ({} : FileTree).mask }

/-- What happened since the output was last taken. -/
def stretch (m : Machine) : Stretch :=
  let printed (pipe : Nat) : Bytes := ((m.system.pipe? pipe).map (·.bytes)).getD []
  { files := m.visibleFiles, out := printed outputPipe, err := printed errorPipe
    outOpen := m.system.isHeld (.sink outputPipe), errOpen := m.system.isHeld (.sink errorPipe) }

def takeOutput (m : Machine) : Machine :=
  let empty (_ : Pipe) : Pipe := Pipe.holding []
  { m with system := (m.system.onPipe outputPipe empty).onPipe errorPipe empty }

/-- How the main process ended, if nobody can print any longer. -/
def ending? (m : Machine) : Option Ending :=
  let open? := m.system.isHeld (.sink outputPipe) || m.system.isHeld (.sink errorPipe)
  if open? then none else (m.system.process? mainNumber).bind (·.ending)

/-- How many microseconds pass at most before the surroundings see what happened. -/
def sliceTime : Nat := 10000

/-- How many turns are taken at most before the surroundings see what happened. -/
def sliceTurns : Nat := 100000

/-- A machine that goes on at some time with the files as they are then. -/
def meet (m : Machine) (files : FileTree) (due : Nat) : Machine :=
  { m with system := { m.system with files := { files with clock := max files.clock due } } }

/-- A machine whose main process is killed, and nobody reads what the others print. -/
def abandon (m : Machine) : Machine :=
  let s := m.system.finish mainNumber (.killed 9)
  let s := s.rearrange (mainNumber - 1) fun p => { p with table := [] }
  let alive := m.slots.filter fun slot => (s.ending? slot.number).isNone
  { system := s, slots := alive.map (·.awaken s) }

/-- What the processes of a machine do whose main process is gone; at most `n` times the surroundings
see what happened. -/
def aftermath : Nat → Machine → Aftermath
  | 0, m => .over m.visibleFiles
  | n + 1, m =>
    match m.nextDue? with
    | none => .over m.visibleFiles
    | some due =>
      .resting m.visibleFiles due fun files => aftermath n ((m.meet files due).run due sliceTurns)

/-- A machine's work, seen from outside; at most `n` times the surroundings see what happened. -/
def execution : Nat → Machine → Execution
  | 0, m => .ended m.stretch (.exited 2) (.over m.visibleFiles)
  | n + 1, m =>
    let m := m.run (m.system.now + sliceTime) sliceTurns
    match m.ending? with
    | some ending => .ended m.stretch ending (m.aftermath n)
    | none =>
      let due := m.nextDue?.getD (m.system.now + forever)
      .resting m.stretch due (fun files => execution n (m.takeOutput.meet files due))
        fun files => (m.meet files 0).abandon.aftermath n

/-- How many times the surroundings see what happened at most. -/
def sliceLimit : Nat := 1000000

end Machine

end Relay
