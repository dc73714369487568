import Relay.Shell.Grammar
import Relay.Shell.Switches
import Relay.Userland.Running

/-!
# The state of a shell

A shell holds variables, functions, a working directory and what it knows of the processes that it
started.  Its descriptors, and what signals do to it, belong to its process.

A `Job` is a computation of a shell.  It changes the shell's state and the system, may leave early,
and becomes the thread of the shell's process: what follows it is given to it.
-/

namespace Relay.Shell

open Userland

/-! ## The state -/

/-- How a redirection opens a file for writing. -/
def Direction.mode? : Direction → Option OpenMode
  | .output => some .truncate
  | .replace => some .truncate
  | .append => some .append
  | .update => some .update
  | _ => none

structure Variable where
  name : Bytes
  /-- A variable can be marked without having a value. -/
  value : Option Bytes := none
  /-- Programs get it as part of their environment. -/
  exported : Bool := false
  /-- Its value stays as it is. -/
  fixed : Bool := false

/-- A command that the shell did not wait for at first. -/
structure Entrusted where
  slot : Nat
  number : Nat
  /-- The numbers of all its processes. -/
  members : List Nat
  /-- The shell has waited for it since. -/
  awaited : Bool := false

/-- The variables after one of them was given back what it was before. -/
def restored (name : Bytes) (old : Option Variable) (vs : List Variable) : List Variable :=
  match old with
  | none => vs.filter (·.name ≠ name)
  | some v =>
    if vs.any (·.name = name) then vs.map fun w => if w.name = name then v else w
    else vs ++ [v]

structure State where
  /-- The number of the shell's process. -/
  self : Nat
  /-- The number by which the shell names itself, within subshells as well. -/
  root : Nat
  cwd : Location := []
  bindings : List Variable := []
  /-- The code of the last command. -/
  status : Nat := 0
  /-- The code of the last command whose output the simple command at work took. -/
  substituted : Nat := 0
  /-- The name under which the shell complains. -/
  title : Bytes
  parameters : List Bytes := []
  /-- The word that options are read from next, and where in the word before it the next letter
  stands. -/
  optionPlace : Nat × Option Nat := (1, none)
  /-- The line of the current command. -/
  line : Nat := 0
  lineRead : Nat := 0
  /-- The command of the shell itself that is at work, which complaints name. -/
  context : Bytes := []
  switches : Switches := {}
  /-- The current command may fail: something depends on its success. -/
  tested : Bool := false
  functions : List (Bytes × Command) := []
  /-- For each function at work, the variables that it hides, and the switches if it hides them. -/
  hidden : List (List (Bytes × Option Variable) × Option Switches) := []
  /-- Names that stand for other texts. -/
  aliases : List (Bytes × Bytes) := []
  /-- The paths of programs that were found. -/
  remembered : List (Bytes × Bytes) := []
  /-- What is done when a signal arrives, and, under zero, when the shell ends. -/
  handlers : List (Nat × Bytes) := []
  /-- The signals that did nothing from the start, of which the shell cannot change that. -/
  ignored : List Nat := []
  /-- The codes of the commands that were not waited for at first and are over, by number. -/
  finished : List (Nat × Nat) := []
  /-- The commands that were not waited for at first and are not forgotten, the latest one first. -/
  entrusted : List Entrusted := []
  /-- The number of the last process of the latest command that was not waited for. -/
  latest : Option Nat := none
  /-- The limits of the system that were set, by letter; the greatest ones are marked. -/
  limits : List ((Char × Bool) × Bytes) := []
  /-- How many loops enclose the current command. -/
  loops : Nat := 0
  /-- Nothing follows the current command in the shell's process. -/
  isLast : Bool := false

/-- Why a computation leaves early. -/
inductive Leave where
  | exits (code : Nat)
  | breaks (loops : Nat)
  /-- Leaves some enclosing loops and goes on with the next round of the last of them. -/
  | continues (loops : Nat)
  /-- Leaves a function or a script. -/
  | returns (code : Nat)
  /-- Gives up the command at work: a common command of the shell then fails, and anything else ends
  the shell. -/
  | fails

/-- A computation of a shell: the thread that does it and goes on with its answer. -/
def Job (α : Type) : Type := State → (Except Leave α → State → Thread) → Thread

namespace Job

instance : Monad Job where
  pure a := fun s next => next (.ok a) s
  bind job f := fun s next => job s fun r s =>
    match r with
    | .ok a => f a s next
    | .error leave => next (.error leave) s

instance {α : Type} : Inhabited (Job α) := ⟨fun _ _ => .ended (.exited 255)⟩

def state : Job State := fun s next => next (.ok s) s

def change (f : State → State) : Job Unit := fun s next => next (.ok ()) (f s)

def leave {α : Type} (l : Leave) : Job α := fun s next => next (.error l) s

/-- Does a computation and answers also if it leaves early. -/
def caught {α : Type} (job : Job α) : Job (Except Leave α) := fun s next =>
  job s fun r s => next (.ok r) s

/-! ## The system -/

def system : Job System := fun s next => .look fun y => next (.ok y) s

/-- Changes the system and answers something about it. -/
def onSystem {α : Type} (f : System → α × System) : Job α := fun s next => .look fun y =>
  let (a, y) := f y
  .put y (next (.ok a) s)

/-- Changes what belongs to the shell's process. -/
def onProcess (f : System → Nat → System) : Job Unit := fun s next => .look fun y =>
  .put (f y s.self) (next (.ok ()) s)

def files : Job FileTree := do return (← system).files

/-- Waits until something holds. -/
def await (ready : System → Bool) : Job Unit := fun s next => .wait ready (next (.ok ()) s)

/-- Lets some microseconds pass. -/
def rest (time : Nat) : Job Unit := fun s next => .rest time (next (.ok ()) s)

def become {α : Type} (thread : Thread) : Job α := fun _ _ => thread

/-- Sets the code of the last command. -/
def setStatus (code : Nat) : Job Unit := change fun s => { s with status := code }

/-! ## Descriptors -/

def channel? (descriptor : Nat) : Job (Option Channel) := do
  return (← system).channel? (← state).self descriptor

/-- Makes a descriptor lead somewhere, or nowhere. -/
def connect (descriptor : Nat) (target : Option Channel) : Job Unit :=
  onProcess fun y self => y.connect self descriptor target

/-- Adds a pipe that the shell holds both ends of; answers its number. -/
def addPipe : Job Nat := do
  let self := (← state).self
  onSystem fun y =>
    let (n, y) := y.addPipe {}
    (n, (y.keep self (.source n)).keep self (.sink n))

/-- Lets go of ends of pipes that the shell holds without a descriptor. -/
def letGo (cs : List Channel) : Job Unit := onProcess fun y self => y.letGo self cs

/-- Writes bytes to a channel; answers why they are not taken, if they are not. -/
def writeTo (c : Option Channel) (b : Bytes) : Job (Option Errno) := fun s next =>
  emitTo s.self c b fun refusal => next (.ok refusal) s

/-- Writes bytes to a descriptor; answers why they are not taken, if they are not. -/
def write (descriptor : Nat) (b : Bytes) : Job (Option Errno) := fun s next =>
  emit s.self descriptor b fun refusal => next (.ok refusal) s

/-- Waits until something can be read from a channel, and takes as much of it as asked for; answers
it and whether more can come. -/
def take (c : Option Channel) (part : Bytes → Bytes) : Job (Bytes × Bool) := do
  await fun y => y.isReadable c
  onSystem fun y =>
    let supply := y.supply c
    let taken := part supply.bytes
    ((taken, supply.more || taken.length < supply.bytes.length), y.consume c taken.length)

/-- Reads a channel to its end, behind parts that were read before, latest part first; at most `n`
parts are read. -/
def takeAll (c : Option Channel) : Nat → List Bytes → Job Bytes
  | 0, parts => return parts.reverse.flatten
  | n + 1, parts => do
    let (b, more) ← take c id
    if more then takeAll c n (b :: parts) else return (b :: parts).reverse.flatten

/-! ## Complaints -/

/-- Prints a complaint with the shell's name, the line, and the command of the shell at work. -/
def complain (message : Bytes) : Job Unit := do
  let s ← state
  let context := if s.context.isEmpty then [] else s.context ++ ascii ": "
  let _ ← write 2 (s.title ++ ascii ": " ++ decimal s.line ++ ascii ": " ++ context ++ message
    ++ [Text.lineFeed])

/-- Complains and gives up the command at work. -/
def fault {α : Type} (message : Bytes) : Job α := do
  complain message
  setStatus 2
  leave .fails

/-! ## Parts of the state that a computation changes for itself -/

/-- Does a computation with a changed state, and takes back the change at its end. -/
def during {α : Type} (f : State → State) (back : State → State → State) (job : Job α) :
    Job α := do
  let old ← state
  change f
  let r ← caught job
  change (back old)
  match r with
  | .ok a => return a
  | .error l => leave l

/-- Does a computation for a command of the shell itself. -/
def onBehalfOf {α : Type} (command : Bytes) (job : Job α) : Job α :=
  during (fun s => { s with context := command }) (fun old s => { s with context := old.context })
    job

/-- Does a computation within a loop. -/
def looping (job : Job Unit) : Job Unit :=
  during (fun s => { s with loops := s.loops + 1 }) (fun old s => { s with loops := old.loops }) job

/-- Does a computation on whose success something depends. -/
def tested (job : Job Unit) : Job Unit :=
  during (fun s => { s with tested := true }) (fun old s => { s with tested := old.tested }) job

/-- Does a computation that something follows. -/
def followed {α : Type} (job : Job α) : Job α :=
  during (fun s => { s with isLast := false }) (fun old s => { s with isLast := old.isLast }) job

/-- Does a computation whose failure ends a strict shell. -/
def checked (job : Job Unit) : Job Unit := do
  job
  let s ← state
  if s.switches.strict && !s.tested && s.status ≠ 0 then leave (.exits s.status)

/-- Does a computation that can be left by a return. -/
def returning (job : Job Unit) : Job Unit := do
  match ← caught job with
  | .ok () => return ()
  | .error (.returns code) => setStatus code
  | .error l => leave l

/-! ## Other processes -/

/-- How a shell's process ends. -/
def endingOf (r : Except Leave Unit) (s : State) : Ending :=
  match r with
  | .error (.exits code) => .exited (code % 256)
  | .error (.returns code) => .exited (code % 256)
  | .error .fails => .exited 2
  | _ => .exited (s.status % 256)

/-- Starts a process that does a computation, and answers its number.  Of what is done when signals
arrive, nothing is left there but what is done for signals that do nothing. -/
def fork (job : Job Unit) : Job Nat := fun s next =>
  let child (number : Nat) : Thread :=
    .change (fun y => y.onProcess number fun p => { p with caught := [] }) <|
      job { s with self := number, entrusted := [], finished := [], isLast := true
                   handlers := s.handlers.filter (·.2.isEmpty) }
        fun r s => .ended (endingOf r s)
  .spawn child fun number => next (.ok number) s

/-- Waits for the end of a process and forgets it. -/
def awaitEnd (number : Nat) : Job Ending := do
  await fun y => (y.ending? number).isSome
  onSystem fun y => ((y.ending? number).getD (.exited 127), y.forget number)

end Job

end Relay.Shell
