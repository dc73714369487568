import Relay.Files.Tree
import Relay.Process.Pipe

/-!
# Processes and what they share

A process has a number, a table of descriptors and a say in what signals do to it.  A descriptor
leads to one end of a pipe or to an open file.  The `System` holds all processes, the pipes between
them and the files, whose clock tells the time.

Several processes can hold the same end of a pipe, or the same open file.  When the last of them
lets go of a file it is closed; a pipe without writers comes to its end, and one without readers
refuses what is written.
-/

namespace Relay

/-- How a program ends. -/
inductive Ending where
  | exited (code : Nat)
  /-- The program died by a signal. -/
  | killed (signal : Nat)
  deriving DecidableEq, Repr

def Ending.code : Ending → Nat
  | .exited code => code
  | .killed signal => 128 + signal

/-- Where a descriptor leads. -/
inductive Channel where
  | source (pipe : Nat)
  /-- The end of a pipe that is written. -/
  | sink (pipe : Nat)
  /-- An open file, by its descriptor in the file tree. -/
  | file (descriptor : Nat)
  deriving DecidableEq, Repr

/-- Descriptors and where they lead. -/
abbrev Channels := List (Nat × Channel)

structure Process where
  number : Nat
  /-- The process that started this one. -/
  parent : Nat
  table : Channels := []
  /-- Where descriptors led that the process takes back later, in the order of their changes, latest
  group of changes first. -/
  aside : List (List (Nat × Option Channel)) := []
  /-- What the process holds without a descriptor. -/
  kept : List Channel := []
  /-- The permissions that files lack which the process makes. -/
  mask : Nat := 18
  /-- The signals that do nothing. -/
  deaf : List Nat := []
  /-- The signals that do not arrive, and those of them that would have arrived. -/
  held : List Nat := []
  pending : List Nat := []
  /-- The signals that the process itself deals with. -/
  caught : List Nat := []
  /-- Those of them that arrived, in the order of their numbers. -/
  arrived : List Nat := []
  /-- The process does nothing until it is told to go on. -/
  stopped : Bool := false
  ending : Option Ending := none
  deriving Repr

/-- Where the input of a program comes from. -/
inductive InputOrigin where
  | pipe
  /-- A device, which has no end to be found out. -/
  | device
  /-- A device that gives zeros without end; a program is shown a part of them. -/
  | endless
  /-- A regular file of some number and size.  A program can give back what it took too much of. -/
  | file (number size : Nat)
  /-- Nothing that can be read, for some reason. -/
  | unreadable (reason : Errno)
  deriving DecidableEq, Repr

/-- What can be read. -/
structure Supply where
  bytes : Bytes := []
  origin : InputOrigin
  /-- Further bytes may come. -/
  more : Bool := false
  deriving Repr

/-- What became of some bytes that were to be written. -/
inductive Written where
  | whole
  /-- There was no room for all of them; the rest is left. -/
  | partly (rest : Bytes)
  | refused (reason : Errno)
  deriving DecidableEq, Repr

/-- All processes and what they share. -/
structure System where
  files : FileTree := {}
  pipes : List (Nat × Pipe) := []
  nextPipe : Nat := 0
  processes : List Process := []
  nextNumber : Nat := 1
  deriving Repr

namespace Process

def holds (p : Process) (c : Channel) : Bool :=
  p.table.any (·.2 = c) || p.kept.contains c || p.aside.any fun group => group.any (·.2 = some c)

def channels (p : Process) : List Channel :=
  p.table.map (·.2) ++ p.aside.flatten.filterMap (·.2) ++ p.kept

/-- A process one of whose descriptors leads somewhere else, or nowhere. -/
def connect (p : Process) (descriptor : Nat) (target : Option Channel) : Process :=
  let others := p.table.filter (·.1 ≠ descriptor)
  { p with table := others ++ (target.map fun c => (descriptor, c)).toList }

def isOver (p : Process) : Bool := p.ending.isSome

/-- A process that some signal reached which it deals with itself. -/
def receive (p : Process) (signal : Nat) : Process :=
  if p.arrived.contains signal then p
  else
    { p with arrived := p.arrived.filter (· < signal) ++ signal :: p.arrived.filter (signal < ·) }

end Process

/-- Where a reader of a file without end is cut off. -/
def endlessPart : Nat := 65536

namespace System

/-! ## Numbers of signals -/

def childSignal : Nat := 17

/-- The signal that nobody reads what was written. -/
def pipeSignal : Nat := 13

/-- Whether a process survives a signal that it did not prepare for. -/
def isHarmless (signal : Nat) : Bool := [0, 17, 18, 23, 28].contains signal

def isStop (signal : Nat) : Bool := [19, 20, 21, 22].contains signal

/-! ## Processes -/

def process? (s : System) (number : Nat) : Option Process :=
  s.processes.find? (·.number = number)

def onProcess (s : System) (number : Nat) (f : Process → Process) : System :=
  { s with processes := s.processes.map fun p => if p.number = number then f p else p }

/-- The time in microseconds. -/
def now (s : System) : Nat := s.files.clock

/-- Begins the turn of a process at some time, or at once if the time is over. -/
def beginTurn (s : System) (number time : Nat) : System :=
  let mask := ((s.process? number).map (·.mask)).getD s.files.mask
  { s with files := { s.files with clock := max s.files.clock time, mask } }

/-- Lets a process make files without some permissions. -/
def setMask (s : System) (number mask : Nat) : System :=
  let s := s.onProcess number fun p => { p with mask }
  { s with files := { s.files with mask } }

/-- The descriptors of a process. -/
def table (s : System) (number : Nat) : Channels := ((s.process? number).map (·.table)).getD []

/-- How a process ended, if it did.  Processes that there are none of count as ended. -/
def ending? (s : System) (number : Nat) : Option Ending :=
  match s.process? number with
  | some p => p.ending
  | none => some (.exited 127)

/-- Adds a process that takes over what another one holds; answers its number. -/
def addChild (s : System) (parent : Nat) : Nat × System :=
  let child : Process := match s.process? parent with
    | some p => { p with number := s.nextNumber, parent, arrived := [], pending := [] }
    | none => { number := s.nextNumber, parent }
  (s.nextNumber, { s with processes := s.processes ++ [child], nextNumber := s.nextNumber + 1 })

/-- Forgets a process that is over. -/
def forget (s : System) (number : Nat) : System :=
  { s with processes := s.processes.filter (·.number ≠ number) }

/-! ## Channels -/

/-- Whether some process holds a channel. -/
def isHeld (s : System) (c : Channel) : Bool := s.processes.any (·.holds c)

def pipe? (s : System) (number : Nat) : Option Pipe := s.pipes.lookup number

def onPipe (s : System) (number : Nat) (f : Pipe → Pipe) : System :=
  { s with pipes := s.pipes.map fun (n, p) => (n, if n = number then f p else p) }

/-- Adds a pipe; answers its number. -/
def addPipe (s : System) (p : Pipe) : Nat × System :=
  (s.nextPipe, { s with pipes := (s.nextPipe, p) :: s.pipes, nextPipe := s.nextPipe + 1 })

/-- Gives up a channel if no process holds it any longer. -/
def release (s : System) (c : Channel) : System :=
  if s.isHeld c then s
  else
    match c with
    | .file f => { s with files := s.files.close f }
    | .source n =>
      if s.isHeld (.sink n) then s else { s with pipes := s.pipes.filter (·.1 ≠ n) }
    | .sink n =>
      if s.isHeld (.source n) then s else { s with pipes := s.pipes.filter (·.1 ≠ n) }

/-- Gives up the channels that no process holds any longer. -/
def releaseAll (s : System) (cs : List Channel) : System := cs.foldl release s

/-- Changes what a process holds; what nobody holds any longer is given up. -/
def rearrange (s : System) (number : Nat) (f : Process → Process) : System :=
  let old := ((s.process? number).map (·.channels)).getD []
  (s.onProcess number f).releaseAll old

/-- Where a descriptor of a process leads. -/
def channel? (s : System) (number descriptor : Nat) : Option Channel :=
  (s.table number).lookup descriptor

/-- Makes a descriptor of a process lead somewhere, or nowhere. -/
def connect (s : System) (number descriptor : Nat) (target : Option Channel) : System :=
  s.rearrange number (·.connect descriptor target)

/-- Starts a group of changes that are taken back later. -/
def beginGroup (s : System) (number : Nat) : System :=
  s.onProcess number fun p => { p with aside := [] :: p.aside }

/-- Makes a descriptor lead somewhere, or nowhere, until the latest group of changes is taken
back. -/
def redirect (s : System) (number descriptor : Nat) (target : Option Channel) : System :=
  s.rearrange number fun p =>
    let group := p.aside.headD []
    let group := if group.any (·.1 = descriptor) then group
      else group ++ [(descriptor, p.table.lookup descriptor)]
    { p with aside := group :: p.aside.tail }.connect descriptor target

/-- Takes back the latest group of changes. -/
def endGroup (s : System) (number : Nat) : System :=
  s.rearrange number fun p =>
    let back := (p.aside.headD []).foldl (fun p (d, target) => p.connect d target) p
    { back with aside := p.aside.tail }

/-- Lets a process hold a channel without a descriptor. -/
def keep (s : System) (number : Nat) (c : Channel) : System :=
  s.onProcess number fun p => { p with kept := c :: p.kept }

/-- Lets a process go of some channels that it held without a descriptor. -/
def letGo (s : System) (number : Nat) (cs : List Channel) : System :=
  s.rearrange number fun p => { p with kept := p.kept.filter (!cs.contains ·) }

/-- Leaves a process with what a new program takes over. -/
def beginProgram (s : System) (number : Nat) : System :=
  s.rearrange number fun p => { p with aside := [], kept := [], caught := [], arrived := [] }

/-! ## Signals and ends -/

/-- Lets a process end: it lets go of everything, its parent is told, and the children that it left
behind are forgotten. -/
def finish (s : System) (number : Nat) (ending : Ending) : System :=
  match s.process? number with
  | none => s
  | some p =>
    if p.isOver then s
    else
      let s := s.rearrange number fun p =>
        { p with table := [], aside := [], kept := [], arrived := [], ending := some ending }
      let s := { s with processes := s.processes.filter fun q => !(q.parent = number && q.isOver) }
      let hears (q : Process) : Bool := q.caught.contains childSignal
      s.onProcess p.parent fun q => if hears q then q.receive childSignal else q

/-- Sends a signal to a process. -/
def signal (s : System) (number signal : Nat) : System :=
  match s.process? number with
  | none => s
  | some p =>
    if signal = 9 then s.finish number (.killed 9)
    else if signal = 19 then s.onProcess number fun p => { p with stopped := true }
    else
      let s := if signal = 18 then s.onProcess number fun p => { p with stopped := false } else s
      if p.deaf.contains signal then s
      else if p.held.contains signal then
        s.onProcess number fun p => { p with pending := p.pending.filter (· ≠ signal) ++ [signal] }
      else if p.caught.contains signal then s.onProcess number (·.receive signal)
      else if isStop signal then s.onProcess number fun p => { p with stopped := true }
      else if isHarmless signal then s
      else s.finish number (.killed signal)

/-- Holds up some signals from now on; those that were held up before and are not any longer
arrive. -/
def hold (s : System) (number : Nat) (held : List Nat) : System :=
  let waiting := ((s.process? number).map (·.pending)).getD []
  let (kept, due) := waiting.partition held.contains
  let s := s.onProcess number fun p => { p with held, pending := kept }
  (due.mergeSort fun a b => a ≤ b).foldl (fun s n => s.signal number n) s

/-! ## Reading -/

/-- What can be read from a channel now. -/
def supply (s : System) : Option Channel → Supply
  | some (.source n) =>
    { bytes := ((s.pipe? n).map (·.bytes)).getD [], origin := .pipe, more := s.isHeld (.sink n) }
  | some (.file f) =>
    match s.files.unread f with
    | .ok (.bytes bytes) =>
      match s.files.fileNumber? f with
      | some number => { bytes, origin := .file number (s.files.content number).length }
      | none => { bytes, origin := .device }
    | .ok .zeros => { bytes := List.replicate endlessPart 0, origin := .endless }
    | .error e => { origin := .unreadable e }
  | _ => { origin := .unreadable .badDescriptor }

def isReadable (s : System) : Option Channel → Bool
  | some (.source n) =>
    (s.pipe? n).any (·.size != 0) || !s.isHeld (.sink n)
  | _ => true

/-- Takes bytes out of a channel. -/
def consume (s : System) (c : Option Channel) (n : Nat) : System :=
  match c with
  | some (.source number) => s.onPipe number (·.drop n)
  | some (.file f) => { s with files := s.files.seek f (s.files.offset f + n) }
  | _ => s

def giveBack (s : System) (c : Option Channel) (b : Bytes) : System :=
  match c with
  | some (.source number) => if b.isEmpty then s else s.onPipe number (·.giveBack b)
  | _ => s

/-! ## Writing -/

/-- Whether writing to a channel gets on without waiting. -/
def isWritable (s : System) : Option Channel → Bool
  | some (.sink n) => (s.pipe? n).all (·.room 1 != 0) || !s.isHeld (.source n)
  | _ => true

/-- Writes bytes to a channel for a process, which gets a signal if nobody reads them. -/
def write (s : System) (number : Nat) (c : Option Channel) (b : Bytes) : Written × System :=
  match c with
  | some (.sink n) =>
    if !s.isHeld (.source n) then (.refused .brokenPipe, s.signal number pipeSignal)
    else
      let room := ((s.pipe? n).map fun p => p.room b.length).getD 0
      if room = b.length then (.whole, s.onPipe n (·.push b))
      else if room = 0 then (.partly b, s)
      else (.partly (b.drop room), s.onPipe n (·.push (b.take room)))
  | some (.file f) =>
    let (result, files) := s.files.write f b
    (match result with
      | .ok () => .whole
      | .error e => .refused e, { s with files })
  | _ => (.refused .badDescriptor, s)

end System

end Relay
