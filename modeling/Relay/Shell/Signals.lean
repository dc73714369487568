import Relay.Process.Signal
import Relay.Shell.Arithmetic
import Relay.Shell.Variables

/-!
# Signals and commands in the background

Signals have names and numbers.  A shell sends them to itself and to the commands that it did not
wait for, and it says what is done when they arrive.  The commands that it did not wait for are
listed under numbers of their own.
-/

namespace Relay.Shell

open Userland

namespace Job

/-- The number that an argument writes. -/
def numberOf (a : Bytes) : Job Nat := do
  match Arithmetic.argumentOf? a with
  | some n => return n
  | none => fault (ascii "Illegal number: " ++ a)

/-! ## Names of signals -/

def signalName (n : Nat) : String := Signal.shellName n

/-- The number of a signal given by its name or its number; the end of the shell may count as
one. -/
def signalOf? (withEnd : Bool) (text : Bytes) : Option Nat :=
  match natOf? text with
  | some n => if n ≤ 64 then some n else none
  | none =>
    let name := String.ofList ((chars text).map Char.toUpper)
    if name = "EXIT" then (if withEnd then some 0 else none)
    else (((List.range Signal.greatest).map (· + 1)).find? fun n => signalName n = name)

/-- How the end of a program by a signal is reported, unless it is kept silent. -/
def signalReport? (signal : Nat) : Option String :=
  match signalName signal with
  | "INT" => none
  | "PIPE" => none
  | "HUP" => some "Hangup"
  | "QUIT" => some "Quit"
  | "ILL" => some "Illegal instruction"
  | "TRAP" => some "Trace/breakpoint trap"
  | "ABRT" => some "Aborted"
  | "BUS" => some "Bus error"
  | "FPE" => some "Floating point exception"
  | "KILL" => some "Killed"
  | "USR1" => some "User defined signal 1"
  | "SEGV" => some "Segmentation fault"
  | "USR2" => some "User defined signal 2"
  | "ALRM" => some "Alarm clock"
  | "TERM" => some "Terminated"
  | "16" => some "Stack fault"
  | "XCPU" => some "CPU time limit exceeded"
  | "XFSZ" => some "File size limit exceeded"
  | "VTALRM" => some "Virtual timer expired"
  | "PROF" => some "Profiling timer expired"
  | "IO" => some "I/O possible"
  | "PWR" => some "Power failure"
  | "SYS" => some "Bad system call"
  | _ => some ("Real-time signal " ++ toString (signal - 34))

/-- Reports how a program ended, if a signal ended it. -/
def reportSignal (code : Nat) : Job Unit := do
  if 128 < code then
    match signalReport? (code - 128) with
    | some text => let _ ← write 2 (ascii text ++ [Text.lineFeed])
    | none => return ()

/-! ## Commands in the background -/

/-- Adds a command that is not waited for to the list, by the numbers of its processes; it takes the
place of one that was waited for. -/
def entrust (members : List Nat) : Job Unit := change fun s =>
  let number := members.getLastD 0
  let isOver (e : Entrusted) : Bool := e.awaited && s.finished.any (·.1 = e.number)
  let free := (List.range (s.entrusted.length + 1)).find? fun k =>
    (s.entrusted.find? (·.slot = k + 1)).all isOver
  let slot := free.getD s.entrusted.length + 1
  { s with
      entrusted := { slot, number, members } :: s.entrusted.filter (·.slot ≠ slot)
      latest := some number }

/-- The code of a command in the background, if all its processes are over. -/
def codeIn (y : System) (e : Entrusted) : Option Nat :=
  if e.members.all fun n => (y.ending? n).isSome then (y.ending? e.number).map (·.code) else none

/-- Notes which commands in the background are over. -/
def noteEnds : Job Unit := do
  let s ← state
  let known (e : Entrusted) : Bool := s.finished.any (·.1 = e.number)
  let running := s.entrusted.filter fun e => !known e
  if !running.isEmpty then
    let y ← system
    let ended := running.filterMap fun e => (codeIn y e).map fun code => (e.number, code)
    if !ended.isEmpty then change fun s => { s with finished := ended ++ s.finished }

/-- The command in the background that an argument with a percent sign names. -/
def entrustedOf (name : Bytes) : Job Entrusted := do
  let all := (← state).entrusted
  let found (e : Option Entrusted) (message : Bytes) : Job Entrusted :=
    match e with
    | some e => return e
    | none => fault message
  match chars name.tail with
  | ['%'] => found all.head? (ascii "No current job")
  | ['+'] => found all.head? (ascii "No current job")
  | [] => found all.head? (ascii "No current job")
  | ['-'] => found all[1]? (ascii "No previous job")
  | _ => found (all.find? fun e => natOf? name.tail = some e.slot) (ascii "No such job: " ++ name)

/-- Lists commands in the background; those that are over are forgotten. -/
def listEntrusted (long numbersOnly : Bool) : List Entrusted → Job Unit
  | [] => return ()
  | e :: rest => do
    let s ← state
    let sign := if (s.entrusted.head?.map (·.slot)) = some e.slot then "+"
      else if (s.entrusted[1]?.map (·.slot)) = some e.slot then "-" else " "
    let code := s.finished.lookup e.number
    let state := match code with
      | none => "Running"
      | some 0 => "Done"
      | some n => if 128 < n then (signalReport? (n - 128)).getD s!"Done({n})" else s!"Done({n})"
    let number := if long then decimal e.number ++ [32] else []
    let line := ascii s!"[{e.slot}] " ++ ascii sign ++ [32] ++ number ++ ascii state
    if numbersOnly then print (decimal e.number ++ [Text.lineFeed])
    else
      let stages := (e.members.drop 1).flatMap fun _ => ascii " | "
      print (padRight 33 line ++ stages ++ [Text.lineFeed])
      if code.isSome then
        change fun s => { s with entrusted := s.entrusted.filter (·.slot ≠ e.slot) }
    listEntrusted long numbersOnly rest

/-- The commands in the background that arguments name. -/
def namedEntrusted : List Bytes → Job (List Entrusted)
  | [] => return []
  | a :: rest => do
    let e ← entrustedOf (if a.head? = some 37 then a else 37 :: a)
    return e :: (← namedEntrusted rest)

/-- Lists the commands in the background, or some of them. -/
def jobs (args : List Bytes) : Job Unit := do
  let (options, names) ← takeOptions "lp" args
  noteEnds
  let chosen ← if names.isEmpty then pure (← state).entrusted else namedEntrusted names
  setStatus 0
  listEntrusted (options.any (·.1 == 'l')) (options.any (·.1 == 'p')) chosen

/-- Refuses to give a command in the background the terminal, which there is none of. -/
def resume (args : List Bytes) : Job Unit := do
  let name := args.headD (ascii "%%")
  let _ ← entrustedOf name
  fault (ascii "job " ++ name ++ ascii " not created under job control")

/-! ## Sending -/

/-- The number of a process that an argument names; a process group has a negative number. -/
def processOf (target : Bytes) : Job Int := do
  if target.head? = some 45 then return -(← numberOf target.tail : Nat)
  return (← numberOf target : Nat)

def sendSignal (signal : Nat) (code : Nat) : List Bytes → Job Unit
  | [] => setStatus code
  | target :: rest => do
    let failed : Job Unit := do
      complain (ascii "No such process\n")
      sendSignal signal 1 rest
    if target.head? = some 37 then
      let _ ← entrustedOf target
      failed
    else
      match ← processOf target with
      | .ofNat number =>
        if ((← system).process? number).isNone then failed
        else
          onProcess fun y _ => y.signal number signal
          sendSignal signal code rest
      | .negSucc _ => failed

/-- Prints the names of signals. -/
def listSignals (args : List Bytes) : Job Unit := do
  match args with
  | [] => print (unlines (("0" :: (List.range Signal.greatest).map fun n => signalName (n + 1)).map ascii))
  | a :: _ =>
    let n ← numberOf a
    let n := if 128 < n then n - 128 else n
    if 0 < n && n ≤ 64 then print (ascii (signalName n) ++ [Text.lineFeed])
    else fault (ascii "invalid signal number or exit status: " ++ a)

/-- Sends the signal that the arguments name. -/
def kill (args : List Bytes) : Job Unit := do
  let usage : Job Unit := fault <| ascii <|
    "Usage: kill [-s sigspec | -signum | -sigspec] [pid | job]... or\nkill -l [exitstatus]"
  let ofFirst := args.head?.bind fun a =>
    if a.head? = some 45 then signalOf? false a.tail else none
  match ofFirst with
  | some n => if args.length ≤ 1 then usage else sendSignal n 0 args.tail
  | none =>
    let (options, targets) ← takeOptions "ls:" args
    let signal ← match (options.filter (·.1 == 's')).getLast? with
      | none => pure none
      | some (_, name) =>
        match signalOf? false name with
        | some n => pure (some n)
        | none => fault (ascii "invalid signal number or name: " ++ name)
    if options.any (·.1 == 'l') then listSignals targets
    else if targets.isEmpty then usage
    else sendSignal (signal.getD 15) 0 targets

/-! ## Receiving -/

/-- Shows what is done when signals arrive. -/
def showHandlers : Job Unit := do
  let s ← state
  let shownOnes := (List.range 65).filterMap fun n =>
    (s.handlers.lookup n).map fun action =>
      ascii "trap -- " ++ singleQuoted action ++ ascii (" " ++ signalName n)
  print (unlines shownOnes)

/-- Lets signals do to the shell's process what the shell was told. -/
def heedHandlers : Job Unit := do
  let s ← state
  let chosen := s.handlers.filter fun (n, _) => n ≠ 0 && !s.ignored.contains n
  let (deaf, caught) := chosen.partition (·.2.isEmpty)
  onProcess fun y self => y.onProcess self fun p =>
    { p with deaf := s.ignored ++ deaf.map (·.1), caught := caught.map (·.1) }

/-- Says what is done when signals arrive: an action, nothing, or what is usual. -/
def setHandlers (action : Option Bytes) : List Bytes → Job Unit
  | [] => do
    heedHandlers
    setStatus 0
  | a :: rest => do
    match signalOf? true a with
    | none =>
      heedHandlers
      let _ ← write 2 (ascii "trap: " ++ a ++ ascii ": bad trap\n")
      setStatus 1
    | some n =>
      change fun s =>
        { s with handlers := s.handlers.filter (·.1 ≠ n) ++ (action.map fun x => (n, x)).toList }
      setHandlers action rest

/-- Shows or changes what is done when signals arrive. -/
def trap (args : List Bytes) : Job Unit := do
  let (_, args) ← takeOptions "" args
  match args with
  | [] => showHandlers
  | [_] => setHandlers none args
  | action :: rest =>
    if ((natOf? action).any (· ≤ 64)) then setHandlers none args
    else setHandlers (if action = dash then none else some action) rest

end Job

end Relay.Shell
