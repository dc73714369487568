import Relay.Userland.Tool

/-!
# Switches of a shell

What can be switched on in a shell, by name or by letter, and how arguments switch it on and off.
-/

namespace Relay.Shell

open Userland

/-- The switches of a shell, with the letters that some of them have. -/
def switchNames : List (String × Option Char) :=
  [("errexit", some 'e'), ("noglob", some 'f'), ("ignoreeof", some 'I'), ("interactive", some 'i'),
    ("monitor", some 'm'), ("noexec", some 'n'), ("stdin", some 's'), ("xtrace", some 'x'),
    ("verbose", some 'v'), ("vi", some 'V'), ("emacs", some 'E'), ("noclobber", some 'C'),
    ("allexport", some 'a'), ("notify", some 'b'), ("nounset", some 'u'), ("privileged", some 'p'),
    ("nolog", none), ("debug", none)]

/-- The switches that are on, by name. -/
structure Switches where
  names : List String := []

namespace Switches

def has (s : Switches) (name : String) : Bool := s.names.contains name

/-- A command that fails ends the shell. -/
def strict (s : Switches) : Bool := s.has "errexit"

/-- A parameter that is not set is a mistake. -/
def bound (s : Switches) : Bool := s.has "nounset"

/-- Commands are shown before they run. -/
def traced (s : Switches) : Bool := s.has "xtrace"

/-- The switch that gives way to another one. -/
def rival? : String → Option String
  | "vi" => some "emacs"
  | "emacs" => some "vi"
  | _ => none

def turn (on : Bool) (name : String) (s : Switches) : Switches :=
  let others := s.names.filter fun n => n ≠ name && !(on && rival? name = some n)
  ⟨if on then name :: others else others⟩

def nameOf? (letter : Char) : Option String :=
  (switchNames.find? fun (_, l) => l = some letter).map (·.1)

/-- The letters of the switches that are on; the last switch comes first. -/
def letters (s : Switches) : List Char :=
  switchNames.reverse.filterMap fun (name, letter) => if s.has name then letter else none

def table (s : Switches) : Bytes :=
  ascii "Current option settings\n" ++ unlines (switchNames.map fun (name, _) =>
    padRight 16 (ascii name) ++ ascii (if s.has name then "on" else "off"))

def commands (s : Switches) : Bytes :=
  unlines (switchNames.map fun (name, _) =>
    ascii (if s.has name then "set -o " else "set +o ") ++ ascii name)

end Switches

/-- What arguments do to the switches of a shell. -/
structure SwitchCall where
  switches : Switches := {}
  turnedOff : List String := []
  /-- The lists of switches that were asked for. -/
  listing : Bytes := []
  /-- The commands of the shell stand in an argument. -/
  fromArgument : Bool := false
  operands : List Bytes := []
  /-- Two dashes stand at the end of the arguments. -/
  ended : Bool := false

namespace SwitchCall

def turn (c : SwitchCall) (on : Bool) (name : String) : SwitchCall :=
  { c with switches := c.switches.turn on name
           turnedOff := if on then c.turnedOff.filter (· ≠ name) else name :: c.turnedOff }

/-- The switches as lists show them: at the start of a shell those that were not turned off count as
on. -/
def listed (c : SwitchCall) (atStart : Bool) : Switches :=
  if atStart then ⟨(switchNames.map (·.1)).filter (!c.turnedOff.contains ·)⟩ else c.switches

/-- Turns switches on or off by letters.  The letter for a name takes the next argument, and the
arguments of a shell's own call may have letters for where its commands stand.  The error is the
option that is not known. -/
def turnLetters (atStart on : Bool) : SwitchCall → List Bytes → List Char →
    Except Bytes (SwitchCall × List Bytes)
  | c, rest, [] => .ok (c, rest)
  | c, rest, letter :: letters =>
    if letter == 'o' then
      match rest with
      | [] =>
        let s := c.listed atStart
        let list := if on then s.table else s.commands
        turnLetters atStart on { c with listing := c.listing ++ list } [] letters
      | name :: rest =>
        let text := String.ofList (chars name)
        if switchNames.any (·.1 = text) then
          turnLetters atStart on (c.turn on text) rest letters
        else .error (ascii "-o " ++ name)
    else if atStart && (letter == 'c' || letter == 'l') then
      turnLetters atStart on { c with fromArgument := c.fromArgument || letter == 'c' } rest letters
    else
      match Switches.nameOf? letter with
      | some name =>
        turnLetters atStart on (c.turn on name) rest letters
      | none => .error (ascii "-" ++ octets [letter])

/-- Reads switches from the start of arguments, of which at most `n` are read. -/
def read (atStart : Bool) : Nat → SwitchCall → List Bytes → Except Bytes SwitchCall
  | 0, c, args => .ok { c with operands := args }
  | _, c, [] => .ok c
  | n + 1, c, a :: rest =>
    match chars a with
    | ['-'] =>
      let quiet := if atStart then c.switches
        else (c.switches.turn false "xtrace").turn false "verbose"
      .ok { c with switches := quiet, operands := rest }
    | ['-', '-'] => .ok { c with operands := rest, ended := rest.isEmpty }
    | sign :: letters =>
      if sign == '-' || sign == '+' then do
        let (c, rest) ← c.turnLetters atStart (sign == '-') rest letters
        c.read atStart n rest
      else .ok { c with operands := a :: rest }
    | [] => .ok { c with operands := a :: rest }

end SwitchCall

end Relay.Shell
