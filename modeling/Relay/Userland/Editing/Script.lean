import Relay.Userland.RegexSyntax

/-!
# Scripts for editing lines

A script is a list of commands, each with the addresses of the lines that it is for.  Blocks and
jumps are kept as they are written: a block starts and ends with a command of its own, and a jump
names the label it leads to.
-/

namespace Relay.Userland.Edit

/-! ## Addresses -/

/-- A pattern as it is written in a script. -/
structure Pattern where
  /-- What is matched; nothing stands for the pattern that was used last. -/
  regex : Option Regex := none
  /-- The text, in which escapes for characters are replaced by the characters. -/
  source : List Char := []
  ignoreCase : Bool := false
  multiline : Bool := false

/-- Which lines a command is for. -/
inductive Address where
  | every
  | line (n : Nat)
  /-- Every so many lines, from some line on. -/
  | step (first step : Nat)
  | last
  | pattern (p : Pattern)
  /-- So many lines behind the first address. -/
  | plus (n : Nat)
  /-- The next line whose number is a multiple. -/
  | multiple (n : Nat)

/-- An address that no other one stands before: so many lines behind it, or a multiple, say nothing
if the number is zero. -/
def Address.alone : Address → Address
  | .plus 0 => .every
  | .multiple 0 => .every
  | a => a

def Address.isRelative : Address → Bool
  | .plus _ => true
  | .multiple _ => true
  | _ => false

/-! ## Substitutions -/

inductive LetterMode where
  | asIs
  | upper
  | lower
  deriving DecidableEq

/-- A part of a replacement: a text and perhaps what a group matched behind it. -/
structure Segment where
  mode : LetterMode := .asIs
  /-- How the first letter is changed. -/
  once : Option LetterMode := none
  text : List Char := []
  /-- The number of the group; the whole match has the number zero. -/
  group : Option Nat := none

/-- The largest number of a group that a replacement refers to. -/
def largestReference (segments : List Segment) : Nat :=
  segments.foldl (fun n s => max n (s.group.getD 0)) 0

/-- Where output goes. -/
inductive Target where
  | output
  | errors
  /-- The input, which takes none. -/
  | input
  | file (path : Bytes)
  deriving DecidableEq

def Target.path : Target → Bytes
  | .output => ascii "/dev/stdout"
  | .errors => ascii "/dev/stderr"
  | .input => ascii "/dev/stdin"
  | .file path => path

/-- The replacement of matches. -/
structure Substitution where
  pattern : Pattern
  segments : List Segment
  all : Bool := false
  /-- The number of the first match that is replaced. -/
  nth : Option Nat := none
  printed : Bool := false
  /-- The result is a command, whose output replaces it. -/
  evaluated : Bool := false
  target : Option Target := none

/-! ## Commands -/

inductive JumpRule where
  | always
  /-- If something was replaced since the last line was read. -/
  | replaced
  | notReplaced

/-- What a command does. -/
inductive Action where
  | delete
  | deleteFirst
  | print
  | printFirst
  | quit (code : Option Nat)
  | abandon (code : Option Nat)
  | number
  /-- Prints the line with its special characters made visible. -/
  | list (width : Option Nat)
  | fileName
  | clear
  | substitute (s : Substitution)
  | transliterate (source target : List Char)
  | insert (text : Bytes)
  | append (text : Bytes)
  /-- Prints a text in place of the line, or of a range of lines. -/
  | change (text : Bytes)
  /-- Runs a shell command and prints its output before the line.  Without a command the line is
  one, and its output replaces it. -/
  | run (command : Bytes)
  /-- Keeps the line aside, alone or behind what is kept. -/
  | keep (adds : Bool)
  /-- Takes what is kept aside, alone or behind the line. -/
  | recall (adds : Bool)
  /-- Takes what is kept aside and keeps the line instead. -/
  | exchange
  | next
  | join
  | readFile (path : Bytes)
  /-- Prints the next line of a file behind the line. -/
  | readLine (path : Bytes)
  | write (target : Target)
  | writeFirst (target : Target)
  | jump (rule : JumpRule) (label : Option (List Char))
  | label (name : List Char)
  | openBlock
  | closeBlock
  /-- Was given up, but is still read. -/
  | retired (width : Option Nat)

structure Command where
  first : Option Address := none
  last : Option Address := none
  negated : Bool := false
  action : Action

def Command.runs (c : Command) : Bool :=
  match c.action with
  | .run _ => true
  | .substitute s => s.evaluated
  | _ => false

def Command.file? (c : Command) : Option Bytes :=
  match c.action with
  | .write (.file path) => some path
  | .writeFirst (.file path) => some path
  | .substitute { target := some (.file path), .. } => some path
  | _ => none

/-- The label that a command leads to. -/
def Command.destination? (c : Command) : Option (List Char) :=
  match c.action with
  | .jump _ label => label
  | _ => none

def Command.isLabel (name : List Char) (c : Command) : Bool :=
  match c.action with
  | .label n => n = name
  | _ => false

end Relay.Userland.Edit
