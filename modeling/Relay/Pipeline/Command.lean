import Relay.Pipeline.Basic

/-!
# Commands

A command is read from its end, because redirects come last:

    echo hi | grep h > out.txt 2> err.txt
    └────── stages ───────┘└ stdout ┘└ stderr ┘

A redirect starts with a space, so `a>b` is one token.  The error-output redirect is split off
first; whatever follows it, a later ` >` included, belongs to its target.  Reading a command never
fails for want of a program: an empty segment is a stage without tokens.
-/

namespace Relay

/-- Why a text is no command. -/
inductive ParseError where
  /-- The standard-output redirect is written this many times. -/
  | repeatedStdout (count : Nat)
  /-- The error-output redirect is written this many times. -/
  | repeatedStderr (count : Nat)
  deriving DecidableEq, Repr

namespace ParseError

def message : ParseError → String
  | .repeatedStdout n =>
    s!"multiple standard-output redirects ({n} found, at most 1 allowed)"
  | .repeatedStderr n =>
    s!"multiple error-output redirects ({n} found, at most 1 allowed)"

end ParseError

namespace Pipeline

/-- Splits a redirect off the end of a command: the rest of the command and the trimmed target.  A
command without the delimiter is left as it is; a delimiter that occurs more than once is an error
that carries its count. -/
def splitRedirect (delimiter command : Text) : Except Nat (Text × Option Text) :=
  match Text.occurrences delimiter command with
  | 0 => .ok (command, none)
  | 1 =>
    match Text.cut? delimiter command with
    | some (before, target) => .ok (Text.trim before, some (Text.trim target))
    | none => .ok (command, none)
  | n => .error n

/-- The stages of a command without redirects: one for each segment between pipe characters. -/
def parseStages (command : Text) : List Stage :=
  (pieces (· == '|') command).map fun segment => ⟨Text.words segment⟩

/-- Reads a command. -/
def parse (command : Text) : Except ParseError Pipeline := do
  let (rest, stderrTarget) ←
    (splitRedirect stderrDelimiter command).mapError .repeatedStderr
  let (rest, stdoutTarget) ←
    (splitRedirect stdoutDelimiter rest).mapError .repeatedStdout
  return { stages := parseStages rest, stdoutTarget, stderrTarget }

/-! ## Pipeline files -/

/-- Whether a trimmed line of a pipeline file can be its command: it is neither empty nor a
comment. -/
def isCommandLine (line : Text) : Bool := !line.isEmpty && line.head? != some '#'

/-- The command of a pipeline file: its first line, trimmed, that is neither blank nor a comment,
or nothing. -/
def commandOfFile (content : Text) : Text :=
  (((Text.lines content).map Text.trim).find? isCommandLine).getD []

def parseFile (content : Text) : Except ParseError Pipeline := parse (commandOfFile content)

end Pipeline

end Relay
