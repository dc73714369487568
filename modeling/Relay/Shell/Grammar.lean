import Relay.Text.Utf8

/-!
# Shell commands

The commands of a small POSIX shell.  A word is a list of pieces; a piece knows whether it stood
between quotes, which decides whether what it stands for is split into fields.
-/

namespace Relay.Shell

/-! ## Names -/

def isNameChar (c : Char) : Bool := c.isAlphanum || c == '_'

def isName (cs : List Char) : Bool :=
  match cs with
  | c :: _ => !c.isDigit && cs.all isNameChar
  | [] => false

/-- The commands of the shell itself that no function can take the place of. -/
def specialCommands : List String :=
  [".", ":", "break", "continue", "eval", "exec", "exit", "export", "local", "readonly", "return",
    "set", "shift", "times", "trap", "unset"]

/-! ## Commands -/

/-- What a word beside a parameter is for. -/
inductive Fallback where
  | substitute
  | replace
  /-- The word becomes the value of a parameter without one. -/
  | assign
  /-- A missing value is a mistake, which the word explains. -/
  | refuse
  deriving DecidableEq, Repr

/-- What a redirection does with a descriptor. -/
inductive Direction where
  | input
  | update
  | output
  /-- Does so even to a file that the shell was told to keep. -/
  | replace
  /-- Writes at the end of a file. -/
  | append
  /-- Copies another descriptor, or closes this one. -/
  | copy
  /-- Reads the word itself. -/
  | text
  deriving DecidableEq, Repr

mutual

inductive Piece where
  | char (c : Char) (quoted : Bool)
  /-- A pair of quotes, which makes a field of nothing. -/
  | quotes
  | parameter (name : List Char) (quoted : Bool)
  | size (name : List Char) (quoted : Bool)
  /-- A parameter with a word beside it; an empty value may count as a missing one. -/
  | fallback (name : List Char) (kind : Fallback) (emptyCounts : Bool) (word : List Piece)
      (quoted : Bool)
  /-- A parameter without the part at one end that a pattern matches. -/
  | trimmed (name : List Char) (atEnd longest : Bool) (pattern : List Piece) (quoted : Bool)
  | arithmetic (word : List Piece) (quoted : Bool)
  | printed (body : Command) (quoted : Bool)
  /-- A parameter that is written in no known way. -/
  | malformed

inductive Redirection where
  | mk (descriptor : Nat) (direction : Direction) (word : List Piece)

inductive Command where
  | nothing
  | simple (line : Nat) (assignments : List (List Char × List Piece)) (words : List (List Piece))
      (redirections : List Redirection)
  | pipe (stages : List Command)
  | both (a b : Command)
  /-- The second command runs if the first fails. -/
  | either (a b : Command)
  | sequence (a b : Command)
  | negation (a : Command)
  | conditional (test yes no : Command)
  /-- Repeats the body as long as the test succeeds, or as long as it fails. -/
  | loop (untilSuccess : Bool) (test body : Command)
  /-- Repeats the body for each field of some words, or for each positional parameter. -/
  | each (line : Nat) (name : List Char) (words : Option (List (List Piece))) (body : Command)
  /-- Runs the first of some commands one of whose patterns matches a word. -/
  | choice (line : Nat) (word : List Piece) (cases : List Case)
  | subshell (line : Nat) (body : Command)
  | redirected (line : Nat) (body : Command) (redirections : List Redirection)
  | define (name : List Char) (body : Command)
  /-- Does not wait for the command. -/
  | background (body : Command)

inductive Case where
  | mk (patterns : List (List Piece)) (body : Command)

end

abbrev Word := List Piece

instance : Inhabited Command := ⟨.nothing⟩

/-! ## Assignments and home directories -/

/-- Splits an assignment off the pieces of a word. -/
def assignment? (w : Word) : Option (List Char × Word) :=
  let name := w.takeWhile fun p =>
    match p with
    | .char c false => isNameChar c
    | _ => false
  let text := name.filterMap fun p =>
    match p with
    | .char c _ => some c
    | _ => none
  match w.drop name.length with
  | .char '=' false :: value => if isName text then some (text, value) else none
  | _ => none

/-- The users who have a home directory, and those directories. -/
def homes : List (String × String) :=
  [("root", "/root"), ("daemon", "/usr/sbin"), ("bin", "/bin"), ("sys", "/dev"),
    ("sync", "/bin"), ("games", "/usr/games"), ("man", "/var/cache/man"),
    ("lp", "/var/spool/lpd"), ("mail", "/var/mail"), ("news", "/var/spool/news"),
    ("uucp", "/var/spool/uucp"), ("proxy", "/bin"), ("www-data", "/var/www"),
    ("backup", "/var/backups"), ("list", "/var/list"), ("irc", "/run/ircd"),
    ("_apt", "/nonexistent"), ("nobody", "/nonexistent")]

/-- The characters without quotes at the start of a word, up to some that end them. -/
def plainStart (ends : Char → Bool) : Word → List Char
  | .char c false :: rest => if ends c then [] else c :: plainStart ends rest
  | _ => []

/-- A word with a home directory in place of a sign for it at its start.  What ends the name of a
user depends on where the word stands. -/
def withHome (ends : Char → Bool) (w : Word) : Word :=
  match w with
  | .char '~' false :: rest =>
    let name := plainStart ends rest
    let after := rest.drop name.length
    let isWhole : Bool := match after with
      | [] => true
      | .char c false :: _ => ends c
      | _ => false
    if !isWhole then w
    else if name.isEmpty then
      .fallback "HOME".toList .substitute false [.char '~' true] true :: after
    else
      match homes.lookup (String.ofList name) with
      | some folder => folder.toList.map (.char · true) ++ after
      | none => w
  | _ => w

/-- A word with home directories in place of the signs for them, at its start and behind colons. -/
def withHomes (w : Word) : Word :=
  let ends (c : Char) : Bool := c == '/' || c == ':'
  let isColon (p : Piece) : Bool := match p with
    | .char ':' false => true
    | _ => false
  ((pieces isColon w).map (withHome ends)).intersperse [.char ':' false] |>.flatten

end Relay.Shell
