import Relay.Files.Tree
import Relay.Userland.Floating

/-!
# Colours of names

Names can be written in colours that tell what kind of file they stand for.  A palette holds the
sequences that switch colours, by labels of two letters, and those for names that end in some way.
-/

namespace Relay.Userland

/-- Sequences that switch colours. -/
structure Palette where
  /-- Sequences by their labels, the one that counts first. -/
  sequences : List (String × Bytes)
  /-- Sequences by the ends of names, the one that counts first. -/
  byEnding : List (Bytes × Bytes) := []

namespace Palette

/-- The byte that starts sequences of a terminal. -/
def escapeByte : UInt8 := 27

def labels : List String :=
  ["lc", "rc", "ec", "rs", "no", "fi", "di", "ln", "pi", "so", "bd", "cd", "mi", "or", "ex", "do",
    "su", "sg", "st", "ow", "tw", "ca", "mh", "cl"]

def usual : Palette :=
  { sequences :=
      [("lc", escapeByte :: ascii "["), ("rc", ascii "m"), ("rs", ascii "0"),
        ("di", ascii "01;34"), ("cd", ascii "01;33"), ("ex", ascii "01;32"),
        ("su", ascii "37;41"), ("sg", ascii "30;43"), ("st", ascii "37;44"),
        ("ow", ascii "34;42"), ("tw", ascii "30;42"), ("cl", escapeByte :: ascii "[K")] }

/-! ## Reading -/

/-- A byte that a letter behind a backslash stands for. -/
def escapeOf (c : Char) : UInt8 :=
  match c with
  | 'a' => 7
  | 'b' => 8
  | 'e' => escapeByte
  | 'f' => 12
  | 'n' => 10
  | 'r' => 13
  | 't' => 9
  | 'v' => 11
  | '?' => 127
  | '_' => 32
  | c => UInt8.ofNat c.toNat

/-- Reads a sequence up to a colon, or up to an equals sign where one is to follow; at most `n`
steps.  The answer is nothing if an escape is not finished. -/
def readSequence (stopsAtEquals : Bool) : Nat → List Char → Option (Bytes × List Char)
  | 0, cs => some ([], cs)
  | _, [] => some ([], [])
  | n + 1, c :: cs =>
    let more (b : UInt8) (rest : List Char) : Option (Bytes × List Char) :=
      (readSequence stopsAtEquals n rest).map fun (bs, rest) => (b :: bs, rest)
    let number (base : Nat) (ds rest : List Char) : Option (Bytes × List Char) :=
      more (UInt8.ofNat (numberIn base ds)) rest
    if c == ':' || (stopsAtEquals && c == '=') then some ([], c :: cs)
    else if c == '\\' then
      match cs with
      | [] => none
      | d :: rest =>
        let octal := cs.takeWhile fun c => '0' ≤ c && c ≤ '7'
        if !octal.isEmpty then number 8 octal (cs.drop octal.length)
        else if d == 'x' || d == 'X' then
          let hex := rest.takeWhile isHex
          number 16 hex (rest.drop hex.length)
        else more (escapeOf d) rest
    else if c == '^' then
      match cs with
      | d :: rest =>
        if '@' ≤ d && d ≤ '~' then more (UInt8.ofNat (d.toNat % 32)) rest
        else if d == '?' then more 127 cs
        else none
      | [] => none
    else more (UInt8.ofNat c.toNat) cs

/-- A setting of colours: their palette, or a label that is not known, or nothing if the setting
cannot be read otherwise. -/
abbrev Setting := Except (Option (List Char)) Palette

/-- Reads a setting of colours, at most `n` entries. -/
def readEntries : Nat → Palette → List Char → Setting
  | 0, p, _ => .ok p
  | _, p, [] => .ok p
  | n + 1, p, ':' :: cs => readEntries n p cs
  | n + 1, p, '*' :: cs =>
    match readSequence true cs.length cs with
    | some (ending, '=' :: rest) =>
      match readSequence false rest.length rest with
      | some (sequence, rest) =>
        readEntries n { p with byEnding := (ending, sequence) :: p.byEnding } rest
      | none => .error none
    | _ => .error none
  | n + 1, p, a :: b :: '=' :: rest =>
    let label := String.ofList [a, b]
    if !labels.contains label then .error (some [a, b])
    else
      match readSequence false rest.length rest with
      | some (sequence, rest) =>
        readEntries n { p with sequences := (label, sequence) :: p.sequences } rest
      | none => .error (some [a, b])
  | _, _, _ => .error none

/-- Reads a setting of colours, which changes the usual ones. -/
def read (text : Bytes) : Setting :=
  let cs := chars text
  readEntries cs.length usual cs

/-- The kinds of terminals that are known to have colours, as patterns. -/
def terminals : List String :=
  ["Eterm", "ansi", "*color*", "con[0-9]*x[0-9]*", "cons25", "console", "cygwin", "*direct*",
    "dtterm", "gnome", "hurd", "jfbterm", "konsole", "kterm", "linux", "linux-c", "mlterm", "putty",
    "rxvt*", "screen*", "st", "terminator", "tmux*", "vt100", "xterm*"]

/-! ## Sequences -/

/-- The sequence of a label, or nothing. -/
def sequence (p : Palette) (label : String) : Bytes := (p.sequences.lookup label).getD []

def isColoured (p : Palette) (label : String) : Bool :=
  let s := p.sequence label
  !(s.isEmpty || s = ascii "0" || s = ascii "00")

def switch (p : Palette) (sequence : Bytes) : Bytes := p.sequence "lc" ++ sequence ++ p.sequence "rc"

/-- What ends a colour. -/
def ending (p : Palette) : Bytes :=
  match p.sequences.lookup "ec" with
  | some s => s
  | none => p.switch (p.sequence "rs")

/-- What is written at the very end if anything was written in colours. -/
def restoring (p : Palette) : Bytes :=
  if p.sequence "lc" = escapeByte :: ascii "[" && p.sequence "rc" = ascii "m" then []
  else p.switch []

def label (p : Palette) (e : Entry) (mode : Nat) : String :=
  let isSet (bit : Nat) : Bool := mode / bit % 2 = 1
  let runs := isSet 64 || isSet 8 || isSet 1
  let first (choices : List (Bool × String)) (otherwise : String) : String :=
    ((choices.find? fun (holds, l) => holds && p.isColoured l).map (·.2)).getD otherwise
  match e with
  | .directory =>
    first [(isSet 512 && isSet 2, "tw"), (isSet 2, "ow"), (isSet 512, "st")] "di"
  | .device _ => "cd"
  | _ => first [(isSet 2048, "su"), (isSet 1024, "sg"), (runs, "ex")] "fi"

/-- The sequence for a file of some name and mode, if it has one. -/
def sequenceFor (p : Palette) (name : Bytes) (e : Entry) (mode : Nat) : Option Bytes :=
  let label := p.label e mode
  let small (b : Bytes) : List Char := (chars b).map Char.toLower
  let byName := p.byEnding.find? fun (ending, _) => (small ending).isSuffixOf (small name)
  match if label = "fi" then byName else none with
  | some (_, s) => some s
  | none => p.sequences.lookup label

end Palette

end Relay.Userland
