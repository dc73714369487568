import Relay.Userland.Editing.Script

/-!
# Scripts and lines in words

How commands are shown to somebody who wants to see what a script does.  Patterns and lines are
shown with escapes for what is not printed; commands within blocks are moved to the right.
-/

namespace Relay.Userland.Edit

/-- A byte of a line; what is not printed is shown as an escape, whose number is that of a signed
character in a wide word. -/
def explainedByte (b : UInt8) : Bytes :=
  let n := b.toNat
  if b == 92 then ascii "\\\\"
  else if isPrinted b then [b]
  else if [7, 9, 10, 11, 12, 13].contains n then escapedByte b
  else
    let ds := Nat.toDigits 8 (if n < 128 then n else n + (Nat.pow 2 32 - 256))
    ascii "\\o" ++ List.replicate (3 - ds.length) 48 ++ octets ds

def explainedLine (b : Bytes) : Bytes := b.flatMap explainedByte

/-- A pattern between its delimiters. -/
def explainedPattern (p : Pattern) : Bytes :=
  let one (b : UInt8) : Bytes := if b == Path.slash then ascii "\\/" else explainedByte b
  ascii "/" ++ (octets p.source).flatMap one ++ ascii "/"

def explainedAddress : Address → Bytes
  | .every => ascii "[ADDR-NULL]"
  | .line n => decimal n
  | .step first step => decimal first ++ ascii "~" ++ decimal step
  | .last => ascii "$"
  | .pattern p =>
    explainedPattern p ++ ascii (if p.ignoreCase then "I" else "")
      ++ ascii (if p.multiline then "M" else "")
  | .plus 0 => ascii "[ADDR-NULL]"
  | .multiple 0 => ascii "[ADDR-NULL]"
  | .plus n => ascii "+" ++ decimal n
  | .multiple n => ascii "~" ++ decimal n

/-- A replacement.  A change of letters is shown where it differs from the one before. -/
def explainedSegments : LetterMode → Option LetterMode → List Segment → Bytes
  | _, _, [] => []
  | mode, once, s :: rest =>
    let mark :=
      if s.mode = mode && s.once = once then ""
      else
        match s.once, s.mode with
        | some .upper, _ => "\\u"
        | some _, _ => "\\l"
        | none, .upper => "\\U"
        | none, .lower => "\\L"
        | none, .asIs => "\\E"
    let reference := match s.group with
      | some 0 => ascii "&"
      | some n => ascii "\\" ++ decimal n
      | none => []
    ascii mark ++ octets s.text ++ reference ++ explainedSegments s.mode s.once rest

/-- The characters that a transliteration changes, in their order, and what they become. -/
def changedCharacters (source target : List Char) : List (Char × Char) :=
  (List.range 256).filterMap fun n =>
    let c := Char.ofNat n
    match (source.zip target).lookup c with
    | some d => if d = c then none else some (c, d)
    | none => none

/-- What a command does. -/
def explainedAction (a : Action) : Bytes :=
  let numbered (name : String) (n : Option Nat) : Bytes :=
    ascii name ++ match n with
      | some n => ascii " " ++ decimal n
      | none => []
  match a with
  | .delete => ascii "d"
  | .deleteFirst => ascii "D"
  | .print => ascii "p"
  | .printFirst => ascii "P"
  | .quit code => numbered "q" code
  | .abandon code => numbered "Q" code
  | .number => ascii "="
  | .list width => numbered "l" width
  | .retired width => numbered "L" width
  | .fileName => ascii "F"
  | .clear => ascii "z"
  | .substitute s =>
    let flags := [(s.pattern.ignoreCase, "i"), (s.pattern.multiline, "m"), (s.all, "g"),
      (s.evaluated, "e"), (s.printed, "p")].filterMap fun (given, flag) =>
        if given then some flag else none
    ascii "s" ++ explainedPattern s.pattern ++ explainedSegments .asIs none s.segments
      ++ ascii ("/" ++ String.join flags) ++ (s.nth.map decimal).getD []
      ++ match s.target with
        | some t => ascii "w" ++ t.path
        | none => []
  | .transliterate source target =>
    let changed := changedCharacters source target
    ascii "y/" ++ octets (changed.map (·.1)) ++ ascii "/" ++ octets (changed.map (·.2)) ++ ascii "/"
  | .insert text => ascii "i\\" ++ text
  | .append text => ascii "a\\" ++ text
  | .change text => ascii "c\\" ++ text
  | .run command => ascii "e " ++ command
  | .keep adds => ascii (if adds then "H" else "h")
  | .recall adds => ascii (if adds then "G" else "g")
  | .exchange => ascii "x"
  | .next => ascii "n"
  | .join => ascii "N"
  | .readFile path => ascii "r " ++ path
  | .readLine path => ascii "R " ++ path
  | .write target => ascii "w" ++ target.path
  | .writeFirst target => ascii "W" ++ target.path
  | .jump rule label =>
    let name := match rule with
      | .always => "b"
      | .replaced => "t"
      | .notReplaced => "T"
    ascii name ++ match label with
      | some label => ascii " " ++ octets label
      | none => []
  | .label name => ascii ":" ++ octets name
  | .openBlock => ascii "\x7b"
  | .closeBlock => ascii "\x7d"

/-- How far to the right a command stands, and how far those behind it, if so many blocks are
open. -/
def depthsAt (depth : Int) (c : Command) : Int × Int :=
  match c.action with
  | .openBlock => (depth, depth + 1)
  | .closeBlock => (depth - 1, depth - 1)
  | _ => (depth, depth)

def explainedCommand (depth : Int) (c : Command) : Bytes :=
  let addresses := [c.first, c.last].filterMap (·.map explainedAddress)
  List.replicate (2 * depth.toNat) 32 ++ (ascii ",").intercalate addresses
    ++ ascii (if c.negated then "!" else "") ++ ascii (if addresses.isEmpty then "" else " ")
    ++ explainedAction c.action ++ [Text.lineFeed]

/-- A script, one command a line, if so many blocks are open. -/
def explainedProgram : Int → List Command → Bytes
  | _, [] => []
  | depth, c :: rest =>
    let (here, further) := depthsAt depth c
    explainedCommand here c ++ explainedProgram further rest

end Relay.Userland.Edit
