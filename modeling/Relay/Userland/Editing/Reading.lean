import Relay.Userland.Editing.Escapes
import Relay.Userland.Editing.Flaw
import Relay.Userland.Editing.Script

/-!
# Reading scripts

A script is read character by character, and every reader answers what is left.  A script may come
in several parts; a `Draft` is what is known of it between two of them.
-/

namespace Relay.Userland.Edit

/-- How much of what goes beyond the standard is known. -/
inductive Latitude where
  | full
  /-- What the standard does not forbid. -/
  | careful
  | none
  deriving DecidableEq

structure ScriptRules where
  dialect : Regex.Dialect := {}
  latitude : Latitude := .full
  /-- Commands that touch other files or run programs are refused. -/
  sandboxed : Bool := false

/-- Whether nothing goes beyond the standard. -/
def ScriptRules.isPlain (r : ScriptRules) : Bool := r.latitude = .none

/-! ## Texts between delimiters -/

/-- The length of a bracket expression after its opening bracket: how many characters there are up
to the closing one, with it. -/
def bracketLength : Nat → Bool → List Char → Option Nat
  | 0, _, _ => none
  | _, _, [] => none
  | _, _, '\n' :: _ => none
  | n + 1, _, '[' :: m :: rest =>
    if m == ':' || m == '=' || m == '.' then
      match Regex.upToMark m rest with
      | some (name, rest) =>
        (bracketLength n false rest).map (· + name.length + 4)
      | none => none
    else (bracketLength n false (m :: rest)).map (· + 1)
  | n + 1, isFirst, c :: rest =>
    if c == ']' && !isFirst then some 1 else (bracketLength n false rest).map (· + 1)

/-- Reads a pattern up to its delimiter, which stands for itself within brackets and behind a
backslash. -/
def readPattern (delimiter : Char) : Nat → List Char → Option (List Char × List Char)
  | 0, _ => none
  | _, [] => none
  | n + 1, c :: cs =>
    if c == '\n' then none
    else if c == delimiter then some ([], cs)
    else if c == '\\' then
      match cs with
      | [] => none
      | c :: cs =>
        (readPattern delimiter n cs).map fun (part, rest) =>
          (if c == delimiter || c == '\n' then c :: part else '\\' :: c :: part, rest)
    else if c == '[' then
      let caret := if cs.head? == some '^' then 1 else 0
      match bracketLength cs.length true (cs.drop caret) with
      | some k =>
        let length := caret + k
        (readPattern delimiter n (cs.drop length)).map fun (part, rest) =>
          (c :: cs.take length ++ part, rest)
      | none => none
    else (readPattern delimiter n cs).map fun (part, rest) => (c :: part, rest)

/-- Reads a replacement up to its delimiter, which may stand behind a backslash. -/
def readReplacement (delimiter : Char) : List Char → Option (List Char × List Char)
  | [] => none
  | c :: cs =>
    if c == '\n' then none
    else if c == delimiter then some ([], cs)
    else if c == '\\' then
      match cs with
      | [] => none
      | c :: cs =>
        (readReplacement delimiter cs).map fun (part, rest) =>
          (if c == delimiter && c != '&' then c :: part else '\\' :: c :: part, rest)
    else (readReplacement delimiter cs).map fun (part, rest) => (c :: part, rest)

/-- How many characters are left where a text between delimiters turns out to have no end: those
from the end of the line on. -/
def leftOpen : List Char → Nat
  | [] => 0
  | '\\' :: _ :: cs => leftOpen cs
  | '\n' :: cs => cs.length + 1
  | _ :: cs => leftOpen cs

/-- The same for a pattern, in whose brackets a backslash protects nothing; at most `n` parts of it
are read. -/
def patternLeftOpen : Nat → List Char → Nat
  | 0, cs => cs.length
  | _, [] => 0
  | n + 1, '\\' :: _ :: cs => patternLeftOpen n cs
  | n + 1, '[' :: cs =>
    let caret := if cs.head? == some '^' then 1 else 0
    match bracketLength cs.length true (cs.drop caret) with
    | some k => patternLeftOpen n (cs.drop (caret + k))
    | none => (cs.dropWhile (· != '\n')).length
  | _, '\n' :: cs => cs.length + 1
  | n + 1, _ :: cs => patternLeftOpen n cs

/-- Refuses a text in which an escape for a control character holds another escape. -/
def checkEscapes (cs : List Char) (left : Nat) : Reading Unit :=
  if nestsEscapes cs then .error (.nestedEscape, left) else .ok ()

/-! ## Replacements -/

/-- The parts of a replacement whose escapes for characters are gone: the next part, which may have
a text already (last character first), and what is still to be read.  The changes of letters are not
part of the standard. -/
def segmentsOf (rules : ScriptRules) : Segment → List Char → List Segment
  | s, '\\' :: c :: cs =>
    let further (mode : LetterMode) (once : Option LetterMode) : List Segment :=
      closed s :: segmentsOf rules { mode, once } cs
    let literal : List Segment :=
      closed { s with text := c :: s.text } :: segmentsOf rules { mode := s.mode } cs
    if c.isDigit then
      closed { s with group := some (c.toNat - 48) } :: segmentsOf rules { mode := s.mode } cs
    else if rules.isPlain then literal
    else
      match c with
      | 'L' => further .lower none
      | 'U' => further .upper none
      | 'E' => further .asIs none
      | 'l' => further s.mode (some .lower)
      | 'u' => further s.mode (some .upper)
      | _ => literal
  | s, '&' :: cs => closed { s with group := some 0 } :: segmentsOf rules { mode := s.mode } cs
  | s, c :: cs => segmentsOf rules { s with text := c :: s.text } cs
  | s, [] => if s.text.isEmpty then [] else [closed s]
where
  /-- A part whose text was read from its start on. -/
  closed (s : Segment) : Segment := { s with text := s.text.reverse }

/-! ## Addresses -/

/-- Blanks within a line. -/
def isBlank (c : Char) : Bool := c == ' ' || c == '\t'

/-- Blanks between commands. -/
def isGap (c : Char) : Bool := c == ';' || isNumberSpace c

/-- Digits after blanks as a number of 64 bits, which is zero if there are none. -/
def takeNumber (cs : List Char) : Nat × List Char :=
  let cs := cs.dropWhile isBlank
  let ds := cs.takeWhile Char.isDigit
  (numberIn 10 ds % Nat.pow 2 64, cs.drop ds.length)

/-- The pattern of a text; an empty one stands for the pattern that was used last. -/
def patternOf (rules : ScriptRules) (source : List Char) (ignoreCase multiline : Bool)
    (left : Nat) : Reading Pattern :=
  if source.isEmpty then
    if ignoreCase || multiline then .error (.flaggedEmpty, left) else .ok {}
  else do
    checkEscapes source left
    let source := patternText (rules.latitude ≠ .full) source
    match Regex.parse { rules.dialect with ignoreCase, multiline } source with
    | .ok r => return { regex := some r.pattern, source, ignoreCase, multiline }
    | .error flaw => throw (.pattern flaw, left)

def readPatternAddress (rules : ScriptRules) (delimiter : Char) (cs : List Char) :
    Reading (Option Address × List Char) := do
  match readPattern delimiter cs.length cs with
  | none => throw (.openAddress, patternLeftOpen cs.length cs)
  | some (source, rest) =>
    let flags := if rules.isPlain then []
      else rest.takeWhile fun c => c == 'I' || c == 'M' || isBlank c
    let rest := rest.drop flags.length
    let p ← patternOf rules source (flags.contains 'I') (flags.contains 'M') rest.length
    return (some (.pattern p), rest)

def readAddress (rules : ScriptRules) (cs : List Char) :
    Reading (Option Address × List Char) :=
  let relative (make : Nat → Address) (rest : List Char) : Reading (Option Address × List Char) :=
    if rules.isPlain then .ok (none, cs)
    else
      let (n, rest) := takeNumber rest
      .ok (some (make n), rest)
  match cs with
  | '$' :: rest => .ok (some .last, rest)
  | '/' :: rest => readPatternAddress rules '/' rest
  | '\\' :: c :: rest => readPatternAddress rules c rest
  | ['\\'] => .error (.openAddress, 0)
  | '+' :: rest => relative .plus rest
  | '~' :: rest => relative .multiple rest
  | c :: _ =>
    if c.isDigit then
      let (n, rest) := takeNumber cs
      match rest.dropWhile isBlank, rules.isPlain with
      | '~' :: rest, false =>
        let (k, rest) := takeNumber rest
        .ok (some (if k = 0 then .line n else .step n k), rest)
      | _, _ => .ok (some (.line n), rest)
    else .ok (none, cs)
  | [] => .ok (none, [])

/-- Reads the addresses of a command and its negation; what follows starts with the command. -/
def readAddresses (rules : ScriptRules) (cs : List Char) :
    Reading (Option Address × Option Address × Bool × List Char) := do
  let (first, cs) ← readAddress rules cs
  let first := first.map Address.alone
  if first.any Address.isRelative then throw (.relativeFirst, cs.length)
  let cs := if first.isSome then cs.dropWhile isBlank else cs
  let (last, cs) ←
    match first, cs with
    | some _, ',' :: rest =>
      let rest := rest.dropWhile isBlank
      match ← readAddress rules rest with
      | (none, left) => throw (.comma, left.length - 1)
      | (some a, rest) => pure (some a, rest.dropWhile isBlank)
    | _, _ => pure (none, cs)
  match first, last with
  | some (.line 0), some (.pattern _) =>
    if rules.isPlain then throw (.lineZero, cs.length - 1)
  | some (.line 0), _ => throw (.lineZero, cs.length - 1)
  | _, _ => pure ()
  match cs with
  | '!' :: rest =>
    match rest.dropWhile isBlank with
    | '!' :: rest => throw (.manyNegations, rest.length)
    | rest => return (first, last, true, rest)
  | _ => return (first, last, false, cs)

/-! ## Texts, names and ends -/

/-- The text of a command up to the end of its line; a backslash protects a line feed.  The answer
starts behind that line, and tells whether the text goes on in the next part of the script. -/
def takeTextLine : List Char → List Char × List Char × Bool
  | [] => ([], [], false)
  | ['\\'] => ([], [], true)
  | '\\' :: c :: cs =>
    let (text, rest, goesOn) := takeTextLine cs
    ('\\' :: c :: text, rest, goesOn)
  | '\n' :: cs => ([], cs, false)
  | c :: cs =>
    let (text, rest, goesOn) := takeTextLine cs
    (c :: text, rest, goesOn)

/-- What a command with a text does, the text as it is written, and whether it goes on in the next
part of the script. -/
structure TextAction where
  make : Bytes → Action
  text : List Char := []
  goesOn : Bool := false

/-- What a text stands for.  One that goes on although nothing follows it is left as it is
written. -/
def TextAction.action (t : TextAction) : Action :=
  t.make (octets (if t.goesOn then t.text else plainText t.text.length t.text))

/-- Reads a text, or the rest of one, to its end. -/
def continueText (t : TextAction) (cs : List Char) : Reading (TextAction × List Char) := do
  let (line, rest, goesOn) := takeTextLine cs
  let text := t.text ++ line ++ ['\n']
  if !goesOn then checkEscapes text rest.length
  return ({ t with text, goesOn }, rest)

/-- Reads the text of a command, which may start on the next line.  If it starts on the same line its
first character protects nothing. -/
def readText (rules : ScriptRules) (make : Bytes → Action) (cs : List Char) :
    Reading (TextAction × List Char) :=
  match cs.dropWhile isBlank with
  | [] => .error (.noText, 0)
  | ['\\'] =>
    if rules.isPlain then .error (.incomplete, 0) else .ok ({ make, goesOn := true }, [])
  | '\\' :: '\n' :: rest => continueText { make } rest
  | '\\' :: c :: rest => continueText { make, text := [c] } rest
  | rest => if rules.isPlain then .error (.noText, rest.tail.length) else continueText { make } rest

/-- Reads the name of a file, which takes the rest of the line. -/
def readName (cs : List Char) : Reading (Bytes × List Char) :=
  let rest := cs.dropWhile isBlank
  let name := rest.takeWhile (· != '\n')
  let rest := (rest.drop name.length).tail
  if name.isEmpty then .error (.noFile, rest.length) else .ok (octets name, rest)

/-- Where output to a file goes. -/
def targetOf (name : Bytes) : Target :=
  if name = Target.output.path then .output
  else if name = Target.errors.path then .errors
  else if name = Target.input.path then .input
  else .file name

/-- Reads a label, which ends at a blank, a semicolon or a closing brace. -/
def takeLabel (cs : List Char) : List Char × List Char :=
  let cs := cs.dropWhile isBlank
  let name := cs.takeWhile fun c => !isGap c && c != '\x7d'
  (name, cs.drop name.length)

def readEnd (cs : List Char) : Reading (List Char) :=
  match cs.dropWhile isBlank with
  | [] => .ok []
  | c :: rest =>
    if c == '\x7d' || c == '#' then .ok (c :: rest)
    else if c == ';' || c == '\n' then .ok rest
    else .error (.extraCharacters, rest.length)

/-! ## Substitutions -/

/-- The options behind a substitution. -/
structure SubstitutionFlags where
  all : Bool := false
  nth : Option Nat := none
  printed : Bool := false
  evaluated : Bool := false
  ignoreCase : Bool := false
  multiline : Bool := false
  target : Option Target := none

/-- Reads the options behind a substitution, at most `n` of them. -/
def readFlags (rules : ScriptRules) :
    Nat → SubstitutionFlags → List Char → Reading (SubstitutionFlags × List Char)
  | 0, f, cs => .ok (f, cs)
  | _, f, [] => .ok (f, [])
  | n + 1, f, c :: rest => do
    if rules.isPlain && "iImMe".toList.contains c then throw (.unknownOption, rest.length)
    if rules.sandboxed && (c == 'e' || c == 'w') then throw (.disabled, rest.length)
    match c with
    | 'i' => readFlags rules n { f with ignoreCase := true } rest
    | 'I' => readFlags rules n { f with ignoreCase := true } rest
    | 'm' => readFlags rules n { f with multiline := true } rest
    | 'M' => readFlags rules n { f with multiline := true } rest
    | 'e' => readFlags rules n { f with evaluated := true } rest
    | 'p' =>
      if f.printed then throw (.twice (quote "p"), rest.length)
      else readFlags rules n { f with printed := true } rest
    | 'g' =>
      if f.all then throw (.twice (quote "g"), rest.length)
      else readFlags rules n { f with all := true } rest
    | 'w' =>
      let (name, rest) ← readName rest
      return ({ f with target := some (targetOf name) }, rest)
    | '\n' => return (f, rest)
    | ';' => return (f, rest)
    | '#' => return (f, c :: rest)
    | '\x7d' => return (f, c :: rest)
    | _ =>
      if c.isDigit then
        let (k, after) := takeNumber (c :: rest)
        if f.nth.isSome then throw (.twice "number", rest.length)
        else if k = 0 then throw (.zeroNumber, after.length)
        else readFlags rules n { f with nth := some k } after
      else if isBlank c then readFlags rules n f rest
      else throw (.unknownOption, rest.length)
where
  /-- A letter between the signs that stand for quotes. -/
  quote (s : String) : String := String.ofList ('\x60' :: s.toList ++ ['\''])

/-- A substitution whose pattern is not looked at yet. -/
structure PlainSubstitution where
  source : List Char
  segments : List Segment
  flags : SubstitutionFlags

def readSubstitution (rules : ScriptRules) (cs : List Char) :
    Reading (PlainSubstitution × List Char) := do
  match cs with
  | [] => throw (.openSubstitution, 0)
  | delimiter :: rest =>
    match readPattern delimiter rest.length rest with
    | none => throw (.openSubstitution, patternLeftOpen rest.length rest)
    | some (source, rest) =>
      match readReplacement delimiter rest with
      | none => throw (.openSubstitution, leftOpen rest)
      | some (replacement, rest) =>
        checkEscapes replacement rest.length
        let segments := segmentsOf rules {} (replacementText replacement)
        let (flags, rest) ← readFlags rules (rest.length + 1) {} rest
        return ({ source, segments, flags }, rest)

def PlainSubstitution.action (rules : ScriptRules) (s : PlainSubstitution) (left : Nat) :
    Reading Action := do
  let f := s.flags
  let pattern ← patternOf rules s.source f.ignoreCase f.multiline left
  let number := largestReference s.segments
  if rules.latitude = .full && pattern.regex.any fun p => p.groupCount < number then
    throw (.badReference number, left)
  return .substitute { pattern, segments := s.segments, all := f.all, nth := f.nth
                       printed := f.printed, evaluated := f.evaluated, target := f.target }

def readTransliteration (cs : List Char) : Reading (Action × List Char) := do
  match cs with
  | [] => throw (.openTransliteration, 0)
  | delimiter :: rest =>
    match readReplacement delimiter rest with
    | none => throw (.openTransliteration, leftOpen rest)
    | some (source, rest) =>
      checkEscapes source rest.length
      match readReplacement delimiter rest with
      | none => throw (.openTransliteration, leftOpen rest)
      | some (target, rest) =>
        checkEscapes target rest.length
        let source := plainText source.length source
        let target := plainText target.length target
        if source.length ≠ target.length then throw (.lengths, rest.length)
        return (.transliterate source target, ← readEnd rest)

/-! ## Commands -/

/-- What a letter in a script stands for. -/
inductive Reaction where
  | act (a : Action)
  | actWithText (t : TextAction)
  | replace (s : PlainSubstitution)
  /-- Nothing that is done later. -/
  | remark

/-- The newest version of the language that a script may ask for. -/
def newestVersion : List Nat := [4, 9, 0]

/-- Reads what a command with some addresses does, after its letter; `depth` blocks are open. -/
def readAction (rules : ScriptRules) (addresses depth : Nat) (c : Char) (rest : List Char) :
    Reading (Reaction × List Char) := do
  let plain (a : Action) : Reading (Reaction × List Char) := do return (.act a, ← readEnd rest)
  let numbered (make : Option Nat → Action) : Reading (Reaction × List Char) := do
    let cs := rest.dropWhile isBlank
    if cs.head?.any Char.isDigit && !rules.isPlain then
      let (n, after) := takeNumber cs
      return (.act (make (some n)), ← readEnd after)
    else return (.act (make none), ← readEnd rest)
  let withText (make : Bytes → Action) : Reading (Reaction × List Char) := do
    let (t, rest) ← readText rules make rest
    return (.actWithText t, rest)
  let withName (make : Bytes → Action) : Reading (Reaction × List Char) := do
    let (name, after) ← readName rest
    return (.act (make name), after)
  let jump (rule : JumpRule) : Reading (Reaction × List Char) :=
    let (name, after) := takeLabel rest
    .ok (.act (.jump rule (if name.isEmpty then none else some name)), after)
  if rules.isPlain && "eFLQRTvWz".toList.contains c then throw (.unknownCommand c, rest.length)
  if rules.sandboxed && "erRwW".toList.contains c then throw (.disabled, rest.length)
  let single := if rules.isPlain then "qQ=ailr" else "qQ"
  if 1 < addresses && single.toList.contains c then throw (.oneAddress, rest.length)
  match c with
  | '\x7b' => return (.act .openBlock, rest)
  | '\x7d' =>
    if depth = 0 then throw (.strayClosing, rest.length)
    else if 0 < addresses then throw (.closingAddress, rest.length)
    else plain .closeBlock
  | ':' =>
    if 0 < addresses then throw (.labelAddress, rest.length)
    else
      let (name, after) := takeLabel rest
      if name.isEmpty then throw (.noLabel, after.length) else return (.act (.label name), after)
  | '#' =>
    if 0 < addresses then throw (.commentAddress, rest.length)
    else return (.remark, (rest.dropWhile (· != '\n')).tail)
  | 'v' =>
    let (name, after) := takeLabel rest
    let wanted := (pieces (· == '.') name).map fun ds => numberIn 10 (ds.takeWhile Char.isDigit)
    if newestVersion < wanted then throw (.newerVersion, after.length)
    else return (.remark, after)
  | 'd' => plain .delete
  | 'D' => plain .deleteFirst
  | 'p' => plain .print
  | 'P' => plain .printFirst
  | '=' => plain .number
  | 'F' => plain .fileName
  | 'z' => plain .clear
  | 'h' => plain (.keep false)
  | 'H' => plain (.keep true)
  | 'g' => plain (.recall false)
  | 'G' => plain (.recall true)
  | 'x' => plain .exchange
  | 'n' => plain .next
  | 'N' => plain .join
  | 'q' => numbered .quit
  | 'Q' => numbered .abandon
  | 'l' => numbered .list
  | 'L' => numbered .retired
  | 'a' => withText .append
  | 'i' => withText .insert
  | 'c' => withText .change
  | 'e' =>
    let cs := rest.dropWhile isBlank
    if cs.isEmpty || cs.head? == some '\n' then return (.act (.run []), cs.tail)
    else withText .run
  | 'r' => withName .readFile
  | 'R' => withName .readLine
  | 'w' => withName fun name => .write (targetOf name)
  | 'W' => withName fun name => .writeFirst (targetOf name)
  | 'b' => jump .always
  | 't' => jump .replaced
  | 'T' => jump .notReplaced
  | 's' =>
    let (s, rest) ← readSubstitution rules rest
    return (.replace s, rest)
  | 'y' =>
    let (a, rest) ← readTransliteration rest
    return (.act a, rest)
  | c => throw (.unknownCommand c, rest.length)

/-! ## Scripts -/

/-- Why a script cannot be read further. -/
structure Breakdown where
  flaw : ScriptFlaw
  /-- How many characters are left. -/
  left : Nat
  /-- The files that the commands before write to, in their order. -/
  targets : List Bytes

/-- What a reader answers, behind commands that write to some files. -/
def broken {α : Type} (r : Reading α) (targets : List Bytes) : Except Breakdown α :=
  r.mapError fun (flaw, left) => { flaw, left, targets }

/-- A script that is not read to its end; `π` tells places in it. -/
structure Draft (π : Type) where
  /-- The commands, last one first. -/
  commands : List Command := []
  /-- Where blocks were opened that are still open, last one first. -/
  blocks : List π := []
  /-- The last command, whose text goes on. -/
  openText : Option ((Action → Command) × TextAction) := none

namespace Draft

variable {π : Type}

def add (d : Draft π) (c : Command) : Draft π := { d with commands := c :: d.commands }

/-- Adds a command with a text, which may go on. -/
def addText (d : Draft π) (command : Action → Command) (t : TextAction) : Draft π :=
  if t.goesOn then { d with openText := some (command, t) }
  else { d with openText := none }.add (command t.action)

/-- Ends the text of the last command, which nothing continues. -/
def endText (d : Draft π) : Draft π :=
  match d.openText with
  | some (command, t) => { d with openText := none }.add (command t.action)
  | none => d

/-- The files that the commands write to, in their order. -/
def targets (d : Draft π) : List Bytes := d.commands.reverse.filterMap Command.file?

/-- Reads a command of a part of a script; `place` tells a place by the number of characters that
are left. -/
def readCommand (rules : ScriptRules) (place : Nat → π) (d : Draft π) (cs : List Char) :
    Except Breakdown (Draft π × List Char) := do
  let (first, last, negated, cs) ← broken (readAddresses rules cs) d.targets
  let command (action : Action) : Command := { first, last, negated, action }
  match cs with
  | [] => broken (.error (.missingCommand, 0)) d.targets
  | c :: rest =>
    let addresses := (if first.isSome then 1 else 0) + (if last.isSome then 1 else 0)
    let (reaction, rest) ← broken (readAction rules addresses d.blocks.length c rest) d.targets
    match reaction with
    | .remark => return (d, rest)
    | .actWithText t => return (d.addText command t, rest)
    | .replace s =>
      let targets := d.targets ++ match s.flags.target with
        | some (.file path) => [path]
        | _ => []
      return (d.add (command (← broken (s.action rules rest.length) targets)), rest)
    | .act action =>
      let blocks := match action with
        | .openBlock => place cs.length :: d.blocks
        | .closeBlock => d.blocks.tail
        | _ => d.blocks
      return ({ d with blocks }.add (command action), rest)

/-- Reads at most `n` commands of a part of a script. -/
def readCommands (rules : ScriptRules) (place : Nat → π) :
    Nat → Draft π → List Char → Except Breakdown (Draft π)
  | 0, d, _ => .ok d
  | n + 1, d, cs =>
    match cs.dropWhile isGap with
    | [] => .ok d
    | cs => do
      let (d, rest) ← d.readCommand rules place cs
      readCommands rules place n d rest

def readPart (rules : ScriptRules) (place : Nat → π) (d : Draft π) (cs : List Char) :
    Except Breakdown (Draft π) := do
  match d.openText with
  | none => readCommands rules place (cs.length + 1) d cs
  | some (command, t) =>
    let (t, rest) ← broken (continueText t cs) d.targets
    readCommands rules place (rest.length + 1) (d.addText command t) rest

end Draft

end Relay.Userland.Edit
