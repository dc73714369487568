import Relay.Userland.Floating
import Relay.Userland.Glob
import Relay.Userland.Printing
import Relay.Userland.Regex

/-!
# Reading regular expressions

The two dialects of POSIX, which differ in the operators that need a backslash.  A pattern is cut
into tokens, and the tokens are put together on a stack of open groups.  Tools for editing know more
escapes and are stricter about operators with nothing in front.
-/

namespace Relay.Userland.Regex

/-- How patterns are written. -/
structure Dialect where
  /-- Parentheses, braces, bars, plus and question marks are operators without a backslash. -/
  extended : Bool := false
  ignoreCase : Bool := false
  /-- Lines within the text have starts and ends of their own, and only a line feed itself matches
  one. -/
  multiline : Bool := false
  /-- What ends a line within the text. -/
  ending : Char := '\n'
  /-- An operator that has nothing to work on is a mistake. -/
  editing : Bool := false
  /-- Only what the standard asks for has a meaning behind a backslash. -/
  plain : Bool := false
  /-- A closing parenthesis that closes nothing stands for itself. -/
  looseClosing : Bool := false
  /-- A class without its outer brackets is an ordinary bracket expression. -/
  bareClasses : Bool := false

/-- Why a pattern cannot be read. -/
inductive Flaw where
  | openBracket
  | unknownClass
  | unknownElement
  | badRange
  | openGroup
  | closedGroup
  | openBounds
  | badBounds
  | tooBig
  | badReference
  | lastBackslash
  | noOperand
  | bareClass
  deriving DecidableEq

def Flaw.message : Flaw → String
  | .openBracket => "Unmatched [, [^, [:, [., or [="
  | .unknownClass => "Invalid character class name"
  | .unknownElement => "Invalid collation character"
  | .badRange => "Invalid range end"
  | .openGroup => "Unmatched ( or \\("
  | .closedGroup => "Unmatched ) or \\)"
  | .openBounds => "Unmatched \\\x7b"
  | .badBounds => "Invalid content of \\\x7b\\\x7d"
  | .tooBig => "Regular expression too big"
  | .badReference => "Invalid back reference"
  | .lastBackslash => "Trailing backslash"
  | .noOperand => "Invalid preceding regular expression"
  | .bareClass => "character class syntax is [[:space:]], not [:space:]"

/-! ## Parts of patterns -/

/-- A single character as a pattern. -/
def literal (d : Dialect) (c : Char) : Regex :=
  if d.ignoreCase then .one fun x => x.toLower == c.toLower else .one (· == c)

/-- A pattern that stands for its own characters. -/
def fixed (d : Dialect) (cs : List Char) : Regex :=
  cs.foldr (fun c q => .follow (literal d c) q) .empty

def isWordChar (c : Char) : Bool := c.isAlphanum || c == '_'

def wordStart : Regex := .between fun a b => !a.any isWordChar && b.any isWordChar

def wordEnd : Regex := .between fun a b => a.any isWordChar && !b.any isWordChar

def textStart : Regex := .between fun a _ => a.isNone

def textEnd : Regex := .between fun _ b => b.isNone

def lineStart (d : Dialect) : Regex :=
  if d.multiline then .between fun a _ => a.all (· == d.ending) else textStart

def lineEnd (d : Dialect) : Regex :=
  if d.multiline then .between fun _ b => b.all (· == d.ending) else textEnd

/-- A pattern for whole lines. -/
def asLine (p : Regex) : Regex := .follow textStart (.follow p textEnd)

/-! ## Brackets -/

/-- What stands before a mark and a closing bracket, and what stands behind them. -/
def upToMark (mark : Char) : List Char → Option (List Char × List Char)
  | c :: ']' :: rest =>
    if c == mark then some ([], rest)
    else (upToMark mark (']' :: rest)).map fun (name, rest) => (c :: name, rest)
  | c :: rest => (upToMark mark rest).map fun (name, rest) => (c :: name, rest)
  | [] => none

/-- A member of a bracket expression: a character, or the test of a class. -/
abbrev BracketItem := Char ⊕ (Char → Bool)

def readBracketItem (cs : List Char) : Except Flaw (BracketItem × List Char) :=
  match cs with
  | [] => .error .openBracket
  | '[' :: m :: rest =>
    if m == ':' || m == '=' || m == '.' then
      match upToMark m rest with
      | none => .error .openBracket
      | some (name, rest) =>
        if m == ':' then
          match classTest? (String.ofList name) with
          | some test => .ok (.inr test, rest)
          | none => .error .unknownClass
        else
          match name with
          | [c] => .ok (if m == '=' then .inr (· == c) else .inl c, rest)
          | _ => .error .unknownElement
    else .ok (.inl '[', m :: rest)
  | c :: rest => .ok (.inl c, rest)

/-- Reads a bracket expression after its opening, at most `n` members: the characters that it
accepts, and the rest. -/
def readBracket (d : Dialect) : Nat → Bool → List Char → Except Flaw ((Char → Bool) × List Char)
  | 0, _, _ => .error .openBracket
  | n + 1, isFirst, cs => do
    match cs, isFirst with
    | ']' :: rest, false => return (fun _ => false, rest)
    | '-' :: c :: _, false => if c != ']' then throw .badRange
    | _, _ => pure ()
    let (item, rest) ← readBracketItem cs
    let (test, rest) ←
      match rest with
      | '-' :: c :: rest' =>
        if c == ']' then pure (testOf item, rest)
        else do
          let (last, rest) ← readBracketItem (c :: rest')
          match item, last with
          | .inl a, .inl b =>
            if upper b < upper a then throw .badRange
            else if d.editing then pure (fun x => upper a ≤ upper x && upper x ≤ upper b, rest)
            else pure (fun x => a ≤ x && x ≤ b, rest)
          | _, _ => throw .badRange
      | _ => pure (testOf item, rest)
    let (more, rest) ← readBracket d n false rest
    return (fun x => test x || more x, rest)
where
  /-- A character in capitals, where the difference does not count. -/
  upper (c : Char) : Char := if d.ignoreCase then c.toUpper else c
  /-- The characters of a member. -/
  testOf (item : BracketItem) : Char → Bool :=
    match item with
    | .inl c => (· == c)
    | .inr test => test

/-- Whether a bracket expression looks like a class that lacks its outer brackets. -/
def isBareClass (cs : List Char) : Bool :=
  let inside := cs.takeWhile (· != ']')
  inside.length < cs.length && inside.head? == some ':' && inside.getLast? == some ':'
    && inside.any (· != ':') && !inside.contains '[' && !inside.contains '-'

/-! ## Bounds -/

def mostRepetitions : Nat := 32767

/-- A number up to a comma or the closing text: nothing if there are no digits, and an error if
there is anything else. -/
def boundOf (cs : List Char) : Except Unit (Option Nat) :=
  if cs.all Char.isDigit then .ok (natOf? (octets cs)) else .error ()

/-- What stands before a text, and what stands behind it. -/
def upToText (text : List Char) : List Char → Option (List Char × List Char)
  | [] => none
  | c :: cs =>
    if text.isPrefixOf (c :: cs) then some ([], (c :: cs).drop text.length)
    else (upToText text cs).map fun (before, rest) => (c :: before, rest)

/-- Reads the bounds of a repetition, of which either may be missing, up to the text that closes
them; nothing if they are none, where that is allowed. -/
def readBounds (lenient : Bool) (closing cs : List Char) :
    Except Flaw (Option ((Nat × Option Nat) × List Char)) :=
  match upToText closing cs with
  | none =>
    if lenient then .ok none
    else .error .openBounds
  | some (inside, rest) =>
    let low := inside.takeWhile (· != ',')
    let high := inside.drop (low.length + 1)
    match boundOf low, boundOf high, decide (low.length < inside.length) with
    | .ok none, _, false => .error .badBounds
    | .ok (some n), _, false => check n (some n) rest
    | .ok n, .ok m, true => check (n.getD 0) m rest
    | _, _, _ => if lenient then .ok none else .error .badBounds
where
  /-- Checks the bounds against each other. -/
  check (least : Nat) (most : Option Nat) (rest : List Char) :
      Except Flaw (Option ((Nat × Option Nat) × List Char)) :=
    if most.any (· < least) then .error .badBounds
    else if mostRepetitions < most.getD least then .error .tooBig
    else .ok (some ((least, most), rest))

/-! ## Tokens -/

/-- The operators of a pattern, told apart from ordinary characters. -/
inductive Token where
  | plain (p : Regex)
  /-- A bracket expression that looks like a class without its outer brackets. -/
  | bareClass
  /-- A place, which cannot be repeated. -/
  | anchor (p : Regex)
  /-- The start of a line, if it comes first. -/
  | caret
  | reference (number : Nat)
  /-- A repetition of what comes before, and its own characters. -/
  | repetition (least : Nat) (most : Option Nat) (text : List Char)
  | bar
  | opening
  | closing
  /-- A token that cannot be read. -/
  | flawed (flaw : Flaw)

/-- The token that an escaped character stands for, if it is no operator. -/
def escaped (d : Dialect) (c : Char) : Token :=
  let isSpace (c : Char) : Bool := isNumberSpace c
  if c.isDigit && c != '0' then .reference (c.toNat - 48)
  else if d.plain then .plain (literal d c)
  else match c with
  | 'w' => .plain (.one isWordChar)
  | 'W' => .plain (.one fun c => !isWordChar c)
  | 's' => .plain (.one isSpace)
  | 'S' => .plain (.one fun c => !isSpace c)
  | '<' => .anchor wordStart
  | '>' => .anchor wordEnd
  | 'b' => .anchor (.either wordStart wordEnd)
  | 'B' => .anchor (.between fun a b => a.any isWordChar == b.any isWordChar)
  | '\x60' => .anchor textStart
  | '\'' => .anchor textEnd
  | _ => .plain (literal d c)

/-- The token of an operator, if a character is one. -/
def operator? (c : Char) : Option Token :=
  match c with
  | '(' => some .opening
  | ')' => some .closing
  | '|' => some .bar
  | '+' => some (.repetition 1 none ['+'])
  | '?' => some (.repetition 0 (some 1) ['?'])
  | _ => none

/-- The first token of a pattern that is not empty, and the rest. -/
def nextToken (d : Dialect) (c : Char) (cs : List Char) : Except Flaw (Token × List Char) := do
  let bounds (lenient : Bool) (closing cs : List Char) : Except Flaw (Token × List Char) := do
    match ← readBounds lenient closing cs with
    | some ((least, most), rest) =>
      let inside := (cs.take (cs.length - rest.length)).filter (· != '\\')
      return (.repetition least most ('\x7b' :: inside), rest)
    | none => return (.plain (literal d '\x7b'), cs)
  match c, cs with
  | '[', _ =>
    let (negated, inside) := match cs with
      | '^' :: rest => (true, rest)
      | _ => (false, cs)
    let (accept, rest) ← readBracket d (inside.length + 1) true inside
    if !d.bareClasses && isBareClass inside then return (.bareClass, rest)
    let accept := if d.ignoreCase
      then fun c => accept c || accept c.toLower || accept c.toUpper else accept
    let spared (c : Char) : Bool := d.multiline && negated && c == '\n'
    return (.plain (.one fun c => accept c != negated && !spared c), rest)
  | '\\', [] => throw .lastBackslash
  | '\\', e :: rest =>
    if !d.extended && e == '\x7b' then bounds false ['\\', '\x7d'] rest
    else
      let operator := if d.extended || d.plain && "|+?".toList.contains e then none
        else operator? e
      return (operator.getD (escaped d e), rest)
  | '.', _ => return (.plain (.one fun c => !(d.multiline && c == '\n')), cs)
  | '*', _ => return (.repetition 0 none ['*'], cs)
  | '^', _ => return (.caret, cs)
  | '$', _ =>
    let ends := cs.isEmpty || ['\\', ')'].isPrefixOf cs || ['\\', '|'].isPrefixOf cs
    return (if d.extended || ends then .anchor (lineEnd d) else .plain (literal d c), cs)
  | c, cs =>
    if d.extended && c == '\x7b' then bounds (!d.editing) ['\x7d'] cs
    else return ((if d.extended then operator? c else none).getD (.plain (literal d c)), cs)

/-- The tokens of a pattern, of which there are at most `n`, up to one that cannot be read. -/
def tokens (d : Dialect) : Nat → List Char → List Token
  | 0, _ => []
  | _, [] => []
  | n + 1, c :: cs =>
    match nextToken d c cs with
    | .ok (t, rest) => t :: tokens d n rest
    | .error flaw => [.flawed flaw]

/-! ## Assembly -/

/-- A pattern that is being read: finished alternatives, the parts of the current one (last first),
and, for an open group, its number. -/
structure Level where
  done : Option Regex := none
  parts : List Regex := []
  /-- The last part is a place, or there is none. -/
  fresh : Bool := true
  /-- The last part is a repetition. -/
  repeated : Bool := false
  number : Nat := 0
  /-- The groups that an alternative can refer back to from its start on. -/
  known : List Nat := []
  /-- The groups of finished alternatives. -/
  met : List Nat := []

def Level.close (l : Level) : Regex :=
  let current := l.parts.foldl (fun q p => match q with
    | .empty => p
    | q => .follow p q) .empty
  match l.done with
  | some d => .either d current
  | none => current

/-- A level with one more part. -/
def Level.add (l : Level) (p : Regex) : Level :=
  { l with parts := p :: l.parts, fresh := false, repeated := false }

/-- A pattern as it was read, with warnings about it. -/
structure Parsed where
  pattern : Regex
  warnings : List String := []

/-- What is said about a repetition that has nothing in front. -/
def startWarning (text : List Char) : String :=
  (if text.head? == some '\x7b' then "\x7b...\x7d" else String.ofList text)
    ++ " at start of expression"

/-- Puts tokens together: how many groups there were, the numbers of those that the current
alternative can refer back to, and the groups that are open. -/
def assemble (d : Dialect) : List Token → Nat → List Nat → List Level → Except Flaw Parsed
  | [], _, _, [l] => .ok { pattern := l.close }
  | [], _, _, _ => .error .openGroup
  | _, _, _, [] => .error .closedGroup
  | t :: ts, count, closed, l :: outer =>
    let go (l : Level) : Except Flaw Parsed := assemble d ts count closed (l :: outer)
    match t with
    | .plain p => go (l.add p)
    | .bareClass => do
      let _ ← go (l.add .empty)
      throw .bareClass
    | .flawed flaw =>
      let isBounds := flaw = .openBounds || flaw = .badBounds || flaw = .tooBig
      let unfit := l.fresh || l.repeated && !d.extended
      .error (if isBounds && d.editing && unfit then .noOperand else flaw)
    | .anchor p => go { l.add p with fresh := true }
    | .caret =>
      if d.extended || l.parts.isEmpty then go { l.add (lineStart d) with fresh := true }
      else go (l.add (literal d '^'))
    | .reference k =>
      if closed.contains k then go (l.add (.again k (if d.ignoreCase then Char.toLower else id)))
      else .error .badReference
    | .repetition least most text =>
      match l.fresh, l.parts with
      | false, p :: rest =>
        let doubled := l.repeated && d.editing && !d.extended
        if doubled && (text == ['*'] || text.head? == some '\x7b') then .error .noOperand
        else go { l with parts := .times least most p :: rest, repeated := true }
      | _, parts =>
        if d.editing && (d.extended || text.head? == some '\x7b') then .error .noOperand
        else if d.extended then do
          let closure := match parts with
            | p :: rest => { l with parts := .times least most p :: rest }
            | [] => l
          let r ← go closure
          return { r with warnings := startWarning text :: r.warnings }
        else
          go { l with parts := (text.map (literal d)).reverse ++ l.parts
                      fresh := false, repeated := false }
    | .bar =>
      assemble d ts count l.known ({ number := l.number, done := some l.close, known := l.known
                                     met := l.met ++ closed } :: outer)
    | .opening =>
      assemble d ts (count + 1) closed ({ number := count + 1, known := closed } :: l :: outer)
    | .closing =>
      match outer with
      | o :: outer =>
        assemble d ts count (l.number :: l.met ++ closed)
          (o.add (.group l.number l.close) :: outer)
      | [] =>
        if d.looseClosing then go (l.add (literal d ')')) else .error .closedGroup

/-- Reads a pattern. -/
def parse (d : Dialect) (cs : List Char) : Except Flaw Parsed :=
  assemble d (tokens d (cs.length + 1) cs) 0 [] [{}]

end Relay.Userland.Regex
