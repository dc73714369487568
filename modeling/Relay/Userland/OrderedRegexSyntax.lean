import Relay.Userland.Floating
import Relay.Userland.OrderedRegex
import Relay.Userland.Printing
import Relay.Userland.RegexSyntax

/-!
# Reading patterns whose choices are tried in order

A pattern is read item by item onto a stack of open groups.  It is read twice: the first time tells
the names of its groups, which may be used before they are given.
-/

namespace Relay.Userland.OrderedRegex

/-! ## Flaws -/

/-- Why a pattern cannot be read. -/
inductive Flaw where
  | lastBackslash
  | lastControl
  | badControl
  | badEscape
  | foreignEscape
  | codePointByNumber
  | openOctal
  | badOctal
  | badHex
  | noDigits
  | bigCharacter
  | bigOctal
  | badProperty
  | unknownProperty
  | badGroupCall
  | badNameEscape
  | openClass
  | unknownClass
  | classOutside
  | collating
  | classEscape
  | classNewline
  | badRange
  | emptyRange
  | noOperand
  | bigBound
  | wrongBounds
  | openGroup
  | closedGroup
  | openComment
  | openCondition
  | badOption
  | badHyphen
  | badNamed
  | badVerb
  | badWord
  | badRecursion
  | noName
  | badName
  | digitName
  | longName
  | sameName
  | noGroup
  | noAssertion
  | manyBranches
  | manyDefinitions
  | unevenWidth
  | restartInside
  | bigCallout
  deriving DecidableEq

def Flaw.message : Flaw → String
  | .lastBackslash => "\\ at end of pattern"
  | .lastControl => "\\c at end of pattern"
  | .badControl => "\\c must be followed by a printable ASCII character"
  | .badEscape => "unrecognized character follows \\"
  | .foreignEscape =>
    "PCRE2 does not support \\F, \\L, \\l, \\N\x7bname\x7d, \\U, or \\u"
  | .codePointByNumber => "\\N\x7bU+dddd\x7d is supported only in Unicode (UTF) mode"
  | .openOctal => "missing opening brace after \\o"
  | .badOctal => "non-octal character in \\o\x7b\x7d (closing brace missing?)"
  | .badHex => "non-hex character in \\x\x7b\x7d (closing brace missing?)"
  | .noDigits => "digits missing in \\x\x7b\x7d or \\o\x7b\x7d or \\N\x7bU+\x7d"
  | .bigCharacter => "character code point value in \\x\x7b\x7d or \\o\x7b\x7d is too large"
  | .bigOctal => "octal value is greater than \\377 in 8-bit non-UTF-8 mode"
  | .badProperty => "malformed \\P or \\p sequence"
  | .unknownProperty => "unknown property after \\P or \\p"
  | .badGroupCall =>
    "\\g is not followed by a braced, angle-bracketed, or quoted name/number or by a plain number"
  | .badNameEscape => "\\k is not followed by a braced, angle-bracketed, or quoted name"
  | .openClass => "missing terminating ] for character class"
  | .unknownClass => "unknown POSIX class name"
  | .classOutside => "POSIX named classes are supported only within a class"
  | .collating => "POSIX collating elements are not supported"
  | .classEscape => "escape sequence is invalid in character class"
  | .classNewline => "\\N is not supported in a class"
  | .badRange => "invalid range in character class"
  | .emptyRange => "range out of order in character class"
  | .noOperand => "quantifier does not follow a repeatable item"
  | .bigBound => "number too big in \x7b\x7d quantifier"
  | .wrongBounds => "numbers out of order in \x7b\x7d quantifier"
  | .openGroup => "missing closing parenthesis"
  | .closedGroup => "unmatched closing parenthesis"
  | .openComment => "missing ) after (?# comment"
  | .openCondition => "missing closing parenthesis for condition"
  | .badOption => "unrecognized character after (? or (?-"
  | .badHyphen => "invalid hyphen in option setting"
  | .badNamed => "unrecognized character after (?P"
  | .badVerb => "(*VERB) not recognized or malformed"
  | .badWord => "(*alpha_assertion) not recognized"
  | .badRecursion =>
    "(?R (recursive pattern call) must be followed by a closing parenthesis"
  | .noName => "subpattern name expected"
  | .badName => "syntax error in subpattern name (missing terminator?)"
  | .digitName => "subpattern name must start with a non-digit"
  | .longName => "subpattern name is too long (maximum 32 code units)"
  | .sameName => "two named subpatterns have the same name (PCRE2_DUPNAMES not set)"
  | .noGroup => "reference to non-existent subpattern"
  | .noAssertion => "assertion expected after (?( or (?(?C)"
  | .manyBranches => "conditional subpattern contains more than two branches"
  | .manyDefinitions => "DEFINE subpattern contains more than one branch"
  | .unevenWidth => "lookbehind assertion is not fixed length"
  | .restartInside =>
    "\\K is not allowed in lookarounds (but see PCRE2_EXTRA_ALLOW_LOOKAROUND_BSK)"
  | .bigCallout => "number after (?C is greater than 255"

/-! ## What is being read -/

/-- How items are read, which can be changed within a pattern. -/
structure Style where
  ignoreCase : Bool := false
  /-- Lines within the text have starts and ends of their own. -/
  multiline : Bool := false
  /-- A dot accepts the end of a line as well. -/
  dotAll : Bool := false
  /-- Blanks and comments are passed over. -/
  spaced : Bool := false
  /-- Blanks are passed over in classes as well. -/
  spacedClasses : Bool := false
  /-- Plain groups are not remembered. -/
  uncounted : Bool := false
  /-- Repetitions are as short as possible. -/
  reluctant : Bool := false
  sharedNames : Bool := false

/-- What a group is for. -/
inductive Shape where
  | plain
  | counted (number : Nat)
  | alone
  | ahead (wanted : Bool)
  | behind (wanted : Bool)
  | given (number : Nat)
  /-- Which of two branches counts depends on a question, once that has been read. -/
  | whether (test : Option OrderedRegex)
  /-- What is only called from elsewhere. -/
  | definitions
  /-- Every branch counts its groups from the same number on. -/
  | renumbered (first : Nat)

/-- An open group: its finished branches and the items of the current one, last ones first. -/
structure Level where
  shape : Shape := .plain
  style : Style
  done : List OrderedRegex := []
  items : List OrderedRegex := []
  /-- The last item can be repeated. -/
  repeatable : Bool := false
  /-- The highest number of a group in a finished branch. -/
  highest : Nat := 0

/-- How far a pattern has been read. -/
structure Reading where
  rest : List Char
  level : Level
  /-- The groups around the current one, innermost first. -/
  outer : List Level := []
  /-- How many groups have been counted. -/
  count : Nat := 0
  names : List (String × Nat) := []
  /-- The names of all groups and how many there are, if the pattern has been read before. -/
  known : Option (List (String × Nat) × Nat) := none
  /-- A flaw that counts only if there is no other one. -/
  late : Option Flaw := none

namespace Reading

def goOn (r : Reading) (rest : List Char) : Reading := { r with rest }

/-- Adds an item that can be repeated. -/
def add (r : Reading) (p : OrderedRegex) (rest : List Char) : Reading :=
  { r with rest, level := { r.level with items := p :: r.level.items, repeatable := true } }

/-- Adds an item that cannot be repeated. -/
def addFixed (r : Reading) (p : OrderedRegex) (rest : List Char) : Reading :=
  { r with rest, level := { r.level with items := p :: r.level.items, repeatable := false } }

/-- Opens a group. -/
def enter (r : Reading) (shape : Shape) (style : Style) (rest : List Char) : Reading :=
  { r with rest, level := { shape, style }, outer := r.level :: r.outer }

/-- Remembers a flaw that counts only if there is no other one. -/
def remember (r : Reading) (flaw : Flaw) : Reading := { r with late := r.late <|> some flaw }

/-- The number of a group with a name, once all of them are known. -/
def numberOf (r : Reading) (name : String) : Except Flaw Nat :=
  match r.known with
  | none => .ok 0
  | some (names, _) =>
    match names.lookup name with
    | some n => .ok n
    | none => .error .noGroup

/-- A number of a group that exists, once all of them are known. -/
def checked (r : Reading) (n : Nat) : Except Flaw Nat :=
  if r.known.any fun (_, count) => count < n then .error .noGroup else .ok n

end Reading

/-! ## Characters -/

/-- A test up to the difference between capitals and small letters, if that is ignored. -/
def Style.folded (style : Style) (accept : Char → Bool) : Char → Bool :=
  if style.ignoreCase then fun c => accept c || accept c.toLower || accept c.toUpper else accept

/-- A single character as a pattern. -/
def Style.literal (style : Style) (c : Char) : OrderedRegex := .one (style.folded (· == c))

def Style.lineStart (style : Style) : OrderedRegex :=
  .spot fun s => s.before.isEmpty
    || style.multiline && s.before.head? == some '\n' && !s.after.isEmpty

def Style.lineEnd (style : Style) : OrderedRegex :=
  .spot fun s => s.after.isEmpty || style.multiline && s.after.head? == some '\n'

def isLineBreak (c : Char) : Bool := (10 ≤ c.toNat && c.toNat ≤ 13) || c.toNat = 133

def isLineBlank (c : Char) : Bool := c == ' ' || c == '\t' || c.toNat = 160

def classEscape? (c : Char) : Option (Char → Bool) :=
  let isSpace (c : Char) : Bool := c == ' ' || (9 ≤ c.toNat && c.toNat ≤ 13)
  match c with
  | 'd' => some Char.isDigit
  | 'D' => some fun c => !c.isDigit
  | 's' => some isSpace
  | 'S' => some fun c => !isSpace c
  | 'w' => some Regex.isWordChar
  | 'W' => some fun c => !Regex.isWordChar c
  | 'h' => some isLineBlank
  | 'H' => some fun c => !isLineBlank c
  | 'v' => some isLineBreak
  | 'V' => some fun c => !isLineBreak c
  | _ => none

/-- The character of a number in braces, after the opening one. -/
def bracedCharacter (base : Nat) (bad : Flaw) (cs : List Char) : Except Flaw (Char × List Char) :=
  let digits := cs.takeWhile fun c => (hexValue? c).any (· < base)
  let n := numberIn base digits
  match cs, cs.drop digits.length with
  | [], _ => .error .noDigits
  | '\x7d' :: _, _ => .error .noDigits
  | _, after =>
    if 255 < n then .error .bigCharacter
    else
      match after with
      | '\x7d' :: rest => .ok (Char.ofNat n, rest)
      | _ => .error bad

def isOctalDigit (c : Char) : Bool := c.isDigit && c.toNat < 56

/-- The character of a number of up to three digits of base eight. -/
def octalCharacter (cs : List Char) : Except Flaw (Char × List Char) :=
  let (ds, rest) := takeUpTo 3 isOctalDigit cs
  let n := numberIn 8 ds
  if 255 < n then .error .bigOctal else .ok (Char.ofNat n, rest)

/-- The character that an escape stands for, after its backslash; nothing if it is no character. -/
def escapedCharacter? (cs : List Char) : Except Flaw (Option (Char × List Char)) :=
  let plain (n : Nat) (rest : List Char) : Except Flaw (Option (Char × List Char)) :=
    .ok (some (Char.ofNat n, rest))
  match cs with
  | [] => .error .lastBackslash
  | 'a' :: rest => plain 7 rest
  | 'e' :: rest => plain 27 rest
  | 'f' :: rest => plain 12 rest
  | 'n' :: rest => plain 10 rest
  | 'r' :: rest => plain 13 rest
  | 't' :: rest => plain 9 rest
  | ['c'] => .error .lastControl
  | 'c' :: c :: rest =>
    if c.toNat < 32 || 126 < c.toNat then .error .badControl
    else plain (c.toUpper.toNat ^^^ 64) rest
  | 'o' :: '\x7b' :: rest => (bracedCharacter 8 .badOctal rest).map some
  | 'o' :: _ => .error .openOctal
  | 'x' :: '\x7b' :: rest => (bracedCharacter 16 .badHex rest).map some
  | 'x' :: rest =>
    let (ds, rest) := takeUpTo 2 isHex rest
    plain (numberIn 16 ds) rest
  | '0' :: _ => (octalCharacter cs).map some
  | c :: rest =>
    if c.isAlphanum then .ok none else .ok (some (c, rest))

def propertyTest? (name : String) : Option (Char → Bool) :=
  let within (cs : String) (c : Char) : Bool := cs.toList.contains c
  let isUpper (c : Char) : Bool :=
    c.isUpper || (192 ≤ c.toNat && c.toNat ≤ 222 && c.toNat ≠ 215)
  let isLower (c : Char) : Bool :=
    c.isLower || c.toNat = 181 || (223 ≤ c.toNat && c.toNat ≤ 255 && c.toNat ≠ 247)
  let isOther (c : Char) : Bool := c.toNat = 170 || c.toNat = 186
  let isLetter (c : Char) : Bool := isUpper c || isLower c || isOther c
  let isFraction (c : Char) : Bool := [178, 179, 185, 188, 189, 190].contains c.toNat
  let isOpen := within "([\x7b"
  let isClosed := within ")]\x7d"
  let isOtherMark (c : Char) : Bool :=
    within "!\"#%&'*,./:;?@\\" c || [161, 167, 182, 183, 191].contains c.toNat
  let isQuote (c : Char) : Bool := c.toNat = 171 || c.toNat = 187
  let isMark (c : Char) : Bool :=
    isOpen c || isClosed c || isOtherMark c || isQuote c || c == '-' || c == '_'
  let isMoney (c : Char) : Bool := c == '$' || (162 ≤ c.toNat && c.toNat ≤ 165)
  let isAccent (c : Char) : Bool := within "^\x60" c || [168, 175, 180, 184].contains c.toNat
  let isMath (c : Char) : Bool := within "+<=>|~" c || [172, 177, 215, 247].contains c.toNat
  let isOtherSign (c : Char) : Bool := [166, 169, 174, 176].contains c.toNat
  let isSpace (c : Char) : Bool := c == ' ' || c.toNat = 160
  let isControl (c : Char) : Bool := c.toNat < 32 || (127 ≤ c.toNat && c.toNat < 160)
  match name with
  | "any" => some fun _ => true
  | "l" => some isLetter
  | "lu" => some isUpper
  | "uppercase" => some isUpper
  | "ll" => some isLower
  | "lowercase" => some fun c => isLower c || isOther c
  | "lt" => some fun _ => false
  | "lm" => some fun _ => false
  | "lo" => some isOther
  | "l&" => some fun c => isUpper c || isLower c
  | "lc" => some fun c => isUpper c || isLower c
  | "alphabetic" => some isLetter
  | "latin" => some isLetter
  | "m" => some fun _ => false
  | "mn" => some fun _ => false
  | "n" => some fun c => c.isDigit || isFraction c
  | "nd" => some Char.isDigit
  | "nl" => some fun _ => false
  | "no" => some isFraction
  | "p" => some isMark
  | "pc" => some (· == '_')
  | "pd" => some (· == '-')
  | "ps" => some isOpen
  | "pe" => some isClosed
  | "pi" => some fun c => c.toNat = 171
  | "pf" => some fun c => c.toNat = 187
  | "po" => some isOtherMark
  | "s" => some fun c => isMoney c || isAccent c || isMath c || isOtherSign c
  | "sc" => some isMoney
  | "sk" => some isAccent
  | "sm" => some isMath
  | "so" => some isOtherSign
  | "z" => some isSpace
  | "zs" => some isSpace
  | "zl" => some fun _ => false
  | "zp" => some fun _ => false
  | "c" => some fun c => isControl c || c.toNat = 173
  | "cc" => some isControl
  | "cf" => some fun c => c.toNat = 173
  | "greek" => some fun _ => false
  | "cyrillic" => some fun _ => false
  | "han" => some fun _ => false
  | "xan" => some fun c => isLetter c || c.isDigit || isFraction c
  | "xwd" => some fun c => isLetter c || c.isDigit || isFraction c || c == '_'
  | "xsp" => some fun c => isSpace c || isLineBreak c || c == '\t'
  | "xps" => some fun c => isSpace c || isLineBreak c || c == '\t'
  | _ => none

def readProperty (cs : List Char) : Except Flaw ((Char → Bool) × List Char) := do
  let test (name : List Char) : Except Flaw (Char → Bool) := do
    let name := (name.filter fun c => !(isNumberSpace c || c == '_' || c == '-')).map Char.toLower
    let name := match name.span (fun c => c != '=' && c != ':') with
      | (_, _ :: value) => value
      | (name, []) => name
    match propertyTest? (String.ofList name) with
    | some accept => return accept
    | none => throw .unknownProperty
  match cs with
  | '\x7b' :: rest =>
    let inside := rest.takeWhile (· != '\x7d')
    match rest.drop inside.length with
    | _ :: rest =>
      match inside with
      | [] => throw .badProperty
      | '^' :: name =>
        let accept ← test name
        return (fun c => !accept c, rest)
      | name => return (← test name, rest)
    | [] => throw .badProperty
  | c :: rest =>
    if c.isAlpha then return (← test [c], rest) else throw .badProperty
  | [] => throw .badProperty

/-! ## Classes -/

/-- The name between marks of a class such as `[:alpha:]`, after its opening bracket, and the rest;
the mark is a colon, a dot or an equals sign. -/
def namedClass? (cs : List Char) : Option (Char × List Char × List Char) :=
  match cs with
  | m :: rest =>
    if m == ':' || m == '.' || m == '=' then
      (upToMark m rest).map fun (name, rest) => (m, name, rest)
    else none
  | [] => none
where
  /-- What stands before the mark and its bracket, and what stands behind them. -/
  upToMark (m : Char) : List Char → Option (List Char × List Char)
    | '\\' :: ']' :: rest => (upToMark m rest).map fun (name, rest) => ('\\' :: ']' :: name, rest)
    | c :: ']' :: rest => if c == m then some ([], rest) else none
    | ']' :: _ => none
    | '[' :: c :: rest =>
      if c == m then none else (upToMark m (c :: rest)).map fun (name, rest) => ('[' :: name, rest)
    | c :: rest => (upToMark m rest).map fun (name, rest) => (c :: name, rest)
    | [] => none

/-- A member of a class: a character, or the test of several. -/
abbrev Member := Char ⊕ (Char → Bool)

def testOf (style : Style) (member : Member) : Char → Bool :=
  match member with
  | .inl c => style.folded (· == c)
  | .inr test => test

def readMember (style : Style) (cs : List Char) : Except Flaw (Member × List Char) := do
  match cs with
  | [] => throw .openClass
  | '[' :: rest =>
    match namedClass? rest with
    | none => return (.inl '[', rest)
    | some (':', name, rest) =>
      let (wanted, name) := match name with
        | '^' :: name => (false, name)
        | name => (true, name)
      let test ← match String.ofList name with
        | "word" => pure Regex.isWordChar
        | "ascii" => pure fun c => c.toNat < 128
        | name => match classTest? name with
          | some test => pure test
          | none => throw .unknownClass
      let test := style.folded test
      return (.inr fun c => test c == wanted, rest)
    | some _ => throw .collating
  | '\\' :: rest =>
    match rest with
    | [] => throw .lastBackslash
    | c :: after =>
      if c == 'b' then return (.inl '\x08', after)
      else if c == 'N' then throw .classNewline
      else if c == 'p' || c == 'P' then
        let (accept, rest) ← readProperty after
        return (.inr fun x => accept x == (c == 'p'), rest)
      else if isOctalDigit c then
        let (c, rest) ← octalCharacter rest
        return (.inl c, rest)
      else if c.isDigit then return (.inl c, after)
      else
        match classEscape? c, ← escapedCharacter? rest with
        | some test, _ => return (.inr test, after)
        | none, some (c, rest) => return (.inl c, rest)
        | none, none =>
          if "LlUuF".toList.contains c then throw .foreignEscape
          else if "ABCGKRXZgkz".toList.contains c then throw .classEscape
          else throw .badEscape
  | c :: rest => return (.inl c, rest)

/-- Reads a class after its opening, at most `n` members: the characters that it accepts, and the
rest. -/
def readClass (style : Style) : Nat → Bool → List Char →
    Except Flaw ((Char → Bool) × List Char)
  | 0, _, _ => .error .openClass
  | n + 1, isFirst, cs => do
    match cs, isFirst with
    | ']' :: rest, false => return (fun _ => false, rest)
    | c :: rest, _ =>
      if style.spacedClasses && (c == ' ' || c == '\t') then
        readClass style n isFirst rest
      else
        let (first, rest) ← readMember style cs
        let (test, rest) ←
          match rest with
          | '-' :: c :: after =>
            if c == ']' then pure (testOf style first, rest)
            else do
              let .inl a := first | throw .badRange
              let (last, rest) ← readMember style (c :: after)
              let .inl b := last | throw .badRange
              if b < a then throw .emptyRange
              pure (style.folded fun x => a ≤ x && x ≤ b, rest)
          | _ => pure (testOf style first, rest)
        let (more, rest) ← readClass style n false rest
        return (fun x => test x || more x, rest)
    | [], _ => throw .openClass

def Reading.addClass (r : Reading) (cs : List Char) : Except Flaw Reading := do
  let startsWord : Place → Bool := fun s =>
    !s.before.head?.any Regex.isWordChar && s.after.head?.any Regex.isWordChar
  let endsWord : Place → Bool := fun s =>
    s.before.head?.any Regex.isWordChar && !s.after.head?.any Regex.isWordChar
  if "[:<:]]".toList.isPrefixOf cs then return r.addFixed (.spot startsWord) (cs.drop 6)
  if "[:>:]]".toList.isPrefixOf cs then return r.addFixed (.spot endsWord) (cs.drop 6)
  match namedClass? cs with
  | some (':', _, _) => throw .classOutside
  | some _ => throw .collating
  | none =>
    let (negated, inside) := match cs with
      | '^' :: rest => (true, rest)
      | _ => (false, cs)
    let (accept, rest) ← readClass r.level.style (inside.length + 1) true inside
    return r.add (.one fun c => accept c != negated) rest

/-! ## Names and numbers of groups -/

def longestName : Nat := 32

def readName (closing : Char) (cs : List Char) : Except Flaw (String × List Char) :=
  let name := cs.takeWhile Regex.isWordChar
  if cs.head?.any Char.isDigit then .error .digitName
  else if longestName < name.length then .error .longName
  else if name.isEmpty then .error .noName
  else
    match cs.drop name.length with
    | c :: rest => if c == closing then .ok (String.ofList name, rest) else .error .badName
    | [] => .error .badName

/-- Reads the number of a group, which may be counted from here; nothing if there is none. -/
def Reading.readNumber? (r : Reading) (cs : List Char) : Except Flaw (Option (Nat × List Char)) :=
  let digitsOf (cs : List Char) : Option (Nat × List Char) :=
    let ds := cs.takeWhile Char.isDigit
    if ds.isEmpty then none else some (numberIn 10 ds, cs.drop ds.length)
  match cs with
  | '-' :: cs =>
    match digitsOf cs with
    | some (n, rest) =>
      if r.count < n then .error .noGroup else .ok (some (r.count + 1 - n, rest))
    | none => .ok none
  | '+' :: cs => .ok ((digitsOf cs).map fun (n, rest) => (r.count + n, rest))
  | _ => .ok (digitsOf cs)

def closingOf (c : Char) : Char :=
  match c with
  | '\x7b' => '\x7d'
  | '<' => '>'
  | c => c

/-- What a group has matched, once more. -/
def Reading.addAgain (r : Reading) (number : Nat) (rest : List Char) : Reading :=
  r.add (.again number (if r.level.style.ignoreCase then Char.toLower else id)) rest

def Reading.addCall (r : Reading) (number : Nat) (rest : List Char) : Except Flaw Reading := do
  return r.add (.call (← r.checked number)) rest

/-! ## Escapes -/

/-- Reads what follows the letter of an escape that refers to a group or calls it. -/
def Reading.addGroupEscape (r : Reading) (cs : List Char) : Except Flaw Reading := do
  match cs with
  | c :: rest =>
    if c == '<' || c == '\'' then
      match ← r.readNumber? rest with
      | some (n, after) =>
        match after with
        | d :: rest => if d == closingOf c then r.addCall n rest else throw .badGroupCall
        | [] => throw .badGroupCall
      | none =>
        let (name, rest) ← readName (closingOf c) rest
        r.addCall (← r.numberOf name) rest
    else if c == '\x7b' then
      match ← r.readNumber? rest with
      | some (n, '\x7d' :: rest) => return r.addAgain (← r.checked n) rest
      | some _ => throw .badGroupCall
      | none =>
        let (name, rest) ← readName '\x7d' rest
        return r.addAgain (← r.numberOf name) rest
    else
      match ← r.readNumber? cs with
      | some (n, rest) => return r.addAgain (← r.checked n) rest
      | none => throw .badGroupCall
  | [] => throw .badGroupCall

/-- Whether one of two neighbours is a character of words and the other one is not. -/
def isWordEdge (s : Place) : Bool :=
  s.before.head?.any Regex.isWordChar != s.after.head?.any Regex.isWordChar

def Reading.addEscape (r : Reading) (cs : List Char) : Except Flaw Reading := do
  let style := r.level.style
  let isInside := (r.level :: r.outer).any fun l => match l.shape with
    | .ahead _ => true
    | .behind _ => true
    | _ => false
  match cs with
  | [] => throw .lastBackslash
  | c :: rest =>
    if c.isDigit && c != '0' then
      let ds := cs.takeWhile Char.isDigit
      let n := numberIn 10 ds
      if n < 10 || '8' ≤ c || n ≤ r.count then
        return r.addAgain (← r.checked n) (cs.drop ds.length)
      else
        let (c, rest) ← octalCharacter cs
        return r.add (style.literal c) rest
    else
      match c with
      | 'b' => return r.addFixed (.spot isWordEdge) rest
      | 'B' => return r.addFixed (.spot fun s => !isWordEdge s) rest
      | 'A' => return r.addFixed (.spot (·.before.isEmpty)) rest
      | 'z' => return r.addFixed (.spot (·.after.isEmpty)) rest
      | 'Z' => return r.addFixed (.spot fun s => s.after.isEmpty || s.after == ['\n']) rest
      | 'G' => return r.addFixed .origin rest
      | 'K' => if isInside then throw .restartInside else return r.addFixed .restart rest
      | 'C' => return r.add (.one fun _ => true) rest
      | 'X' => return r.add lineBreakOrOne rest
      | 'R' => return r.add lineBreak rest
      | 'N' =>
        match rest with
        | '\x7b' :: d :: _ =>
          if d == 'U' then throw .codePointByNumber
          else if d.isDigit then return r.add (.one (· != '\n')) rest
          else throw .foreignEscape
        | _ => return r.add (.one (· != '\n')) rest
      | 'g' => r.addGroupEscape rest
      | 'k' =>
        match rest with
        | d :: rest =>
          if d == '\x7b' || d == '<' || d == '\'' then
            let (name, rest) ← readName (closingOf d) rest
            return r.addAgain (← r.numberOf name) rest
          else throw .badNameEscape
        | [] => throw .badNameEscape
      | _ =>
        if c == 'p' || c == 'P' then
          let (accept, rest) ← readProperty rest
          return r.add (.one fun x => accept x == (c == 'p')) rest
        else
          match classEscape? c, ← escapedCharacter? cs with
          | some test, _ => return r.add (.one test) rest
          | none, some (c, rest) => return r.add (style.literal c) rest
          | none, none =>
            throw (if "LlUuF".toList.contains c then .foreignEscape else .badEscape)
where
  /-- The end of a line, which two characters may make up. -/
  lineBreak : OrderedRegex :=
    .alone (.either (.follow (.one (· == '\r')) (.one (· == '\n'))) (.one isLineBreak))
  /-- The end of a line that two characters make up, or any one character. -/
  lineBreakOrOne : OrderedRegex :=
    .alone (.either (.follow (.one (· == '\r')) (.one (· == '\n'))) (.one fun _ => true))

/-! ## Repetitions -/

def highestBound : Nat := 65535

/-- Reads bounds after their opening brace; nothing if they are none. -/
def readBounds? (cs : List Char) : Except Flaw (Option ((Nat × Option Nat) × List Char)) :=
  let low := cs.takeWhile Char.isDigit
  let check (least : Nat) (most : Option Nat) (rest : List Char) :
      Except Flaw (Option ((Nat × Option Nat) × List Char)) :=
    if highestBound < least || most.any (highestBound < ·) then .error .bigBound
    else if most.any (· < least) then .error .wrongBounds
    else .ok (some ((least, most), rest))
  let least := numberIn 10 low
  match low, cs.drop low.length with
  | [], _ => .ok none
  | _, '\x7d' :: rest => check least (some least) rest
  | _, ',' :: after =>
    let high := after.takeWhile Char.isDigit
    match after.drop high.length with
    | '\x7d' :: rest => check least (if high.isEmpty then none else some (numberIn 10 high)) rest
    | _ => .ok none
  | _, _ => .ok none

/-- Repeats the last item; what follows the operator tells in which manner. -/
def Reading.repeatLast (r : Reading) (least : Nat) (most : Option Nat) (cs : List Char) :
    Except Flaw Reading :=
  match r.level.repeatable, r.level.items with
  | true, p :: items =>
    let eager := !r.level.style.reluctant
    let (p, rest) := match cs with
      | '?' :: rest => (.times least most (!eager) p, rest)
      | '+' :: rest => (.alone (.times least most true p), rest)
      | rest => (.times least most eager p, rest)
    .ok { r with rest, level := { r.level with items := p :: items, repeatable := false } }
  | _, _ => .error .noOperand

/-! ## Groups -/

/-- The current branch of a group. -/
def Level.branch (l : Level) : OrderedRegex :=
  l.items.foldl (fun q p => match q with
    | .empty => p
    | q => .follow p q) .empty

def Level.branches (l : Level) : List OrderedRegex := (l.branch :: l.done).reverse

/-- Branches that are tried in order. -/
def inOrder : List OrderedRegex → OrderedRegex
  | [] => .empty
  | [p] => p
  | p :: ps => .either p (inOrder ps)

/-- What looks behind with one of several branches, each of which has a width. -/
def lookBehind? (wanted : Bool) (branches : List OrderedRegex) : Option OrderedRegex := do
  let looks ← branches.mapM fun p => p.width?.map fun width => OrderedRegex.behind wanted width p
  return if wanted then .alone (inOrder looks) else looks.foldr .follow .empty

/-- Ends the current group. -/
def Reading.leave (r : Reading) (rest : List Char) : Except Flaw Reading := do
  match r.outer with
  | [] => throw .closedGroup
  | o :: outer =>
    let l := r.level
    let whole := inOrder l.branches
    let count := max r.count l.highest
    let back : Reading := { r with rest, level := o, outer, count }
    let isQuestion := match l.shape with
      | .ahead _ => true
      | .behind _ => true
      | _ => false
    let put (r : Reading) (p : OrderedRegex) : Except Flaw Reading :=
      match o.shape, o.items, o.done with
      | .whether none, [], [] =>
        if isQuestion then .ok { r with level := { o with shape := .whether (some p) } }
        else .error .noAssertion
      | _, _, _ => .ok (r.add p rest)
    match l.shape with
    | .plain => put back whole
    | .renumbered _ => put back whole
    | .counted n => put back (.group n whole)
    | .alone => put back (.alone whole)
    | .ahead wanted => put back (.ahead wanted whole)
    | .behind wanted =>
      match lookBehind? wanted l.branches with
      | some p => put back p
      | none => put (back.remember .unevenWidth) .empty
    | .given n =>
      let back ← pure (if (r.checked n).toBool then back else back.remember .noGroup)
      match l.branches with
      | [p] => put back (.given n p .empty)
      | [p, q] => put back (.given n p q)
      | _ => put (back.remember .manyBranches) .empty
    | .whether test =>
      match test, l.branches with
      | none, _ => throw .noAssertion
      | some t, [p] => put back (.whether t p .empty)
      | some t, [p, q] => put back (.whether t p q)
      | _, _ => put (back.remember .manyBranches) .empty
    | .definitions =>
      match l.branches with
      | [p] => put back (.whether (.ahead false .empty) p .empty)
      | _ => put (back.remember .manyDefinitions) .empty

/-- Starts another branch of the current group. -/
def Reading.nextBranch (r : Reading) (rest : List Char) : Reading :=
  let l := r.level
  let next := { l with done := l.branch :: l.done, items := [], repeatable := false }
  match l.shape with
  | .renumbered first =>
    { r with rest, level := { next with highest := max l.highest r.count }, count := first }
  | _ => { r with rest, level := next }

/-- Opens a group that is remembered, perhaps under a name. -/
def Reading.enterCounted (r : Reading) (name : Option String) (rest : List Char) :
    Except Flaw Reading := do
  let n := r.count + 1
  let names ← match name with
    | none => pure r.names
    | some name =>
      match r.names.lookup name with
      | some m =>
        if m = n || r.level.style.sharedNames then pure r.names else throw .sameName
      | none => pure (r.names ++ [(name, n)])
  let style := r.level.style
  return { r.enter (.counted n) style rest with count := n, names }

/-- Reads the letters of options and goes on with the style that they make. -/
def readOptions : Bool → Style → List Char → Except Flaw (Style × List Char)
  | _, _, [] => .error .openGroup
  | on, s, c :: cs =>
    match c with
    | ')' => .ok (s, c :: cs)
    | ':' => .ok (s, c :: cs)
    | '-' => if on then readOptions false s cs else .error .badHyphen
    | 'i' => readOptions on { s with ignoreCase := on } cs
    | 'm' => readOptions on { s with multiline := on } cs
    | 's' => readOptions on { s with dotAll := on } cs
    | 'n' => readOptions on { s with uncounted := on } cs
    | 'U' => readOptions on { s with reluctant := on } cs
    | 'J' => readOptions on { s with sharedNames := on } cs
    | 'x' =>
      let doubled := on && s.spaced && cs.head? != some 'x' && s.spacedClasses
      let both := on && cs.head? == some 'x'
      readOptions on { s with spaced := on, spacedClasses := both || doubled } cs
    | _ => .error .badOption

def Reading.addOptions (r : Reading) (cs : List Char) : Except Flaw Reading := do
  let style := r.level.style
  let (style, rest) ← match cs with
    | '^' :: rest =>
      let plain : Style := { reluctant := style.reluctant, sharedNames := style.sharedNames }
      match rest with
      | '-' :: _ => throw .badHyphen
      | _ => readOptions true plain rest
    | _ => readOptions true style cs
  match rest with
  | ':' :: rest => return r.enter .plain style rest
  | _ :: rest =>
    return { r with rest, level := { r.level with style, repeatable := false } }
  | [] => throw .openGroup

def Reading.enterCondition (r : Reading) (cs : List Char) : Except Flaw Reading := do
  let style := r.level.style
  let close (shape : Shape) (cs : List Char) : Except Flaw Reading :=
    match cs with
    | ')' :: rest => .ok (r.enter shape style rest)
    | _ => .error .openCondition
  match cs with
  | [] => throw .openGroup
  | '?' :: _ => return r.enter (.whether none) style ('(' :: cs)
  | '*' :: _ => return r.enter (.whether none) style ('(' :: cs)
  | c :: rest =>
    match ← r.readNumber? cs with
    | some (n, rest) => if n = 0 then throw .noGroup else close (.given n) rest
    | none =>
      let quoted := c == '<' || c == '\''
      let (name, rest) ← if quoted then readName (closingOf c) rest else do
        let (name, rest) ← readName ')' cs
        pure (name, ')' :: rest)
      let isRecursion := match name.toList with
        | 'R' :: ds => ds.all Char.isDigit
        | _ => false
      if !quoted && name == "DEFINE" then close .definitions rest
      else if !quoted && isRecursion && !(r.names.lookup name).isSome then
        close (.whether (some (.ahead false .empty))) rest
      else close (.given (← r.numberOf name)) rest

/-- Reads a group after its parenthesis and question mark. -/
def Reading.enterMarked (r : Reading) (cs : List Char) : Except Flaw Reading := do
  let style := r.level.style
  match cs with
  | [] => throw .openGroup
  | '#' :: rest =>
    match rest.dropWhile (· != ')') with
    | _ :: rest => return r.goOn rest
    | [] => throw .openComment
  | ':' :: rest => return r.enter .plain style rest
  | '|' :: rest => return r.enter (.renumbered r.count) style rest
  | '>' :: rest => return r.enter .alone style rest
  | '=' :: rest => return r.enter (.ahead true) style rest
  | '*' :: rest => return r.enter (.ahead true) style rest
  | '!' :: rest => return r.enter (.ahead false) style rest
  | '<' :: '=' :: rest => return r.enter (.behind true) style rest
  | '<' :: '*' :: rest => return r.enter (.behind true) style rest
  | '<' :: '!' :: rest => return r.enter (.behind false) style rest
  | '<' :: rest => named '>' rest
  | '\'' :: rest => named '\'' rest
  | ['P'] => throw .openGroup
  | 'P' :: '<' :: rest => named '>' rest
  | 'P' :: '=' :: rest =>
    let (name, rest) ← readName ')' rest
    return r.addAgain (← r.numberOf name) rest
  | 'P' :: '>' :: rest => callByName rest
  | 'P' :: _ => throw .badNamed
  | '&' :: rest => callByName rest
  | 'R' :: rest =>
    match rest with
    | ')' :: rest => r.addCall 0 rest
    | _ => throw .badRecursion
  | 'C' :: rest =>
    let digits := rest.takeWhile Char.isDigit
    if 255 < numberIn 10 digits then throw .bigCallout
    match (rest.drop digits.length).dropWhile (· != ')') with
    | _ :: rest => return r.goOn rest
    | [] => throw .openGroup
  | '(' :: rest => r.enterCondition rest
  | c :: next =>
    let isNumber := c.isDigit || ((c == '+' || c == '-') && next.head?.any Char.isDigit)
    if isNumber then
      match ← r.readNumber? cs with
      | some (n, ')' :: rest) => r.addCall n rest
      | _ => throw .openGroup
    else r.addOptions cs
where
  named (closing : Char) (cs : List Char) : Except Flaw Reading := do
    let (name, rest) ← readName closing cs
    r.enterCounted (some name) rest
  callByName (cs : List Char) : Except Flaw Reading := do
    let (name, rest) ← readName ')' cs
    r.addCall (← r.numberOf name) rest

/-- The groups that are told by a word. -/
def wordShapes : List (String × Shape) :=
  [("pla", .ahead true), ("positive_lookahead", .ahead true), ("nla", .ahead false),
    ("negative_lookahead", .ahead false), ("plb", .behind true),
    ("positive_lookbehind", .behind true), ("nlb", .behind false),
    ("negative_lookbehind", .behind false), ("atomic", .alone), ("napla", .ahead true),
    ("naplb", .behind true), ("sr", .plain), ("script_run", .plain),
    ("asr", .alone), ("atomic_script_run", .alone)]

/-- Reads a group after its parenthesis and star. -/
def Reading.enterVerb (r : Reading) (cs : List Char) : Except Flaw Reading := do
  let word := cs.takeWhile Regex.isWordChar
  let after := cs.drop word.length
  let name := String.ofList word
  if word.head?.any Char.isLower then
    match wordShapes.lookup name, after with
    | some shape, ':' :: rest => return r.enter shape r.level.style rest
    | _, _ => throw .badWord
  else
    let (label, rest) ← match after with
      | ')' :: rest => pure (none, rest)
      | ':' :: more =>
        let label := more.takeWhile (· != ')')
        match more.drop label.length with
        | _ :: rest => pure (some label, rest)
        | [] => throw .badVerb
      | _ => throw .badVerb
    match name with
    | "ACCEPT" => return r.addFixed .finish rest
    | "F" => return r.addFixed (.spot fun _ => false) rest
    | "FAIL" => return r.addFixed (.spot fun _ => false) rest
    | "COMMIT" => return r.addFixed (.bar none) rest
    | "PRUNE" => return r.addFixed (.bar (some false)) rest
    | "THEN" => return r.addFixed (.bar (some false)) rest
    | "SKIP" => return r.addFixed (.bar (some true)) rest
    | "MARK" => if label.all List.isEmpty then throw .badVerb else return r.goOn rest
    | "" => if label.all List.isEmpty then throw .badVerb else return r.goOn rest
    | _ => throw .badVerb

/-! ## Patterns -/

def Reading.step (r : Reading) (c : Char) (rest : List Char) : Except Flaw Reading := do
  let style := r.level.style
  match c with
  | '\\' => r.addEscape rest
  | '[' => r.addClass rest
  | '.' => return r.add (.one fun c => style.dotAll || c != '\n') rest
  | '^' => return r.addFixed style.lineStart rest
  | '$' => return r.addFixed style.lineEnd rest
  | '*' => r.repeatLast 0 none rest
  | '+' => r.repeatLast 1 none rest
  | '?' => r.repeatLast 0 (some 1) rest
  | '\x7b' =>
    match ← readBounds? rest with
    | some ((least, most), rest) => r.repeatLast least most rest
    | none => return r.add (style.literal c) rest
  | '|' => return r.nextBranch rest
  | ')' => r.leave rest
  | '(' =>
    match rest with
    | '?' :: rest => r.enterMarked rest
    | '*' :: d :: more =>
      if d == ':' || d.isAlpha then r.enterVerb (d :: more)
      else return r.enter .plain style rest
    | _ => if style.uncounted then return r.enter .plain style rest else r.enterCounted none rest
  | _ =>
    if style.spaced && (c == ' ' || (9 ≤ c.toNat && c.toNat ≤ 13)) then return r.goOn rest
    else if style.spaced && c == '#' then
      return r.goOn ((rest.dropWhile (· != '\n')).drop 1)
    else return r.add (style.literal c) rest

/-- Reads the items of a pattern, of which there are at most `n`. -/
def Reading.finish : Nat → Reading → Except Flaw Reading
  | 0, r => .ok r
  | n + 1, r =>
    match r.rest with
    | [] => .ok r
    | c :: rest =>
      match r.step c rest with
      | .ok r => finish n r
      | .error flaw => .error flaw

/-- A pattern in which quoted characters have backslashes of their own; the flag tells that they are
being quoted. -/
def unquoted : Bool → List Char → List Char
  | false, '\\' :: 'Q' :: cs => unquoted true cs
  | false, '\\' :: 'E' :: cs => unquoted false cs
  | false, '\\' :: c :: cs => '\\' :: c :: unquoted false cs
  | true, '\\' :: 'E' :: cs => unquoted false cs
  | quoting, c :: cs =>
    let more := unquoted quoting cs
    if quoting && !c.isAlphanum then '\\' :: c :: more else c :: more
  | _, [] => []

/-- Reads a pattern. -/
def parse (style : Style) (cs : List Char) : Except Flaw OrderedRegex := do
  let cs := unquoted false cs
  let start : Reading := { rest := cs, level := { style } }
  let first ← start.finish (2 * cs.length + 1)
  unless first.outer.isEmpty do throw .openGroup
  let count := max first.count first.level.highest
  let r ← { start with known := some (first.names, count) }.finish (2 * cs.length + 1)
  match r.late with
  | some flaw => throw flaw
  | none => return inOrder r.level.branches

/-- A pattern for whole lines. -/
def asLine (p : OrderedRegex) (style : Style) : OrderedRegex :=
  .follow style.lineStart (.follow p style.lineEnd)

end Relay.Userland.OrderedRegex
