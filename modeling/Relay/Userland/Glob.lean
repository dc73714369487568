import Relay.Userland.Tool

/-!
# Name patterns

Patterns as shells know them: a star matches any characters, a question mark any one, and brackets
one of several.  A pattern is read from characters of which each may be literal, which takes away
its special meaning.
-/

namespace Relay.Userland

/-- One element of a pattern. -/
inductive GlobItem where
  | char (c : Char)
  | anyOne
  | anyMany
  | oneOf (accepts : Char → Bool)

/-- A character of a pattern, and whether it is literal. -/
abbrev GlobChar := Char × Bool

def classTest? (name : String) : Option (Char → Bool) :=
  let isGraph (c : Char) : Bool := 33 ≤ c.toNat && c.toNat ≤ 126
  match name with
  | "alpha" => some Char.isAlpha
  | "digit" => some Char.isDigit
  | "alnum" => some Char.isAlphanum
  | "upper" => some Char.isUpper
  | "lower" => some Char.isLower
  | "space" => some fun c => c == ' ' || (9 ≤ c.toNat && c.toNat ≤ 13)
  | "blank" => some fun c => c == ' ' || c == '\t'
  | "punct" => some fun c => isGraph c && !c.isAlphanum
  | "print" => some fun c => c == ' ' || isGraph c
  | "graph" => some isGraph
  | "cntrl" => some fun c => c.toNat < 32 || c.toNat = 127
  | "xdigit" => some fun c => c.isDigit || "abcdefABCDEF".toList.contains c
  | _ => none

def readGlobClass (cs : List GlobChar) : Option ((Char → Bool) × List GlobChar) :=
  match cs with
  | (':', false) :: rest =>
    let name := rest.takeWhile fun (c, literal) => !literal && c.isAlpha
    match classTest? (String.ofList (name.map (·.1))), rest.drop name.length with
    | some test, (':', false) :: (']', false) :: rest => some (test, rest)
    | _, _ => none
  | _ => none

/-- Reads what stands between brackets, at most `n` members, up to the closing bracket. -/
def readMembers : Nat → Bool → List GlobChar → Option ((Char → Bool) × List GlobChar)
  | 0, _, _ => none
  | _, _, [] => none
  | n + 1, isFirst, (c, literal) :: rest =>
    if c == ']' && !literal && !isFirst then some (fun _ => false, rest)
    else
      let either (test : Char → Bool) (rest : List GlobChar) :
          Option ((Char → Bool) × List GlobChar) :=
        (readMembers n false rest).map fun (more, rest) => (fun x => test x || more x, rest)
      match if c == '[' && !literal then readGlobClass rest else none with
      | some (test, rest) => either test rest
      | none =>
        match rest with
        | ('-', false) :: (d, dLiteral) :: rest' =>
          if d == ']' && !dLiteral then either (· == c) rest
          else either (fun x => c ≤ x && x ≤ d) rest'
        | _ => either (· == c) rest

/-- Reads a pattern of at most `n` elements.  A bracket that is not closed stands for itself; a
caret may negate what stands between brackets, as an exclamation mark always does. -/
def readGlob (caret : Bool) : Nat → List GlobChar → List GlobItem
  | 0, _ => []
  | _, [] => []
  | n + 1, (c, literal) :: rest =>
    if literal then .char c :: readGlob caret n rest
    else if c == '*' then .anyMany :: readGlob caret n rest
    else if c == '?' then .anyOne :: readGlob caret n rest
    else if c == '[' then
      let (negated, inside) := match rest with
        | ('!', false) :: more => (true, more)
        | ('^', false) :: more => if caret then (true, more) else (false, rest)
        | _ => (false, rest)
      match readMembers (inside.length + 1) true inside with
      | some (test, rest) => .oneOf (fun x => test x != negated) :: readGlob caret n rest
      | none => .char c :: readGlob caret n rest
    else .char c :: readGlob caret n rest

/-- Takes backslashes for what they are: they make the next character literal. -/
def resolveBackslashes : List GlobChar → List GlobChar
  | ('\\', false) :: (c, _) :: rest => (c, true) :: resolveBackslashes rest
  | c :: rest => c :: resolveBackslashes rest
  | [] => []

def matchesGlob : List GlobItem → List Char → Bool
  | [], cs => cs.isEmpty
  | .anyMany :: ps, [] => matchesGlob ps []
  | .anyMany :: ps, c :: cs => matchesGlob ps (c :: cs) || matchesGlob (.anyMany :: ps) cs
  | .char a :: ps, c :: cs => a == c && matchesGlob ps cs
  | .anyOne :: ps, _ :: cs => matchesGlob ps cs
  | .oneOf accepts :: ps, c :: cs => accepts c && matchesGlob ps cs
  | _ :: _, [] => false
termination_by ps cs => ps.length + cs.length

/-- The one character that an element matches, if it is written as such. -/
def GlobItem.char? : GlobItem → Option Char
  | .char c => some c
  | _ => none

/-- Whether a pattern could match more than one text. -/
def isWild (ps : List GlobItem) : Bool := ps.any fun p => p.char?.isNone

/-- Whether a name matches a pattern that is given as a text; a dot at its start has to stand in the
pattern. -/
def shownNameMatches (pattern name : Bytes) : Bool :=
  let cs := resolveBackslashes ((chars pattern).map (·, false))
  let items := readGlob true cs.length cs
  matchesGlob items (chars name)
    && (name.head? ≠ some 46 || (items.head?.bind GlobItem.char?) = some '.')

/-- Whether a name matches a pattern that is given as a text. -/
def nameMatches (pattern name : Bytes) : Bool :=
  let cs := resolveBackslashes ((chars pattern).map (·, false))
  matchesGlob (readGlob true cs.length cs) (chars name)

end Relay.Userland
