import Relay.Userland.Floating
import Relay.Userland.Printing

/-!
# Escapes in scripts

Scripts write control characters, and characters given by their numbers, as escapes.  `unescape`
puts the characters in their place before a pattern or a replacement is looked at, so that a
character that was written as an escape can have the meaning of an operator.
-/

namespace Relay.Userland.Edit

/-- Reads the number of a character after the letter that tells its base. -/
def numberEscape? (letter : Char) (cs : List Char) : Option (Char × List Char) :=
  let read (base width : Nat) : Option (Char × List Char) :=
    match takeUpTo width (fun c => (hexValue? c).any (· < base)) cs with
    | ([], _) => none
    | (ds, rest) => some (Char.ofNat (byteOf base ds).toNat, rest)
  match letter with
  | 'd' => read 10 3
  | 'o' => read 8 3
  | 'x' => read 16 2
  | _ => none

/-- Reads an escape for a control character or a number, after its backslash.  The control character
of a backslash is written with two of them. -/
def controlEscape? (cs : List Char) : Option (Char × List Char) :=
  match cs with
  | 'c' :: '\\' :: '\\' :: rest => some ('\x1c', rest)
  | 'c' :: c :: rest => some (Char.ofNat (c.toUpper.toNat ^^^ 64), rest)
  | c :: rest =>
    if "afnrtv".toList.contains c then
      (plainEscape? c).map fun b => (Char.ofNat b.toNat, rest)
    else numberEscape? c rest
  | [] => none

def nestsEscapes : List Char → Bool
  | '\\' :: 'c' :: '\\' :: c :: cs => c != '\\' || nestsEscapes cs
  | '\\' :: _ :: cs => nestsEscapes cs
  | _ :: cs => nestsEscapes cs
  | [] => false

/-- Whether a place in a pattern is within brackets, and within which mark of a named class. -/
inductive Enclosure where
  | outside
  | inside
  | named (mark : Char)

/-- The enclosure of what stands behind a character, which follows another one. -/
def Enclosure.behind (e : Enclosure) (previous c : Char) : Enclosure :=
  match e, c with
  | .outside, '[' => .inside
  | .inside, ']' => .outside
  | .inside, c => if previous == '[' && (c == ':' || c == '.' || c == '=') then .named c else .inside
  | .named mark, ']' => if previous == mark then .inside else .named mark
  | e, _ => e

/-- A text in which escapes for characters are replaced by the characters; at most `n` characters
are read.  The characters that are guarded get a backslash, so that they mean themselves.  Within
brackets, if they are looked at, nothing is an escape. -/
def unescape (guarded : List Char) (sparesBrackets : Bool) :
    Nat → Enclosure → Char → List Char → List Char
  | 0, _, _, _ => []
  | _, _, _, [] => []
  | _, .outside, _, ['\\', 'c'] => ['\\']
  | n + 1, .outside, _, '\\' :: c :: cs =>
    match controlEscape? (c :: cs) with
    | some (x, rest) =>
      (if guarded.contains x then ['\\', x] else [x])
        ++ unescape guarded sparesBrackets n .outside x rest
    | none => '\\' :: c :: unescape guarded sparesBrackets n .outside c cs
  | n + 1, e, previous, c :: cs =>
    let further := if sparesBrackets then e.behind previous c else .outside
    c :: unescape guarded sparesBrackets n further c cs

def patternText (sparesBrackets : Bool) (cs : List Char) : List Char :=
  unescape [] sparesBrackets cs.length .outside ' ' cs

def replacementText (cs : List Char) : List Char :=
  unescape ['&', '\\'] false cs.length .outside ' ' cs

/-- A text without any escapes; at most `n` characters are read. -/
def plainText : Nat → List Char → List Char
  | 0, _ => []
  | _, [] => []
  | _, ['\\', 'c'] => []
  | n + 1, '\\' :: c :: cs =>
    match controlEscape? (c :: cs) with
    | some (x, rest) => x :: plainText n rest
    | none => c :: plainText n cs
  | n + 1, c :: cs => c :: plainText n cs

end Relay.Userland.Edit
