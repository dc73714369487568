import Relay.Text.Basic

/-!
# UTF-8

`Text.utf8` writes a text as bytes, `Text.ofUtf8?` reads bytes that are valid UTF-8, and
`Text.ofUtf8Lossy` reads any bytes, with one replacement character for each maximal subpart of an
ill-formed sequence.  Both readers take one `Scalar` after another off the front of the bytes, so
they differ only in what they do with an ill-formed one.
-/

namespace Relay

/-- A finite sequence of bytes. -/
abbrev Bytes := List UInt8

namespace Text

/-! ## Writing -/

def encodeChar (c : Char) : Bytes :=
  let n := c.toNat
  if n < 0x80 then [UInt8.ofNat n]
  else if n < 0x800 then [UInt8.ofNat (0xC0 + n / 64), UInt8.ofNat (0x80 + n % 64)]
  else if n < 0x10000 then
    [UInt8.ofNat (0xE0 + n / 4096), UInt8.ofNat (0x80 + n / 64 % 64), UInt8.ofNat (0x80 + n % 64)]
  else
    [UInt8.ofNat (0xF0 + n / 262144), UInt8.ofNat (0x80 + n / 4096 % 64),
      UInt8.ofNat (0x80 + n / 64 % 64), UInt8.ofNat (0x80 + n % 64)]

def utf8 (t : Text) : Bytes := t.flatMap encodeChar

/-! ## Reading one character -/

/-- What stands at the front of some bytes: a character, or the start of an ill-formed sequence. -/
inductive Scalar where
  | char (c : Char)
  | illFormed
  deriving DecidableEq, Repr

/-- A byte that continues a sequence. -/
def isTail (b : UInt8) : Bool := 0x80 ≤ b.toNat && b.toNat ≤ 0xBF

/-- Whether `b` may be the second byte after the lead byte `a` of a sequence of three or four. -/
def isSecond (a b : UInt8) : Bool :=
  if a.toNat = 0xE0 then 0xA0 ≤ b.toNat && b.toNat ≤ 0xBF
  else if a.toNat = 0xED then 0x80 ≤ b.toNat && b.toNat ≤ 0x9F
  else if a.toNat = 0xF0 then 0x90 ≤ b.toNat && b.toNat ≤ 0xBF
  else if a.toNat = 0xF4 then 0x80 ≤ b.toNat && b.toNat ≤ 0x8F
  else isTail b

/-- Reads the sequence that starts with the byte `a`; answers what it is and how many bytes of the
rest belong to it.  An ill-formed sequence ends before the first byte that cannot continue it. -/
def readScalar (a : UInt8) (rest : Bytes) : Scalar × Nat :=
  let n := a.toNat
  if n < 0x80 then (.char (Char.ofNat n), 0)
  else if n < 0xC2 then (.illFormed, 0)
  else if n < 0xE0 then
    match rest with
    | b :: _ =>
      if isTail b then (.char (Char.ofNat ((n - 0xC0) * 64 + (b.toNat - 0x80))), 1)
      else (.illFormed, 0)
    | [] => (.illFormed, 0)
  else if n < 0xF0 then
    match rest with
    | b :: c :: _ =>
      if isSecond a b then
        if isTail c then
          (.char (Char.ofNat
            ((n - 0xE0) * 4096 + (b.toNat - 0x80) * 64 + (c.toNat - 0x80))), 2)
        else (.illFormed, 1)
      else (.illFormed, 0)
    | [b] => (.illFormed, if isSecond a b then 1 else 0)
    | [] => (.illFormed, 0)
  else if n < 0xF5 then
    match rest with
    | b :: c :: d :: _ =>
      if isSecond a b then
        if isTail c then
          if isTail d then
            (.char (Char.ofNat ((n - 0xF0) * 262144 + (b.toNat - 0x80) * 4096
              + (c.toNat - 0x80) * 64 + (d.toNat - 0x80))), 3)
          else (.illFormed, 2)
        else (.illFormed, 1)
      else (.illFormed, 0)
    | [b, c] => (.illFormed, if isSecond a b then (if isTail c then 2 else 1) else 0)
    | [b] => (.illFormed, if isSecond a b then 1 else 0)
    | [] => (.illFormed, 0)
  else (.illFormed, 0)

/-! ## Reading -/

/-- Puts the scalars of some bytes, in reverse, on top of those already read. -/
def scalarsOnto (done : List Scalar) : Bytes → List Scalar
  | [] => done
  | a :: rest =>
    let (s, n) := readScalar a rest
    scalarsOnto (s :: done) (rest.drop n)
  termination_by b => b.length
  decreasing_by simp only [List.length_drop, List.length_cons]; omega

/-- The scalars of some bytes, in order. -/
def scalars (b : Bytes) : List Scalar := (scalarsOnto [] b).reverse

/-- The character that stands for an ill-formed sequence. -/
def replacement : Char := Char.ofNat 0xFFFD

/-- The character of a scalar, if it has one. -/
def Scalar.char? : Scalar → Option Char
  | .char c => some c
  | .illFormed => none

def ofUtf8? (b : Bytes) : Option Text := (scalars b).mapM Scalar.char?

/-- Reads any bytes; each ill-formed sequence becomes one replacement character. -/
def ofUtf8Lossy (b : Bytes) : Text := (scalars b).map fun s => s.char?.getD replacement

end Text

end Relay
