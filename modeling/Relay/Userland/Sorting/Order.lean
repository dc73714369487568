import Relay.Userland.Digest
import Relay.Userland.Floating

/-!
# Orders of texts

The ways in which keys are compared: as bytes, as numbers of several forms, as months, as versions,
or by chance.
-/

namespace Relay.Userland

/-! ## Ways to compare -/

inductive Comparison where
  | bytes
  | numeric
  | general
  | human
  | month
  | version
  | random
  deriving DecidableEq

/-- The order of two numbers. -/
def compareInts (a b : Int) : Ordering := if a < b then .lt else if b < a then .gt else .eq

/-- The order of bytes: byte by byte, a shorter text before its extensions. -/
def compareBytes : Bytes → Bytes → Ordering
  | [], [] => .eq
  | [], _ :: _ => .lt
  | _ :: _, [] => .gt
  | a :: as, b :: bs => if a < b then .lt else if b < a then .gt else compareBytes as bs

/-- Blanks within a line, and the line feed, which a line can hold that ends in another way. -/
def isBlankByte (b : UInt8) : Bool := b == 32 || b == 9 || b == 10

/-- The order that some random bytes give to texts: that of their digests with these bytes in
front. -/
def compareRandomly (salt a b : Bytes) : Ordering :=
  match compareBytes (Digest.of (salt ++ a)) (Digest.of (salt ++ b)) with
  | .eq => compareBytes a b
  | o => o

/-- A decimal number at the start of a text: its digits as one number, and how many of them are
places. -/
def leadingNumber (text : Bytes) : Int × Nat :=
  let cs := chars (text.dropWhile isBlankByte)
  let negative := cs.head? = some '-'
  let (digits, places, _) := takeDigits Char.isDigit (if negative then cs.tail else cs)
  let n : Int := ((numberIn 10 digits : Nat) : Int)
  (if negative then -n else n, places)

/-- The order of the decimal numbers at the start of two texts. -/
def compareNumbers (a b : Bytes) : Ordering :=
  let (m, p) := leadingNumber a
  let (n, q) := leadingNumber b
  compareInts (m * (Nat.pow 10 (max p q - p) : Nat)) (n * (Nat.pow 10 (max p q - q) : Nat))

/-- A number on a scale on which what is no number comes first, then what is undefined, with a minus
sign last. -/
def generalRank (text : Bytes) : Nat × Bool × Magnitude :=
  match readNumber? text with
  | none => (0, false, .undefined)
  | some number =>
    match (extendedFormat.keep number.magnitude).1 with
    | .undefined => (if number.negative then 2 else 1, false, .undefined)
    | m => (3, number.negative, m)

def compareMagnitudes : Magnitude → Magnitude → Ordering
  | .finite f, .finite g => compareInts (f.num * g.den) (g.num * f.den)
  | .finite _, _ => .lt
  | _, .finite _ => .gt
  | _, _ => .eq

def Magnitude.isZero : Magnitude → Bool
  | .finite f => f.num = 0
  | _ => false

/-- The order of two texts as numbers of any form. -/
def compareGeneral (a b : Bytes) : Ordering :=
  let (r, s, m) := generalRank a
  let (r', s', m') := generalRank b
  if r ≠ r' then compareInts r r'
  else if r < 3 then .eq
  else if m.isZero && m'.isZero then .eq
  else
    match s && !m.isZero, s' && !m'.isZero with
    | true, false => .lt
    | false, true => .gt
    | false, false => compareMagnitudes m m'
    | true, true => compareMagnitudes m' m

/-- The rank of the unit behind a number, if the number is not zero. -/
def unitRank (text : Bytes) : Int :=
  let cs := chars (text.dropWhile isBlankByte)
  let negative := cs.head? = some '-'
  let (digits, _, rest) := takeDigits Char.isDigit (if negative then cs.tail else cs)
  let rank : Int :=
    if digits.all (· == '0') then 0
    else
      match rest.head? with
      | some 'k' | some 'K' => 1
      | some 'M' => 2
      | some 'G' => 3
      | some 'T' => 4
      | some 'P' => 5
      | some 'E' => 6
      | some 'Z' => 7
      | some 'Y' => 8
      | _ => 0
  if negative then -rank else rank

def monthNames : List String :=
  ["JAN", "FEB", "MAR", "APR", "MAY", "JUN", "JUL", "AUG", "SEP", "OCT", "NOV", "DEC"]

/-- The number of the month that a text starts with, or zero. -/
def monthOf (text : Bytes) : Nat :=
  let cs := ((chars (text.dropWhile isBlankByte)).take 3).map Char.toUpper
  ((monthNames.idxOf? (String.ofList cs)).map (· + 1)).getD 0

/-! ### Versions -/

/-- The place of a character in the order of versions; the end of a text comes before all but the
tilde. -/
def versionRank : Option Char → Int
  | none => -1
  | some c =>
    if c.isDigit then 0
    else if c.isAlpha then c.toNat
    else if c == '~' then -2
    else c.toNat + 256

/-- The order of two versions: runs of digits are compared as numbers, all else character by
character. -/
def compareVersions : Nat → List Char → List Char → Ordering
  | 0, _, _ => .eq
  | n + 1, a, b =>
    match a, b with
    | [], [] => .eq
    | _, _ =>
      if (a.head?.any (!·.isDigit)) || (b.head?.any (!·.isDigit)) then
        match compareInts (versionRank a.head?) (versionRank b.head?) with
        | .eq => compareVersions n a.tail b.tail
        | o => o
      else
        let as := a.takeWhile Char.isDigit
        let bs := b.takeWhile Char.isDigit
        match compareInts (numberIn 10 as : Nat) (numberIn 10 bs : Nat) with
        | .eq =>
          if as.isEmpty && bs.isEmpty then .eq
          else compareVersions n (a.drop as.length) (b.drop bs.length)
        | o => o

/-- A text without the suffixes that start with a point and a letter, of which one character is
always left. -/
def withoutSuffix (cs : List Char) : List Char :=
  let isStart (i : Nat) : Bool :=
    cs.getD i ' ' == '.' && (cs[i + 1]?.any fun c => c.isAlpha || c == '~')
  let suffixFrom (i : Nat) : Bool :=
    isStart i && (pieces (· == '.') (cs.drop (i + 1))).all fun p =>
      (p.head?.any fun c => c.isAlpha || c == '~') && p.all fun c => c.isAlphanum || c == '~'
  match (List.range cs.length).find? fun i => i ≠ 0 && suffixFrom i with
  | some i => cs.take i
  | none => cs

/-- The order of two names of files with version numbers in them.  A name with a point in front
comes before all others. -/
def compareFileVersions (a b : Bytes) : Ordering :=
  let x := chars a
  let y := chars b
  let rank (cs : List Char) : Nat :=
    match cs with
    | [] => 0
    | ['.'] => 1
    | ['.', '.'] => 2
    | '.' :: _ => 3
    | _ => 4
  if rank x ≠ rank y then compareInts (rank x) (rank y)
  else if rank x < 3 then .eq
  else
    let p := withoutSuffix x
    let q := withoutSuffix y
    match compareVersions (p.length + q.length + 1) p q with
    | .eq => compareVersions (x.length + y.length + 1) x y
    | o => o

end Relay.Userland
