import Relay.Userland.Tool

/-!
# Numbers with a point

Texts of numbers are read as exact fractions.  A `BinaryFormat` rounds a fraction to the nearest
number that has so many binary digits, and what it gives is again an exact fraction; printing rounds
that fraction to decimal digits.  Both roundings go to the nearest, and from the middle to the even
neighbour.
-/

namespace Relay.Userland

/-- A quotient of natural numbers. -/
structure Fraction where
  num : Nat
  den : Nat := 1
  deriving Repr

/-- How large a number is. -/
inductive Magnitude where
  | finite (f : Fraction)
  | infinite
  /-- What is no number. -/
  | undefined
  deriving Repr

/-- The value of a hexadecimal digit. -/
def hexValue? (c : Char) : Option Nat :=
  if c.isDigit then some (c.toNat - 48)
  else if 'a' ≤ c && c ≤ 'f' then some (c.toNat - 87)
  else if 'A' ≤ c && c ≤ 'F' then some (c.toNat - 55)
  else none

/-- Whether a character is a hexadecimal digit. -/
def isHex (c : Char) : Bool := (hexValue? c).isSome

def numberIn (base : Nat) (digits : List Char) : Nat :=
  digits.foldl (fun n c => n * base + (hexValue? c).getD 0) 0

/-- Blanks that may stand in front of a number. -/
def isNumberSpace (c : Char) : Bool := c == ' ' || (9 ≤ c.toNat && c.toNat ≤ 13)

/-- A sign in front of a number: whether it is a minus, and what follows. -/
def takeSign : List Char → Bool × List Char
  | '-' :: rest => (true, rest)
  | '+' :: rest => (false, rest)
  | cs => (false, cs)

/-! ## Reading -/

structure NumberText where
  negative : Bool
  magnitude : Magnitude
  /-- What follows the number. -/
  rest : List Char

/-- Exponents beyond this make every number too large or too small. -/
def exponentLimit : Nat := 20000

/-- The exponent that follows a mark, if digits do; the answer is zero otherwise. -/
def takeExponent (isMark : Char → Bool) (cs : List Char) : Int × List Char :=
  match cs with
  | e :: more =>
    let (negative, more) := takeSign more
    let digits := more.takeWhile Char.isDigit
    if isMark e && !digits.isEmpty then
      let n : Nat := min exponentLimit (numberIn 10 digits)
      (if negative then -(n : Int) else n, more.drop digits.length)
    else (0, cs)
  | [] => (0, [])

/-- Digits with at most one point among them: all digits, how many stand behind the point, and the
rest. -/
def takeDigits (accept : Char → Bool) (cs : List Char) : List Char × Nat × List Char :=
  let whole := cs.takeWhile accept
  match cs.drop whole.length with
  | '.' :: more =>
    let places := more.takeWhile accept
    if whole.isEmpty && places.isEmpty then ([], 0, cs)
    else (whole ++ places, places.length, more.drop places.length)
  | rest => (whole, 0, rest)

/-- A number times a power. -/
def scaleBy (n base : Nat) (exponent : Int) : Fraction :=
  if 0 ≤ exponent then ⟨n * Nat.pow base exponent.toNat, 1⟩
  else ⟨n, Nat.pow base exponent.natAbs⟩

/-- Whether a text starts with a word, whatever the case of its letters. -/
def startsWith (word : String) (cs : List Char) : Bool :=
  word.toList.isPrefixOf (cs.map Char.toLower)

/-- Reads a number without a sign. -/
def readMagnitude? (cs : List Char) : Option (Magnitude × List Char) :=
  if startsWith "infinity" cs then some (.infinite, cs.drop 8)
  else if startsWith "inf" cs then some (.infinite, cs.drop 3)
  else if startsWith "nan" cs then some (.undefined, cs.drop 3)
  else
    let hex := if startsWith "0x" cs then takeDigits isHex (cs.drop 2) else ([], 0, [])
    if !hex.1.isEmpty then
      let (digits, places, rest) := hex
      let (e, rest) := takeExponent (fun c => c == 'p' || c == 'P') rest
      some (.finite (scaleBy (numberIn 16 digits) 2 (e - 4 * places)), rest)
    else
      let (digits, places, rest) := takeDigits Char.isDigit cs
      if digits.isEmpty then none
      else
        let (e, rest) := takeExponent (fun c => c == 'e' || c == 'E') rest
        some (.finite (scaleBy (numberIn 10 digits) 10 (e - places)), rest)

/-- Reads a number at the start of a text, after blanks. -/
def readNumber? (text : Bytes) : Option NumberText := do
  let (negative, cs) := takeSign ((chars text).dropWhile isNumberSpace)
  let (magnitude, rest) ← readMagnitude? cs
  return { negative, magnitude, rest }

/-! ## Rounding -/

/-- A quotient rounded to the nearest whole number, from the middle to an even one. -/
def roundHalfEven (numerator denominator : Nat) : Nat :=
  let q := numerator / denominator
  let r := numerator % denominator
  if 2 * r < denominator then q
  else if denominator < 2 * r then q + 1
  else q + q % 2

/-- A fraction times a power of a base, rounded to a whole number. -/
def Fraction.scaled (f : Fraction) (base : Nat) (exponent : Int) : Nat :=
  if 0 ≤ exponent then roundHalfEven (f.num * Nat.pow base exponent.toNat) f.den
  else roundHalfEven f.num (f.den * Nat.pow base exponent.natAbs)

/-- Whether a fraction is at least a power of a base. -/
def Fraction.reaches (f : Fraction) (base : Nat) (exponent : Int) : Bool :=
  if 0 ≤ exponent then f.den * Nat.pow base exponent.toNat ≤ f.num
  else f.den ≤ f.num * Nat.pow base exponent.natAbs

/-- The binary formats of numbers: how many digits they have, and the largest exponent of their
first digit. -/
structure BinaryFormat where
  precision : Nat
  maxExponent : Nat

/-- Numbers of 64 bits. -/
def doubleFormat : BinaryFormat := ⟨53, 1023⟩

/-- Numbers of 80 bits. -/
def extendedFormat : BinaryFormat := ⟨64, 16383⟩

/-- A number of a binary format: a whole number times a power of two. -/
structure BinaryNumber where
  mantissa : Nat
  exponent : Int

/-- The exponent of the first binary digit of a fraction that is not zero. -/
def Fraction.log2 (f : Fraction) : Int :=
  let guess : Int := (f.num.log2 : Int) - (f.den.log2 : Int)
  if f.reaches 2 guess then guess else guess - 1

/-- The number of a format that is nearest to a fraction; nothing if all numbers are smaller. -/
def BinaryFormat.nearest? (b : BinaryFormat) (f : Fraction) : Option BinaryNumber :=
  if f.num = 0 then some ⟨0, 0⟩
  else
    let lowest : Int := 1 - (b.maxExponent : Int)
    let q := max f.log2 lowest - ((b.precision : Int) - 1)
    let m := f.scaled 2 (-q)
    let (m, q) := if m = Nat.pow 2 b.precision then (Nat.pow 2 (b.precision - 1), q + 1)
      else (m, q)
    if (b.maxExponent : Int) < q + (b.precision : Int) - 1 then none else some ⟨m, q⟩

def BinaryNumber.toFraction (n : BinaryNumber) : Fraction := scaleBy n.mantissa 2 n.exponent

/-- A magnitude as a format keeps it, and whether it did not fit. -/
def BinaryFormat.keep (b : BinaryFormat) : Magnitude → Magnitude × Bool
  | .finite f =>
    match b.nearest? f with
    | none => (.infinite, true)
    | some n =>
      let tiny := f.num ≠ 0 && !f.reaches 2 (1 - (b.maxExponent : Int))
      (.finite n.toFraction, tiny && n.toFraction.num * f.den ≠ f.num * n.toFraction.den)
  | m => (m, false)

/-! ## Printing -/

/-- Digits with a point in front of the last ones. -/
def withPlaces (point : Bool) (places n : Nat) : List Char :=
  let ds := Nat.toDigits 10 n
  let ds := List.replicate (places + 1 - ds.length) '0' ++ ds
  let whole := ds.take (ds.length - places)
  if places = 0 && !point then whole else whole ++ '.' :: ds.drop (ds.length - places)

def Fraction.fixed (f : Fraction) (point : Bool) (places : Nat) : List Char :=
  withPlaces point places (f.scaled 10 places)

/-- The decimal digits of a fraction, one before the point and `places` behind it, as one number,
and the exponent of the first one. -/
def Fraction.leading (f : Fraction) (places : Nat) : Nat × Int :=
  if f.num = 0 then (0, 0)
  else
    let guess : Int :=
      ((Nat.toDigits 10 f.num).length : Int) - ((Nat.toDigits 10 f.den).length : Int)
    let k := if f.reaches 10 guess then guess else guess - 1
    let n := f.scaled 10 ((places : Int) - k)
    if n = Nat.pow 10 (places + 1) then (n / 10, k + 1) else (n, k)

/-- An exponent with its sign and at least so many digits. -/
def exponentText (least : Nat) (k : Int) : List Char :=
  let ds := Nat.toDigits 10 k.natAbs
  (if k < 0 then '-' else '+') :: List.replicate (least - ds.length) '0' ++ ds

/-- Digits with an exponent. -/
def Fraction.scientific (f : Fraction) (point : Bool) (places : Nat) : List Char :=
  let (n, k) := f.leading places
  withPlaces point places n ++ 'e' :: exponentText 2 k

/-- Decimal places without the zeros at their end, and without a point that has nothing behind
it. -/
def trimPlaces (cs : List Char) : List Char :=
  if cs.contains '.' then
    let kept := (cs.reverse.dropWhile (· == '0')).reverse
    if kept.getLast? = some '.' then kept.dropLast else kept
  else cs

/-- So many digits, with an exponent if the number is very small or has more digits than that. -/
def Fraction.general (f : Fraction) (point : Bool) (digits : Nat) : List Char :=
  let digits := max digits 1
  let (n, k) := f.leading (digits - 1)
  let trim := if point then id else trimPlaces
  if -4 ≤ k && k < digits then
    trim (f.fixed point ((digits : Int) - 1 - k).toNat)
  else trim (withPlaces point (digits - 1) n) ++ 'e' :: exponentText 2 k

/-- Hexadecimal digits behind the first one of a mantissa whose first digit has so many bits; zeros
at the end are dropped, unless a number of digits is asked for. -/
def hexPlaces (places : Option Nat) (width m : Nat) : List Char :=
  let ds := Nat.toDigits 16 m
  let ds := List.replicate (width - ds.length) '0' ++ ds
  match places with
  | none => (ds.reverse.dropWhile (· == '0')).reverse
  | some p => ds ++ List.replicate (p - width) '0'

/-- A fraction in hexadecimal digits with a binary exponent, as a format keeps it: in front of the
point stands one bit, or, if all bits fill whole digits, four. -/
def Fraction.hexadecimal (f : Fraction) (b : BinaryFormat) (point : Bool) (places : Option Nat) :
    List Char :=
  let leadBits := if b.precision % 4 = 0 then 4 else 1
  let width := (b.precision - leadBits) / 4
  let spell (lead : Nat) (ds : List Char) (k : Int) : List Char :=
    '0' :: 'x' :: Nat.toDigits 16 lead
      ++ (if ds.isEmpty && !point then [] else '.' :: ds) ++ 'p' :: exponentText 1 k
  if f.num = 0 then spell 0 (List.replicate (places.getD 0) '0') 0
  else
    let k := f.log2 - ((leadBits : Int) - 1)
    let kept := match places with
      | some p => min p width
      | none => width
    let n := f.scaled 2 ((4 * kept : Nat) - k)
    let (n, k) :=
      if Nat.pow 2 leadBits ≤ n / Nat.pow 16 kept then
        if leadBits = 1 then (n, k) else (n / 16, k + 4)
      else (n, k)
    spell (n / Nat.pow 16 kept) (hexPlaces places kept (n % Nat.pow 16 kept)) k

end Relay.Userland
