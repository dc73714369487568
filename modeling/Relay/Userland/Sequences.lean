import Relay.Userland.Formatting
import Relay.Userland.Manual.Lines
import Relay.Userland.Options

/-!
# Sequences of numbers

`seq` counts from one number to another.  Whole numbers are counted exactly; numbers with a point
are kept in binary, and every term is reckoned from the first one, so that errors do not add up.
-/

namespace Relay.Userland

/-! ## Binary numbers -/

/-- A whole number times a power of two. -/
structure Dyadic where
  mantissa : Int
  exponent : Int

namespace Dyadic

/-- A number rounded to the digits that are kept. -/
def round (x : Dyadic) : Dyadic :=
  match extendedFormat.nearest? (scaleBy x.mantissa.natAbs 2 x.exponent) with
  | some n =>
    let m : Int := ((n.mantissa : Nat) : Int)
    ⟨if x.mantissa < 0 then -m else m, n.exponent⟩
  | none => x

/-- The mantissas of two numbers for the smaller of their exponents. -/
def aligned (x y : Dyadic) : Int × Int × Int :=
  let e := min x.exponent y.exponent
  (x.mantissa * Nat.pow 2 (x.exponent - e).toNat,
    y.mantissa * Nat.pow 2 (y.exponent - e).toNat, e)

/-- A sum, rounded. -/
def add (x y : Dyadic) : Dyadic :=
  let (a, b, e) := x.aligned y
  round ⟨a + b, e⟩

/-- A multiple, rounded. -/
def times (n : Nat) (x : Dyadic) : Dyadic := round { x with mantissa := n * x.mantissa }

/-- Whether a number is smaller than another one. -/
def below (x y : Dyadic) : Bool :=
  let (a, b, _) := x.aligned y
  a < b

/-- Prints a number by a conversion, with a sign if it is said to be negative. -/
def print (c : Conversion) (x : Dyadic) (negative : Bool := x.mantissa < 0) : Bytes :=
  c.printNumber extendedFormat negative (.finite (scaleBy x.mantissa.natAbs 2 x.exponent))

end Dyadic

/-! ## Operands -/

/-- A number as it was given: its value, of which a missing one is infinite, and, if it was written
in decimal digits, how wide it is and how many places it has. -/
structure Operand where
  negative : Bool
  value : Option Dyadic
  width : Int := 0
  places : Option Nat := none

/-- The number one. -/
def Operand.one : Operand :=
  { negative := false, value := some ⟨1, 0⟩, width := 1, places := some 0 }

/-- The whole number that a number without places is. -/
def Operand.whole (o : Operand) : Int :=
  match o.value with
  | some x => x.mantissa * Nat.pow 2 x.exponent.toNat / Nat.pow 2 (-x.exponent).toNat
  | none => 0

/-- Whether a number counts something: it is whole and not negative. -/
def Operand.isCount (o : Operand) : Bool :=
  o.value.isSome && o.places = some 0 && !o.negative

/-- How wide a decimal number is when its exponent is written out, and how many places it has. -/
def decimalSize (cs : List Char) : Int × Nat :=
  let isMark (c : Char) : Bool := c == 'e' || c == 'E'
  let digits := cs.takeWhile (!isMark ·)
  let whole := digits.takeWhile (· != '.')
  let hasPoint := whole.length < digits.length
  let fraction := digits.length - whole.length - 1
  let places := if hasPoint then fraction else 0
  let length : Int := ((digits.length : Nat) : Int)
  let width : Int :=
    if !hasPoint then length
    else if fraction = 0 then length - 1
    else if (whole.getLast?.map Char.isDigit).getD false then length else length + 1
  if digits.length = cs.length then (width, places)
  else
    let e := (takeExponent isMark (cs.drop digits.length)).1
    let n := e.natAbs
    if e < 0 then
      let width := if !hasPoint || fraction = 0 then width + 1 else width
      (width + n, places + n)
    else
      let left := places - n
      let width := if hasPoint && left = 0 && fraction ≠ 0 then width - 1 else width
      (width + n - min fraction n, left)

def readOperandNumber (inv : Invocation) (text : Bytes) : Except Halt Operand := do
  let invalid : Except Halt Operand :=
    misuse inv (ascii "invalid floating point argument: " ++ quoted text) 1
  match readNumber? text with
  | none => invalid
  | some number =>
    let (m, missed) := extendedFormat.keep number.magnitude
    let cs := (chars text).dropWhile fun c => isNumberSpace c || c == '+'
    let isHexNumber := cs.any fun c => c == 'x' || c == 'X'
    match m with
    | .undefined =>
      if !number.rest.isEmpty then invalid
      else misuse inv (ascii "invalid 'not-a-number' argument: " ++ quoted text) 1
    | .infinite =>
      if missed || !number.rest.isEmpty then invalid
      else return { negative := number.negative, value := none, places := some 0 }
    | .finite f =>
      if !number.rest.isEmpty then invalid
      else
        let kept := (extendedFormat.nearest? f).getD ⟨0, 0⟩
        let mantissa : Int := ((kept.mantissa : Nat) : Int)
        let value : Dyadic := ⟨if number.negative then -mantissa else mantissa, kept.exponent⟩
        let operand : Operand := { negative := number.negative, value := some value }
        if isHexNumber then
          return if cs.contains '.' || cs.contains 'p' then operand
            else { operand with places := some 0 }
        else
          let (width, places) := decimalSize cs
          return { operand with width, places := some places }

/-! ## Formats -/

/-- A format with one conversion, and the texts around it. -/
structure NumberFormat where
  before : Bytes := []
  conversion : Conversion
  after : Bytes := []

/-- Reads a text up to a lone percent sign; two of them stand for one. -/
def takePlain : List Char → List Char × Option (List Char)
  | '%' :: '%' :: cs =>
    let (text, rest) := takePlain cs
    ('%' :: text, rest)
  | '%' :: cs => ([], some cs)
  | c :: cs =>
    let (text, rest) := takePlain cs
    (c :: text, rest)
  | [] => ([], none)

def readNumberFormat (inv : Invocation) (text : Bytes) : Except Halt NumberFormat := do
  let refused (what : Bytes) : Except Halt NumberFormat :=
    halt inv (ascii "format " ++ quoted text ++ ascii " " ++ what) 1
  match takePlain (chars text) with
  | (_, none) => refused (ascii "has no % directive")
  | (before, some cs) =>
    let flags := cs.takeWhile fun c => "-+#0 '".toList.contains c
    let cs := cs.drop flags.length
    let width := cs.takeWhile Char.isDigit
    let cs := cs.drop width.length
    let (precision, cs) := match cs with
      | '.' :: rest =>
        let ds := rest.takeWhile Char.isDigit
        (some (numberIn 10 ds), rest.drop ds.length)
      | _ => (none, cs)
    let cs := if cs.head? = some 'L' then cs.tail else cs
    match cs with
    | [] => refused (ascii "ends in %")
    | letter :: rest =>
      if !"efgaEFGA".toList.contains letter then
        refused (ascii "has unknown %" ++ octets [letter] ++ ascii " directive")
      else
        match takePlain rest with
        | (_, some _) => refused (ascii "has too many % directives")
        | (after, none) =>
          return {
            before := octets before, after := octets after
            conversion :=
              { left := flags.contains '-', zero := flags.contains '0', plus := flags.contains '+',
                blank := flags.contains ' ', alternate := flags.contains '#',
                width := numberIn 10 width, precision, letter } }

/-- The format of a sequence for which none is given: as many places as the first number and the
step have, and, if asked to, so many digits that all numbers are equally wide. -/
def usualFormat (equalWidth : Bool) (first step last : Operand) : NumberFormat :=
  match first.places, step.places, last.places with
  | some p, some q, some r =>
    let places := max p q
    let firstWidth := first.width + places - p + (if p = 0 && places ≠ 0 then 1 else 0)
    let lastWidth := last.width + places - r - (if r ≠ 0 && places = 0 then 1 else 0)
      + (if r = 0 && places ≠ 0 then 1 else 0)
    let width := if equalWidth then (max firstWidth lastWidth).toNat else 0
    { conversion := { zero := equalWidth, width, precision := some places, letter := 'f' } }
  | _, _, _ => { conversion := { letter := 'g' } }

/-! ## Counting -/

/-- A number of a sequence as it is printed; none if the sequence is at its end before.  The number
just beyond the end is printed as well if it looks like the last one but not like the one before
it. -/
def sequenceTerm? (format : NumberFormat) (first step last : Operand) (k : Nat) : Option Bytes :=
  match first.value, step.value with
  | some a, some b =>
    let down := b.mantissa < 0
    let isPast (x : Dyadic) : Bool :=
      match last.value with
      | none => down != last.negative
      | some c => if down then x.below c else c.below x
    let number (i : Nat) : Dyadic := a.add (b.times i)
    let x := number k
    let isNegative := x.mantissa < 0 || (k = 0 && first.negative)
    let shown := x.print format.conversion isNegative
    let whole := format.before ++ shown ++ format.after
    if !isPast x then some whole
    else if k = 0 || isPast (number (k - 1)) then none
    else
      let looksLast := match (readNumber? shown).map (·.magnitude), last.value with
        | some (.finite f), some c =>
          let kept := (extendedFormat.nearest? f).getD ⟨0, 0⟩
          let y : Dyadic := ⟨(kept.mantissa : Nat), kept.exponent⟩
          let y := if shown.contains 45 then { y with mantissa := -y.mantissa } else y
          !(y.below c) && !(c.below y)
        | _, _ => false
      if looksLast && (number (k - 1)).print format.conversion != shown then some whole else none
  | _, _ => none

/-- A whole number, if a text writes one in digits only. -/
def wholeNumber? (text : Bytes) : Option Int := (natOf? text).map Int.ofNat

/-- A number of a sequence of whole numbers, which may have an end. -/
def wholeTerm? (first step : Int) (last : Option Int) (k : Nat) : Option Bytes :=
  let n := first + step * (k : Int)
  let isPast := last.any fun last => if step < 0 then n < last else last < n
  if isPast then none else some (ascii (toString n))

/-- How many numbers stand before a part of a sequence; each part is twice as long as the one before,
up to some length. -/
def partStart (k : Nat) : Nat :=
  let steep := min k 6
  1000 * (Nat.pow 2 steep - 1) + 64000 * (k - steep)

/-- A part of a sequence as it is printed: its numbers, separated from each other and from those of
the next part. -/
def sequencePart (term : Nat → Option Bytes) (separator : Bytes) (k : Nat) : Option Bytes :=
  let before := partStart k
  let terms := (List.range (partStart (k + 1) - before)).map (before + ·) |>.map term
    |>.takeWhile (·.isSome) |>.filterMap id
  if terms.isEmpty then none
  else
    let behind := if (term (before + terms.length)).isSome then separator else [Text.lineFeed]
    some (separator.intercalate terms ++ behind)

/-- What `seq` is asked for. -/
structure SequenceCall where
  separator : Bytes := [10]
  equalWidth : Bool := false
  format : Option Bytes := none

def seqOptions : List OptionRule :=
  [plainOption 'w' ["equal-width"], valueOption 'f' ["format"], valueOption 's' ["separator"]]
    ++ selfDescription

/-- One option of `seq`. -/
def SequenceCall.take (c : SequenceCall) (f : Flag) : Except Halt SequenceCall :=
  match f.key with
  | "w" => .ok { c with equalWidth := true }
  | "f" => .ok { c with format := some f.text }
  | "s" => .ok { c with separator := f.text }
  | _ => .ok c

/-- Whether an argument is a negative number, and no option. -/
def isNegativeNumber (a : Bytes) : Bool :=
  match chars a with
  | '-' :: c :: _ => c == '.' || c.isDigit
  | _ => false

/-- Prints a sequence of numbers. -/
def seq : Tool := guarded Manual.seq fun inv t => do
  let ends (a : Bytes) : Bool := inFront a || isNegativeNumber a
  let (c, operands) ← readCall seqOptions ends 1 SequenceCall.take {} inv
  if operands.isEmpty then misuse inv (ascii "missing operand") 1
  if 3 < operands.length then
    misuse inv (ascii "extra operand " ++ quoted (operands.getD 3 [])) 1
  let format ← c.format.mapM (readNumberFormat inv)
  let plain := !c.equalWidth && c.format.isNone
  let finish (term : Nat → Option Bytes) : Report :=
    { files := t, unread := inv.stdin, further := sequencePart term c.separator }
  if c.format.isSome && c.equalWidth then
    misuse inv (ascii "format string may not be specified when printing equal width strings") 1
  let general (first step last : Operand) : Report :=
    if plain && first.isCount && step.isCount && last.value.isNone && last.places = some 0
        && !last.negative then
      finish (wholeTerm? first.whole step.whole none)
    else
      finish (sequenceTerm? (format.getD (usualFormat c.equalWidth first step last)) first step last)
  match plain, operands.mapM wholeNumber? with
  | true, some [last] => return finish (wholeTerm? 1 1 (some last))
  | true, some [first, last] => return finish (wholeTerm? first 1 (some last))
  | true, some [first, step, last] =>
    if step = 0 then
      misuse inv (ascii "invalid Zero increment value: " ++ quoted (operands.getD 1 [])) 1
    else return finish (wholeTerm? first step (some last))
  | _, _ => do
    match operands with
    | [a] => return general .one .one (← readOperandNumber inv a)
    | [a, b] =>
      let first ← readOperandNumber inv a
      return general first .one (← readOperandNumber inv b)
    | a :: b :: rest => do
      let first ← readOperandNumber inv a
      let step ← readOperandNumber inv b
      if (step.value.map (·.mantissa)) = some 0 then
        misuse inv (ascii "invalid Zero increment value: " ++ quoted b) 1
      return general first step (← readOperandNumber inv (rest.headD []))
    | [] => return finish fun _ => none

end Relay.Userland
