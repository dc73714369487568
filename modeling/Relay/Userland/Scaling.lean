import Relay.Userland.Quantity

/-!
# Sizes in units

A size is written as a number of units, rounded up.  The unit is fixed, or it is the largest power
of a base that leaves a number below the base; small numbers then have one decimal.
-/

namespace Relay.Userland

structure SizeFormat where
  unit : Nat := 1
  /-- The unit is chosen for each size. -/
  chooses : Bool := false
  /-- The letter of the unit follows the number. -/
  lettered : Bool := false
  /-- Units are powers of 1024, not of 1000. -/
  binary : Bool := false
  /-- A sign for bytes follows the letter. -/
  bytes : Bool := false
  deriving DecidableEq

namespace SizeFormat

def base (f : SizeFormat) : Nat := if f.binary then 1024 else 1000

/-- The letter of a power of the base, and the sign for bytes behind it. -/
def suffix (f : SizeFormat) (power : Nat) : Bytes :=
  if !f.lettered then []
  else
    let letter :=
      if power = 0 then []
      else if power = 1 && !f.binary then ['k']
      else ("KMGTPEZY".toList.drop (power - 1)).take 1
    let sign := if f.bytes then (if f.binary && power ≠ 0 then ['i', 'B'] else ['B']) else []
    octets (letter ++ sign)

/-- The largest power of the base that has a letter. -/
def greatestPower : Nat := 8

/-- How many powers of the base a number holds. -/
def powerOf (f : SizeFormat) (size : Nat) : Nat :=
  (((List.range greatestPower).filter fun k => Nat.pow f.base (k + 1) ≤ size).length)

def write (f : SizeFormat) (size : Nat) : Bytes :=
  if f.chooses then
    let power := f.powerOf size
    let unit := Nat.pow f.base power
    let whole := (size + unit - 1) / unit
    let tenths := (size * 10 + unit - 1) / unit
    if power = 0 then decimal size ++ f.suffix 0
    else if tenths < 100 then
      decimal (tenths / 10) ++ ascii "." ++ decimal (tenths % 10) ++ f.suffix power
    else if whole = f.base && power < greatestPower then ascii "1.0" ++ f.suffix (power + 1)
    else decimal whole ++ f.suffix power
  else
    let power := ((List.range greatestPower).filter fun k => Nat.pow f.base k < f.unit).length
    decimal ((size + f.unit - 1) / f.unit) ++ f.suffix power

def readable : SizeFormat := { chooses := true, lettered := true, binary := true }

/-- The same with powers of 1000. -/
def thousands : SizeFormat := { chooses := true, lettered := true }

def ofBlock (text : Bytes) : Except QuantityFlaw SizeFormat :=
  let text := if text.head? = some 39 then text.tail else text
  if text = ascii "human-readable" then .ok readable
  else if text = ascii "si" then .ok thousands
  else
    match quantityOf "eEgGkKmMpPtTyYzZ0" 0 largestWord text with
    | .error flaw => .error flaw
    | .ok 0 => .error .noNumber
    | .ok unit =>
      if (chars text).any Char.isDigit then .ok { unit }
      else
        let letters := chars text
        let bytes := letters.getLast? = some 'B'
        let binary := !bytes || letters.dropLast.getLast? = some 'i'
        .ok { unit, lettered := true, binary, bytes }

end SizeFormat

end Relay.Userland
