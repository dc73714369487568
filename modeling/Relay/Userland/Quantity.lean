import Relay.Userland.Floating
import Relay.Userland.Halt

/-!
# Quantities

Counts and sizes as tools read them: decimal digits, and a letter behind them that multiplies.  A
letter alone counts once.
-/

namespace Relay.Userland

/-- Why a text is no quantity. -/
inductive QuantityFlaw where
  | noNumber
  /-- The number is larger than every word of the machine. -/
  | tooLarge
  /-- The number is not within the bounds that were asked for. -/
  | outOfRange
  deriving DecidableEq

def QuantityFlaw.remark : QuantityFlaw → Bytes
  | .noNumber => []
  | .tooLarge => ascii ": " ++ ascii (Errno.mk 75).text
  | .outOfRange => ascii ": " ++ ascii (Errno.mk 34).text

/-- The greatest number of a machine word. -/
def largestWord : Nat := Nat.pow 2 64 - 1

/-- How many times a letter multiplies, as a power of a base. -/
def unitPower? (c : Char) : Option Nat :=
  match c with
  | 'k' | 'K' => some 1
  | 'm' | 'M' => some 2
  | 'g' | 'G' => some 3
  | 't' | 'T' => some 4
  | 'P' => some 5
  | 'E' => some 6
  | 'Z' => some 7
  | 'Y' => some 8
  | _ => none

/-- What the letters behind a number multiply it by; `letters` are those that may come first, and a
zero among them admits letters that tell powers of a thousand from powers of 1024. -/
def multiplier? (letters : String) (cs : List Char) : Option Nat :=
  match cs with
  | [] => some 1
  | c :: rest =>
    if !letters.toList.contains c then none
    else
      match unitPower? c, rest with
      | some k, [] => some (Nat.pow 1024 k)
      | some k, ['i', 'B'] => if letters.toList.contains '0' then some (Nat.pow 1024 k) else none
      | some k, ['B'] => if letters.toList.contains '0' then some (Nat.pow 1000 k) else none
      | some k, ['D'] => if letters.toList.contains '0' then some (Nat.pow 1000 k) else none
      | some _, _ => none
      | none, [] =>
        match c with
        | 'b' => some 512
        | 'B' => some 1024
        | 'c' => some 1
        | 'w' => some 2
        | _ => none
      | none, _ => none

def quantityOf (letters : String) (least greatest : Nat) (text : Bytes) :
    Except QuantityFlaw Nat :=
  let cs := (chars text).dropWhile fun c => c == ' ' || (9 ≤ c.toNat && c.toNat ≤ 13)
  let unsigned := if cs.head? = some '+' then cs.tail else cs
  let digits := unsigned.takeWhile Char.isDigit
  let n := (natOf? (octets digits)).getD 1
  let rest := if digits.isEmpty then chars text else unsigned.drop digits.length
  if cs.head? = some '-' || (digits.isEmpty && rest.isEmpty) then .error .noNumber
  else
    match multiplier? letters rest with
    | none => .error .noNumber
    | some m =>
      if largestWord < n * m then .error .tooLarge
      else if n * m < least || greatest < n * m then
        .error (if Nat.pow 2 30 ≤ n * m then .tooLarge else .outOfRange)
      else .ok (n * m)

/-- The quantity that an option's value writes; a flaw is complained about as an invalid `what`. -/
def readQuantity (inv : Invocation) (letters what : String) (text : Bytes) (least : Nat := 0)
    (greatest : Nat := largestWord) (code : Nat := 1) : Except Halt Nat :=
  match quantityOf letters least greatest text with
  | .ok n => .ok n
  | .error flaw => halt inv (ascii what ++ ascii ": " ++ quoted text ++ flaw.remark) code

/-! ## Counts in a base of their own -/

/-- Why a text is no count. -/
inductive CountFlaw where
  | noNumber
  | badLetter
  | tooLarge
  deriving DecidableEq

/-- What is said about the argument of an option that is no count.  The argument is shown as it is. -/
def CountFlaw.message (option : String) (text : Bytes) : CountFlaw → Bytes
  | .noNumber => ascii s!"invalid {option} argument '" ++ text ++ ascii "'"
  | .badLetter => ascii s!"invalid suffix in {option} argument '" ++ text ++ ascii "'"
  | .tooLarge => ascii s!"{option} argument '" ++ text ++ ascii "' too large"

/-- A count: digits, and letters that multiply.  Without a base it is decimal, or octal or
hexadecimal by its first digits. -/
def countOf (base : Option Nat) (letters : String) (text : Bytes) : Except CountFlaw Nat :=
  let cs := (chars text).dropWhile isNumberSpace
  let unsigned := if cs.head? = some '+' then cs.tail else cs
  let isHexText := (base.isNone || base = some 16) && startsWith "0x" unsigned
    && (unsigned.drop 2).head?.any isHex
  let base := base.getD (if isHexText then 16 else if unsigned.head? = some '0' then 8 else 10)
  let body := if isHexText then unsigned.drop 2 else unsigned
  let digits := body.takeWhile fun c => (hexValue? c).any (· < base)
  let rest := if digits.isEmpty then chars text else body.drop digits.length
  if cs.head? = some '-' || (digits.isEmpty && (multiplier? letters rest).isNone) || cs.isEmpty then
    .error .noNumber
  else
    match multiplier? letters rest with
    | none => .error .badLetter
    | some m =>
      let n := (if digits.isEmpty then 1 else numberIn base digits) * m
      if largestWord < n then .error .tooLarge else .ok n

def readCount (inv : Invocation) (option : String) (base : Option Nat) (letters : String)
    (text : Bytes) (code : Nat := 1) : Except Halt Nat :=
  match countOf base letters text with
  | .ok n => .ok n
  | .error flaw => halt inv (flaw.message option text) code

end Relay.Userland
