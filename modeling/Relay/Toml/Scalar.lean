import Relay.Toml.Scanner

/-!
# Scalars

Strings, numbers and dates of a TOML document.  Settings use strings, integers and the way a date
and time is written; of the other scalars it only matters whether they are well formed.
-/

namespace Relay.Toml

open Scan

/-! ## Characters -/

/-- Blanks within a line. -/
def isSpace (c : Char) : Bool := c == ' ' || c == '\t'

/-- Characters that no string and no comment can hold as they are: controls, except the tab. -/
def isControl (c : Char) : Bool := (c.toNat < 0x20 && c != '\t') || c.toNat == 0x7F

def isDigit (c : Char) : Bool := '0' ≤ c && c ≤ '9'

def isHexDigit (c : Char) : Bool :=
  isDigit c || ('a' ≤ c && c ≤ 'f') || ('A' ≤ c && c ≤ 'F')

def digitValue (c : Char) : Nat :=
  if isDigit c then c.toNat - 48
  else if 'a' ≤ c && c ≤ 'f' then c.toNat - 87
  else c.toNat - 55

def valueOf (base : Nat) (digits : Text) : Nat :=
  digits.foldl (fun n c => n * base + digitValue c) 0

/-- Blanks within a line, possibly none. -/
def spaces : Scan Text := run isSpace

/-- The end of a line. -/
def newline : Scan Text := orElse (exact ['\n']) (exact ['\r', '\n'])

/-- A comment, up to the end of its line. -/
def comment : Scan Text := do
  let _ ← char '#'
  run (fun c => !isControl c)

/-! ## Strings -/

/-- The character with a number written in hexadecimal; surrogates are no characters. -/
def scalarOf (digits : Text) : Scan Char :=
  let n := valueOf 16 digits
  if n < 0xD800 || (0xE000 ≤ n && n ≤ 0x10FFFF) then succeed (Char.ofNat n) else refuse

/-- What follows a backslash. -/
def escape : Scan Char := do
  match ← one (fun _ => true) with
  | 'b' => return Char.ofNat 8
  | 'f' => return Char.ofNat 12
  | 'n' => return '\n'
  | 'r' => return '\r'
  | 't' => return '\t'
  | '"' => return '"'
  | '\\' => return '\\'
  | 'u' => scalarOf (← exactly 4 isHexDigit)
  | 'U' => scalarOf (← exactly 8 isHexDigit)
  | _ => refuse

/-- One character of a basic string, written as it is or escaped. -/
def basicChar : Scan Char := do
  match ← one (fun c => c != '"' && !isControl c) with
  | '\\' => escape
  | c => return c

/-- A string in quotation marks, on one line. -/
def basicString : Scan Text := do
  let _ ← char '"'
  let t ← many basicChar
  let _ ← char '"'
  return t

/-- A string in apostrophes, on one line; nothing is escaped. -/
def literalString : Scan Text := do
  let _ ← char '\''
  let t ← run (fun c => c != '\'' && !isControl c)
  let _ ← char '\''
  return t

/-- A backslash at the end of a line: it takes the blanks and line ends that follow. -/
def continuation : Scan Text := do
  let _ ← char '\\'
  let _ ← spaces
  let _ ← newline
  let _ ← many (orElse (run1 isSpace) newline)
  return []

/-- A part of the body of a string of several lines: a line end, or what `inner` takes. -/
def bodyPart (inner : Scan Text) : Scan Text :=
  orElse (do let _ ← newline; return ['\n']) inner

/-- Up to two delimiter characters that belong to the body, as something else follows them. -/
def innerDelimiters (c : Char) : Scan Text := fun t =>
  let n := (t.takeWhile (· == c)).length
  if n = 1 ∨ n = 2 then some (List.replicate n c, t.drop n) else none

/-- A string of several lines between three delimiter characters.  A line end right after the
opening does not belong to it; up to two delimiter characters may stand before the closing. -/
def longString (c : Char) (inner : Scan Text) : Scan Text := do
  let _ ← exact [c, c, c]
  let _ ← optional newline
  let parts ← many (orElse (bodyPart inner) (innerDelimiters c))
  let closing ← run (· == c)
  if closing.length < 3 then refuse
  else if 5 < closing.length then refuse
  else return parts.flatten ++ closing.drop 3

/-- A string of several lines in quotation marks. -/
def longBasicString : Scan Text :=
  longString '"' (orElse continuation (do let c ← basicChar; return [c]))

/-- A string of several lines in apostrophes. -/
def longLiteralString : Scan Text :=
  longString '\'' (do let c ← one (fun c => c != '\'' && !isControl c); return [c])

def string : Scan Text := fun t =>
  match t with
  | '"' :: '"' :: '"' :: _ => longBasicString t
  | '"' :: _ => basicString t
  | '\'' :: '\'' :: '\'' :: _ => longLiteralString t
  | '\'' :: _ => literalString t
  | _ => none

/-! ## Numbers -/

/-- Digits of a class with single underscores between them; answers the digits. -/
def digitsWith (accept : Char → Bool) : Scan Text := do
  let first ← run1 accept
  let more ← many (do
    let _ ← char '_'
    run1 accept)
  return first ++ more.flatten

/-- The digits of a decimal integer, which has no needless zero in front. -/
def decimalDigits : Scan Text := fun t =>
  match t with
  | '0' :: rest => some (['0'], rest)
  | _ => digitsWith isDigit t

def maxInteger : Nat := Nat.pow 2 63 - 1

/-- An integer in a base other than ten, written with a sign of its base in front. -/
def basedInteger (base : Nat) (mark : Char) (accept : Char → Bool) : Scan Int := do
  let _ ← exact ['0', mark]
  let n := valueOf base (← digitsWith accept)
  if n ≤ maxInteger then return n else refuse

def sign : Scan (Option Char) := optional (one (fun c => c == '+' || c == '-'))

def decimalInteger : Scan Int := do
  let s ← sign
  let n := valueOf 10 (← decimalDigits)
  if s = some '-' then (if n ≤ maxInteger + 1 then return -(n : Int) else refuse)
  else if n ≤ maxInteger then return n
  else refuse

def integer : Scan Int := fun t =>
  match t with
  | '0' :: 'x' :: _ => basedInteger 16 'x' isHexDigit t
  | '0' :: 'o' :: _ => basedInteger 8 'o' (fun c => '0' ≤ c && c ≤ '7') t
  | '0' :: 'b' :: _ => basedInteger 2 'b' (fun c => c == '0' || c == '1') t
  | _ => decimalInteger t

/-- Whether `digits · 10 ^ exponent` is rounded to infinity in double precision. -/
def overflows (digits : Text) (exponent : Int) : Bool :=
  let n := valueOf 10 digits
  let width := (digits.dropWhile (· == '0')).length
  if n = 0 then false
  else if exponent + width < 300 then false
  else if 320 < exponent + width then true
  else
    let limit := Nat.pow 2 1024 - Nat.pow 2 970
    let shift := Nat.pow 10 exponent.natAbs
    if exponent < 0 then limit * shift ≤ n else limit ≤ n * shift

/-- The exponent of a decimal number. -/
def exponentPart : Scan Int := do
  let _ ← one (fun c => c == 'e' || c == 'E')
  let s ← sign
  let n := valueOf 10 (← digitsWith isDigit)
  return if s = some '-' then -(n : Int) else n

/-- A number with a fraction or an exponent; it must not exceed every double. -/
def fractional : Scan Unit := do
  let s ← sign
  let whole ← decimalDigits
  let fraction ← optional (do
    let _ ← char '.'
    digitsWith isDigit)
  let e ← optional exponentPart
  if fraction.isNone && e.isNone then refuse
  else
    let fraction := fraction.getD []
    let tooLarge := overflows (whole ++ fraction) (e.getD 0 - fraction.length)
    if tooLarge && s != some '-' then refuse else return ()

/-- Infinity, or what is no number. -/
def specialNumber : Scan Unit := do
  let _ ← sign
  let _ ← orElse (exact "inf".toList) (exact "nan".toList)
  return ()

/-! ## Dates -/

def boundedNumber (n least greatest : Nat) : Scan Nat := do
  let v := valueOf 10 (← exactly n isDigit)
  if least ≤ v ∧ v ≤ greatest then return v else refuse

def daysIn (year month : Nat) : Nat :=
  if month = 2 then
    if (year % 4 = 0 ∧ year % 100 ≠ 0) ∨ year % 400 = 0 then 29 else 28
  else if month = 4 ∨ month = 6 ∨ month = 9 ∨ month = 11 then 30
  else 31

/-- A day of the calendar. -/
structure Date where
  year : Nat
  month : Nat
  day : Nat
  deriving DecidableEq, Repr

structure Time where
  hour : Nat
  minute : Nat
  second : Nat
  /-- The decimal places of the second. -/
  fraction : Text := []
  deriving DecidableEq, Repr

/-- How far a clock is from universal time. -/
inductive Offset where
  /-- It shows universal time. -/
  | universal
  | minutes (n : Int)
  deriving DecidableEq, Repr

/-- A date, a time of day, or both; only both together can have an offset. -/
structure DateTime where
  date : Option Date := none
  time : Option Time := none
  offset : Option Offset := none
  deriving DecidableEq, Repr

/-- A number with at least so many digits. -/
def digitsOf (width n : Nat) : Text :=
  let ds := Nat.toDigits 10 n
  List.replicate (width - ds.length) '0' ++ ds

/-- Year, month and day with hyphens between them. -/
def Date.render (d : Date) : Text :=
  digitsOf 4 d.year ++ '-' :: digitsOf 2 d.month ++ '-' :: digitsOf 2 d.day

/-- Decimal places as they are kept: nine at most, without zeros at their end. -/
def keptPlaces (fraction : Text) : Text :=
  ((fraction.take 9).reverse.dropWhile (· == '0')).reverse

/-- Hour, minute and second, with the decimal places that matter. -/
def Time.render (t : Time) : Text :=
  let places := keptPlaces t.fraction
  digitsOf 2 t.hour ++ ':' :: digitsOf 2 t.minute ++ ':' :: digitsOf 2 t.second
    ++ (if places.isEmpty then [] else '.' :: places)

/-- An offset in hours and minutes; universal time is a letter. -/
def Offset.render : Offset → Text
  | .universal => ['Z']
  | .minutes n =>
    (if n < 0 then '-' else '+') :: digitsOf 2 (n.natAbs / 60)
      ++ ':' :: digitsOf 2 (n.natAbs % 60)

def DateTime.render (d : DateTime) : Text :=
  let day := (d.date.map Date.render).getD []
  let clock := (d.time.map Time.render).getD []
  let mark := if d.date.isSome && d.time.isSome then ['T'] else []
  day ++ mark ++ clock ++ (d.offset.map Offset.render).getD []

def date : Scan Date := do
  let year ← boundedNumber 4 0 9999
  let _ ← char '-'
  let month ← boundedNumber 2 1 12
  let _ ← char '-'
  let day ← boundedNumber 2 1 (daysIn year month)
  return { year, month, day }

/-- A time of day; a minute may have a leap second. -/
def time : Scan Time := do
  let hour ← boundedNumber 2 0 23
  let _ ← char ':'
  let minute ← boundedNumber 2 0 59
  let _ ← char ':'
  let second ← boundedNumber 2 0 60
  let fraction ← optional (do
    let _ ← char '.'
    run1 isDigit)
  return { hour, minute, second, fraction := fraction.getD [] }

/-- The distance from universal time. -/
def timeOffset : Scan Offset :=
  orElse (do let _ ← one (fun c => c == 'Z' || c == 'z'); return .universal) (do
    let s ← one (fun c => c == '+' || c == '-')
    let hours ← boundedNumber 2 0 23
    let _ ← char ':'
    let minutes ← boundedNumber 2 0 59
    let n : Int := ((hours * 60 + minutes : Nat) : Int)
    return .minutes (if s == '-' then -n else n))

/-- A date, a time of day, or both. -/
def dateTime : Scan DateTime :=
  orElse (do
    let d ← date
    let clock ← optional (do
      let _ ← one (fun c => c == 'T' || c == 't' || c == ' ')
      let t ← time
      let offset ← optional timeOffset
      return (t, offset))
    return { date := some d, time := clock.map (·.1), offset := clock.bind (·.2) })
    (do return { time := some (← time) })

end Relay.Toml
