import Relay.Calendar.Basic
import Relay.Text.Basic

/-!
# Times in formats

A format is a text in which directives after a percent sign stand for parts of a time.  Between the
sign and the letter a directive can hold flags, which say how the part is filled up and whether its
letters are changed, and a width.
-/

namespace Relay.Calendar

inductive Filling where
  | nothing
  | blanks
  | zeros
  deriving DecidableEq

/-- Flags and the width of a directive. -/
structure Layout where
  filling : Option Filling := none
  capitals : Bool := false
  otherCase : Bool := false
  width : Option Nat := none

/-- A time together with the nanoseconds behind its second. -/
structure Reading where
  civil : Civil
  nanoseconds : Nat

def Reading.ofMoment (m : Moment) : Reading := ⟨Civil.ofMoment m, (m % billion).toNat⟩

def Layout.number (l : Layout) (digits : Nat) (usual : Filling) (n : Int) : List Char :=
  let width := max digits (l.width.getD 0)
  let ds := Nat.toDigits 10 n.natAbs
  let sign := if n < 0 then ['-'] else []
  let missing := width - ds.length - sign.length
  match l.filling.getD usual with
  | .nothing => sign ++ ds
  | .blanks => List.replicate missing ' ' ++ sign ++ ds
  | .zeros => sign ++ List.replicate missing '0' ++ ds

/-- A text that is filled up to the width. -/
def Layout.text (l : Layout) (lowers : Bool) (s : String) : List Char :=
  let cs := s.toList
  let cs :=
    if l.otherCase && lowers then cs.map Char.toLower
    else if l.capitals || l.otherCase then cs.map Char.toUpper
    else cs
  let missing := l.width.getD 0 - cs.length
  match l.filling with
  | some .zeros => List.replicate missing '0' ++ cs
  | some .nothing => cs
  | _ => List.replicate missing ' ' ++ cs

/-- The year that a week belongs to, and the number of the week in it.  Weeks start on Mondays, and
the first one of a year is the one that holds the 4th of January. -/
def weekOf (c : Civil) : Int × Int :=
  let monday (year : Int) : Int :=
    let n := dayNumber year 1 4
    n - (n + 3) % 7
  let today := dayNumber c.year c.month c.day
  let year :=
    if today < monday c.year then c.year - 1
    else if monday (c.year + 1) ≤ today then c.year + 1
    else c.year
  (year, (today - monday year) / 7 + 1)

/-- The number of the week in its year, if weeks start on some day of the week and the days before
the first start make up the week zero. -/
def weekFrom (start : Int) (c : Civil) : Int := (c.yearDay + 7 - (c.weekday - start) % 7) / 7

/-- The nanoseconds behind the second: so many digits as the width says. -/
def Layout.fraction (l : Layout) (n : Nat) : List Char :=
  let width := if l.width.getD 0 = 0 then 9 else l.width.getD 0
  let ds := Nat.toDigits 10 n
  let ds := (List.replicate (9 - ds.length) '0' ++ ds).take width
  let kept := (ds.drop 1).reverse.dropWhile (· == '0') |>.reverse
  let ds := ds.take 1 ++ kept
  let missing := width - ds.length
  match l.filling.getD .zeros with
  | .nothing => ds
  | .blanks => ds ++ List.replicate missing ' '
  | .zeros => ds ++ List.replicate missing '0'

/-- Directives that stand for formats. -/
def longDirective? (c : Char) : Option String :=
  match c with
  | 'c' => some "%a %b %e %H:%M:%S %Y"
  | 'D' => some "%m/%d/%y"
  | 'F' => some "%Y-%m-%d"
  | 'r' => some "%I:%M:%S %p"
  | 'R' => some "%H:%M"
  | 'T' => some "%H:%M:%S"
  | 'x' => some "%m/%d/%y"
  | 'X' => some "%H:%M:%S"
  | _ => none

/-- What a directive stands for, if it is known and stands for no format. -/
def directive? (r : Reading) (l : Layout) (c : Char) : Option (List Char) :=
  let t := r.civil
  let two := fun n => some (l.number 2 .zeros n)
  let blank := fun n => some (l.number 2 .blanks n)
  let hour12 := if t.hour % 12 = 0 then 12 else t.hour % 12
  let half := if t.hour < 12 then "AM" else "PM"
  let month := monthNames.getD (t.month - 1).toNat ""
  let weekday := weekdayNames.getD t.weekday.toNat ""
  let short (s : String) : String := String.ofList (s.toList.take 3)
  match c with
  | '%' => some (l.text false "%")
  | 'n' => some (l.text false "\n")
  | 't' => some (l.text false "\t")
  | 'a' => some (l.text false (short weekday))
  | 'A' => some (l.text false weekday)
  | 'b' => some (l.text false (short month))
  | 'h' => some (l.text false (short month))
  | 'B' => some (l.text false month)
  | 'C' => two (t.year / 100)
  | 'd' => two t.day
  | 'e' => blank t.day
  | 'g' => two ((weekOf t).1 % 100)
  | 'G' => some (l.number 4 .zeros (weekOf t).1)
  | 'H' => two t.hour
  | 'I' => two hour12
  | 'j' => some (l.number 3 .zeros (t.yearDay + 1))
  | 'k' => blank t.hour
  | 'l' => blank hour12
  | 'm' => two t.month
  | 'M' => two t.minute
  | 'N' => some (l.fraction r.nanoseconds)
  | 'p' => some (l.text true half)
  | 'P' => some (l.text false (String.ofList (half.toList.map Char.toLower)))
  | 'q' => some (l.number 1 .zeros ((t.month + 2) / 3))
  | 's' => some (l.number 1 .zeros t.seconds)
  | 'S' => two t.second
  | 'u' => some (l.number 1 .zeros (if t.weekday = 0 then 7 else t.weekday))
  | 'U' => two (weekFrom 0 t)
  | 'V' => two (weekOf t).2
  | 'w' => some (l.number 1 .zeros t.weekday)
  | 'W' => two (weekFrom 1 t)
  | 'y' => two (t.year % 100)
  | 'Y' => some (l.number 4 .zeros t.year)
  | 'z' => some ('+' :: l.number 4 .zeros 0)
  | 'Z' => some (l.text true "UTC")
  | _ => none

def readFlags : Layout → List Char → Layout × List Char
  | l, c :: cs =>
    match c with
    | '_' => readFlags { l with filling := some .blanks } cs
    | '-' => readFlags { l with filling := some .nothing } cs
    | '0' => readFlags { l with filling := some .zeros } cs
    | '+' => readFlags { l with filling := some .zeros } cs
    | '^' => readFlags { l with capitals := true } cs
    | '#' => readFlags { l with otherCase := true } cs
    | _ => (l, c :: cs)
  | l, [] => (l, [])

/-- A time in a format of which at most `n` characters are read.  Directives that are not known
stand for themselves; formats stand within formats to a certain depth. -/
def formatted (r : Reading) (n : Nat) (format : List Char) : List Char :=
  match n, format with
  | 0, _ => []
  | _, [] => []
  | n + 1, '%' :: cs =>
    let (l, rest) := readFlags {} cs
    let ds := rest.takeWhile Char.isDigit
    let rest := rest.drop ds.length
    let width := if ds.isEmpty then none else some (ds.foldl (fun w c => w * 10 + (c.toNat - 48)) 0)
    let l := { l with width }
    match rest with
    | ':' :: 'z' :: rest => "+00:00".toList ++ formatted r n rest
    | ':' :: ':' :: 'z' :: rest => "+00:00:00".toList ++ formatted r n rest
    | ':' :: ':' :: ':' :: 'z' :: rest => "+00".toList ++ formatted r n rest
    | c :: rest =>
      let (c, rest) :=
        match c, rest with
        | 'E', c' :: rest' => (c', rest')
        | 'O', c' :: rest' => (c', rest')
        | c, rest => (c, rest)
      match longDirective? c, directive? r l c with
      | some format, _ =>
        l.text false (String.ofList (formatted r n format.toList)) ++ formatted r n rest
      | none, some text => text ++ formatted r n rest
      | none, none =>
        '%' :: cs.take (cs.length - rest.length) ++ formatted r n rest
    | [] => '%' :: cs
  | n + 1, c :: cs => c :: formatted r n cs

def format (m : Moment) (text : List Char) : List Char :=
  formatted (.ofMoment m) (text.length + 32) text

end Relay.Calendar
