/-!
# The calendar

A `Moment` counts nanoseconds; a `Civil` time is what a calendar and a clock show at a moment in the
time zone UTC.  `Civil.seconds` also takes times whose parts are out of their ranges, a month 13 or
a day 0: the parts are then added up.  `Civil.isProper` tells whether they are in their ranges.
-/

namespace Relay

/-- Nanoseconds since the start of 1970. -/
abbrev Moment := Int

namespace Calendar

/-- Nanoseconds in a second. -/
def billion : Nat := 1000000000

def dayLength : Nat := 86400

/-- Whether a year has a 29th of February. -/
def isLeap (year : Int) : Bool := year % 4 = 0 && (year % 100 ≠ 0 || year % 400 = 0)

def monthLength (year month : Int) : Int :=
  if month = 2 then (if isLeap year then 29 else 28)
  else if [4, 6, 9, 11].contains month then 30 else 31

/-- The days from the start of 1970 to a day.  Years are counted from March on, so that the day that
may be missing is the last one. -/
def dayNumber (year month day : Int) : Int :=
  let year := year + (month - 1) / 12
  let month := (month - 1) % 12
  let year := if month < 2 then year - 1 else year
  let month := (month + 10) % 12
  let age := year % 400
  year / 400 * 146097 + age * 365 + age / 4 - age / 100 + (153 * month + 2) / 5 + day - 719469

/-- What a calendar and a clock show. -/
structure Civil where
  year : Int
  month : Int
  day : Int
  hour : Int := 0
  minute : Int := 0
  second : Int := 0
  deriving DecidableEq, Repr

namespace Civil

def seconds (c : Civil) : Int :=
  dayNumber c.year c.month c.day * dayLength + c.hour * 3600 + c.minute * 60 + c.second

/-- The date of a day, counted from the start of 1970. -/
def ofDay (n : Int) : Civil :=
  let n := n + 719468
  let age := n % 146097
  let year := (age - age / 1460 + age / 36524 - age / 146096) / 365
  let day := age - (365 * year + year / 4 - year / 100)
  let month := (5 * day + 2) / 153
  let isNext : Int := if month < 10 then 0 else 1
  { year := n / 146097 * 400 + year + isNext
    month := if month < 10 then month + 3 else month - 9
    day := day - (153 * month + 2) / 5 + 1 }

/-- What is shown so many seconds after the start of 1970. -/
def ofSeconds (n : Int) : Civil :=
  let second := n % dayLength
  { ofDay (n / dayLength) with
      hour := second / 3600, minute := second / 60 % 60, second := second % 60 }

def ofMoment (m : Moment) : Civil := ofSeconds (m / billion)

/-- Whether all parts are in their ranges. -/
def isProper (c : Civil) : Bool :=
  1 ≤ c.month && c.month ≤ 12 && 1 ≤ c.day && c.day ≤ monthLength c.year c.month
    && 0 ≤ c.hour && c.hour < 24 && 0 ≤ c.minute && c.minute < 60 && 0 ≤ c.second && c.second < 60

/-- The day of the week, counted from Sunday. -/
def weekday (c : Civil) : Int := (dayNumber c.year c.month c.day + 4) % 7

/-- The day of the year, counted from zero. -/
def yearDay (c : Civil) : Int := dayNumber c.year c.month c.day - dayNumber c.year 1 1

end Civil

def monthNames : List String :=
  ["January", "February", "March", "April", "May", "June", "July", "August", "September",
    "October", "November", "December"]

def weekdayNames : List String :=
  ["Sunday", "Monday", "Tuesday", "Wednesday", "Thursday", "Friday", "Saturday"]

/-- The moment at the start of all files: the first one of November 18th, 2026. -/
def beginning : Moment := (Civil.seconds { year := 2026, month := 11, day := 18 }) * billion

/-- The moment that a compact form `[[CC]YY]MMDDhhmm[.ss]` writes; without a year it is in the year
of the present.  A second 60 is the first second of the next minute. -/
def ofStamp? (present : Moment) (text : List Char) : Option Moment :=
  let digits := text.takeWhile (· != '.')
  let rest := text.drop digits.length
  let value (cs : List Char) : Int := cs.foldl (fun n c => n * 10 + (c.toNat - 48)) (0 : Nat)
  let fits := 8 ≤ digits.length && digits.length ≤ 12 && digits.length % 2 = 0
  if !fits || !digits.all Char.isDigit then none
  else
    let second? : Option Int :=
      match rest with
      | [] => some 0
      | ['.', a, b] => if a.isDigit && b.isDigit then some (value [a, b]) else none
      | _ => none
    let lead := digits.take (digits.length - 8)
    let parts := digits.drop lead.length
    let pair (k : Nat) : Int := value ((parts.drop (2 * k)).take 2)
    let year :=
      if lead.isEmpty then (Civil.ofMoment present).year
      else if 2 < lead.length then value lead
      else value lead + (if value lead ≤ 68 then 2000 else 1900)
    second?.bind fun second =>
      let c : Civil :=
        { year, month := pair 0, day := pair 1, hour := pair 2, minute := pair 3
          second := min second 59 }
      if c.isProper && second ≤ 60 then some ((c.seconds + (second - min second 59)) * billion)
      else none

end Calendar

end Relay
