import Relay.Calendar.Basic

/-!
# Dates in words

A phrase such as `2020-01-31 12:30 +2 days`, `next monday` or `@86400` stands for a moment, seen
from some present moment.  It is cut into tokens; items, each made of a few tokens, then say what is
known of the date, of the time and of the distance to them.  `Phrase.moment?` puts together what the
items say.
-/

namespace Relay.Calendar.Phrase

/-! ## Tokens -/

inductive TimeUnit where
  | year
  | month
  | day
  | hour
  | minute
  | second
  deriving DecidableEq

/-- A number as it is written. -/
structure Numeral where
  value : Int
  digits : Nat := 0
  negative : Bool := false

/-- The parts of a phrase. -/
inductive Token where
  | unsigned (n : Numeral)
  | signed (n : Numeral)
  /-- A number with a fraction, in nanoseconds. -/
  | fraction (isSigned : Bool) (n : Int)
  | meridian (afternoon : Bool)
  | month (n : Int)
  | weekday (n : Int)
  | unit (u : TimeUnit) (factor : Int)
  | ordinal (n : Int)
  | direction (factor : Int)
  | shift (days : Int)
  /-- The distance of a time zone to UTC, in seconds. -/
  | zone (seconds : Int)
  | summerZone (seconds : Int)
  | summer
  /-- The sign between a date and a time. -/
  | dateEnd
  | symbol (c : Char)
  deriving Inhabited

/-- Words that stand alone. -/
def words : List (String × Token) :=
  [("TOMORROW", .shift 1), ("YESTERDAY", .shift (-1)), ("TODAY", .shift 0), ("NOW", .shift 0),
    ("LAST", .ordinal (-1)), ("THIS", .ordinal 0), ("NEXT", .ordinal 1), ("FIRST", .ordinal 1),
    ("THIRD", .ordinal 3), ("FOURTH", .ordinal 4), ("FIFTH", .ordinal 5), ("SIXTH", .ordinal 6),
    ("SEVENTH", .ordinal 7), ("EIGHTH", .ordinal 8), ("NINTH", .ordinal 9), ("TENTH", .ordinal 10),
    ("ELEVENTH", .ordinal 11), ("TWELFTH", .ordinal 12), ("AGO", .direction (-1)),
    ("HENCE", .direction 1)]

/-- Words for the halves of a day. -/
def meridians : List (String × Token) :=
  [("AM", .meridian false), ("A.M.", .meridian false), ("PM", .meridian true),
    ("P.M.", .meridian true)]

/-- Names of months and days with the usual shorter forms. -/
def names : List (String × Token) :=
  let capitals (s : String) : String := String.ofList (s.toList.map Char.toUpper)
  (monthNames.zipIdx.map fun (s, k) => (capitals s, .month (k + 1)))
    ++ [("SEPT", .month 9)]
    ++ (weekdayNames.zipIdx.map fun (s, k) => (capitals s, .weekday k))
    ++ [("TUES", .weekday 2), ("WEDNES", .weekday 3), ("THUR", .weekday 4), ("THURS", .weekday 4)]

/-- Units of time in the singular. -/
def units : List (String × Token) :=
  [("YEAR", .unit .year 1), ("MONTH", .unit .month 1), ("FORTNIGHT", .unit .day 14),
    ("WEEK", .unit .day 7), ("DAY", .unit .day 1), ("HOUR", .unit .hour 1),
    ("MINUTE", .unit .minute 1), ("MIN", .unit .minute 1), ("SECOND", .unit .second 1),
    ("SEC", .unit .second 1)]

/-- Names of time zones, with the distance to UTC in half hours. -/
def zones : List (String × Token) :=
  let plain : List (String × Int) :=
    [("GMT", 0), ("UT", 0), ("UTC", 0), ("WET", 0), ("ART", -6), ("BRT", -6), ("NST", -7),
      ("AST", -8), ("CLT", -8), ("EST", -10), ("CST", -12), ("MST", -14), ("PST", -16),
      ("AKST", -18), ("HST", -20), ("HAST", -20), ("SST", -24), ("WAT", 2), ("CET", 2), ("MET", 2),
      ("MEZ", 2), ("EET", 4), ("CAT", 4), ("SAST", 4), ("EAT", 6), ("MSK", 6), ("IST", 11),
      ("SGT", 16), ("KST", 18), ("JST", 18), ("GST", 20), ("NZST", 24)]
  let summer : List (String × Int) :=
    [("WEST", 0), ("BST", 0), ("BRST", -6), ("NDT", -7), ("ADT", -8), ("CLST", -8), ("EDT", -10),
      ("CDT", -12), ("MDT", -14), ("PDT", -16), ("AKDT", -18), ("HADT", -20), ("CEST", 2),
      ("MEST", 2), ("MESZ", 2), ("EEST", 4), ("MSD", 6), ("NZDT", 24)]
  plain.map (fun (s, n) => (s, .zone (n * 1800)))
    ++ summer.map fun (s, n) => (s, .summerZone (n * 1800))

def letterZone? (c : Char) : Option Token :=
  let hours (n : Int) : Option Token := some (.zone (n * 3600))
  if c == 'T' then some .dateEnd
  else if c == 'Z' then hours 0
  else if 'A' ≤ c && c ≤ 'I' then hours (c.toNat - 64 : Nat)
  else if 'K' ≤ c && c ≤ 'M' then hours (c.toNat - 65 : Nat)
  else if 'N' ≤ c && c ≤ 'Y' then hours (-((c.toNat - 77 : Nat) : Int))
  else none

def wordToken? (word : List Char) : Option Token :=
  let find (table : List (String × Token)) (w : List Char) : Option Token :=
    table.lookup (String.ofList w)
  let isShort := word.length = 3 || (word.length = 4 && word.getLast? = some '.')
  let named (w : List Char) : Option Token :=
    if isShort then
      (names.find? fun (s, _) => s.toList.take 3 = w.take 3).map (·.2)
    else find names w
  let singular := if word.getLast? = some 'S' then find units word.dropLast else none
  let bare := word.filter (· != '.')
  find meridians word
    <|> named word
    <|> find zones word
    <|> (if word = "DST".toList then some .summer else none)
    <|> find units word
    <|> singular
    <|> find words word
    <|> (match word with
      | [c] => letterZone? c
      | _ => none)
    <|> (if bare.length < word.length then find zones bare else none)

def largestNumber : Int := 9223372036854775807

/-- The characters behind a remark in parentheses, of which some may be open. -/
def afterRemark : Nat → List Char → List Char
  | _, [] => []
  | n, c :: cs =>
    if c == '(' then afterRemark (n + 1) cs
    else if c == ')' then (if n ≤ 1 then cs else afterRemark (n - 1) cs)
    else afterRemark n cs

/-- Whether a character stands between tokens. -/
def isGap (c : Char) : Bool := c == ' ' || (9 ≤ c.toNat && c.toNat ≤ 13)

/-- The token of a number after its sign, and the rest. -/
def takeNumber (sign : Option Bool) (cs : List Char) : Token × List Char :=
  let value (ds : List Char) : Nat := ds.foldl (fun n c => n * 10 + (c.toNat - 48)) 0
  let ds := cs.takeWhile Char.isDigit
  let rest := cs.drop ds.length
  let negative := sign = some true
  let whole : Int := if negative then -(value ds : Int) else value ds
  let plain : Token :=
    let n : Numeral := ⟨whole, ds.length, negative⟩
    if largestNumber < (value ds : Int) then .symbol '?'
    else if sign.isSome then .signed n
    else .unsigned n
  match rest with
  | mark :: c :: _ =>
    if (mark == '.' || mark == ',') && c.isDigit then
      let fs := rest.tail.takeWhile Char.isDigit
      let kept := fs.take 9
      let part : Int := value (kept ++ List.replicate (9 - kept.length) '0')
      let excess : Int := if (fs.drop 9).any (· != '0') then 1 else 0
      let n := if negative then whole * billion - part - excess else whole * billion + part
      (.fraction sign.isSome n, rest.drop (fs.length + 1))
    else (plain, rest)
  | _ => (plain, rest)

/-- The tokens of a phrase, of which at most `n` characters are read. -/
def tokens : Nat → List Char → List Token
  | 0, _ => []
  | _, [] => []
  | n + 1, c :: cs =>
    if isGap c then tokens n cs
    else if c.isDigit then
      let (t, rest) := takeNumber none (c :: cs)
      t :: tokens n rest
    else if c == '-' || c == '+' then
      let after := cs.dropWhile isGap
      if after.head?.any Char.isDigit then
        let (t, rest) := takeNumber (some (c == '-')) after
        t :: tokens n rest
      else tokens n after
    else if c.isAlpha then
      let rest := (c :: cs).dropWhile fun c => c.isAlpha || c == '.'
      let word := (c :: cs).take (cs.length + 1 - rest.length)
      ((wordToken? ((word.take 19).map Char.toUpper)).getD (.symbol '?')) :: tokens n rest
    else if c == '(' then tokens n (afterRemark 1 cs)
    else .symbol c :: tokens n cs

/-! ## Items -/

structure Distance where
  years : Int := 0
  months : Int := 0
  days : Int := 0
  hours : Int := 0
  minutes : Int := 0
  /-- Seconds, in nanoseconds. -/
  nanoseconds : Int := 0

namespace Distance

def of (u : TimeUnit) (n : Int) : Distance :=
  match u with
  | .year => { years := n }
  | .month => { months := n }
  | .day => { days := n }
  | .hour => { hours := n }
  | .minute => { minutes := n }
  | .second => { nanoseconds := n * billion }

/-- One distance and then some times another one. -/
def add (a : Distance) (factor : Int) (b : Distance) : Distance :=
  { years := a.years + factor * b.years, months := a.months + factor * b.months
    days := a.days + factor * b.days, hours := a.hours + factor * b.hours
    minutes := a.minutes + factor * b.minutes
    nanoseconds := a.nanoseconds + factor * b.nanoseconds }

end Distance

/-- What a phrase says. -/
structure Statement where
  year : Numeral
  month : Int
  day : Int
  hour : Int
  minute : Int
  /-- The seconds, in nanoseconds. -/
  nanoseconds : Int
  /-- Which half of the day the hour is in, if it is counted up to twelve. -/
  meridian : Option Bool := none
  ordinal : Int := 0
  weekday : Int := 0
  /-- The distance of the time zone to UTC, in seconds. -/
  zone : Int := 0
  distance : Distance := {}
  /-- How often each kind of item was seen. -/
  dates : Nat := 0
  times : Nat := 0
  days : Nat := 0
  zones : Nat := 0
  distances : Nat := 0

namespace Statement

def date (s : Statement) (year : Option Numeral) (month day : Int) : Statement :=
  { s with year := year.getD s.year, month, day, dates := s.dates + 1 }

def time (s : Statement) (hour minute nanoseconds : Int) (meridian : Option Bool) : Statement :=
  { s with hour, minute, nanoseconds, meridian, times := s.times + 1 }

def onDay (s : Statement) (ordinal weekday : Int) : Statement :=
  { s with ordinal, weekday, days := s.days + 1 }

def shift (s : Statement) (factor : Int) (d : Distance) : Statement :=
  { s with distance := s.distance.add factor d, distances := s.distances + 1 }

/-- Sets the time zone. -/
def inZone (s : Statement) (zone : Int) : Statement := { s with zone, zones := s.zones + 1 }

/-- Takes a number as a year, a date or a time, whichever is missing. -/
def number (s : Statement) (n : Numeral) : Statement :=
  let lacksYear := s.dates ≠ 0 && s.year.digits = 0 && s.distances = 0
  if lacksYear && (s.times ≠ 0 || 2 < n.digits) then { s with year := n }
  else if 4 < n.digits then
    s.date (some ⟨n.value / 10000, n.digits - 4, false⟩) (n.value / 100 % 100) (n.value % 100)
  else if n.digits ≤ 2 then s.time n.value 0 0 none
  else s.time (n.value / 100) (n.value % 100) 0 none

end Statement

/-- The distance to UTC that a number of hours, or of hours and minutes, stands for. -/
def zoneOffset? (hours : Numeral) (minutes : Option Numeral) : Option Int :=
  let total :=
    match minutes with
    | some m => hours.value * 60 + (if hours.negative then -m.value else m.value)
    | none =>
      if hours.digits ≤ 2 then hours.value * 60
      else hours.value.tdiv 100 * 60 + hours.value.tmod 100
  if -1440 ≤ total && total ≤ 1440 then some (total * 60) else none

/-- Reads minutes after a colon, which may be missing. -/
def takeMinutes : List Token → Option (Option Numeral × List Token)
  | .symbol ':' :: .unsigned m :: rest => some (some m, rest)
  | .symbol ':' :: _ => none
  | rest => some (none, rest)

/-- Reads a zone behind a time of day, which may be missing. -/
def takeOffset (s : Statement) : List Token → Option (Statement × List Token)
  | .signed h :: rest => do
    let (m, rest) ← takeMinutes rest
    return (s.inZone (← zoneOffset? h m), rest)
  | rest => some (s, rest)

/-- Reads what follows the hour and a colon of a time of day; the half of the day may follow if that
is allowed. -/
def takeClock (s : Statement) (hour : Int) (halves : Bool) :
    List Token → Option (Statement × List Token)
  | .unsigned m :: rest =>
    let finish (n : Int) (rest : List Token) : Option (Statement × List Token) :=
      match halves, rest with
      | true, .meridian half :: rest => some (s.time hour m.value n (some half), rest)
      | _, rest => takeOffset (s.time hour m.value n none) rest
    match rest with
    | .symbol ':' :: .unsigned n :: rest => finish (n.value * billion) rest
    | .symbol ':' :: .fraction false n :: rest => finish n rest
    | .symbol ':' :: _ => none
    | rest => finish 0 rest
  | _ => none

def takeDirection (s : Statement) (d : Distance) (rest : List Token) : Statement × List Token :=
  match rest with
  | .direction factor :: rest => (s.shift factor d, rest)
  | rest => (s.shift 1 d, rest)

/-- Reads an item that starts with a number without a sign. -/
def numberItem (s : Statement) (a : Numeral) (rest : List Token) :
    Option (Statement × List Token) :=
  match rest with
  | .meridian half :: rest => some (s.time a.value 0 0 (some half), rest)
  | .symbol ':' :: rest => takeClock s a.value true rest
  | .symbol '/' :: .unsigned b :: .symbol '/' :: .unsigned c :: rest =>
    if 4 ≤ a.digits then some (s.date (some a) b.value c.value, rest)
    else some (s.date (some c) a.value b.value, rest)
  | .symbol '/' :: .unsigned _ :: .symbol '/' :: _ => none
  | .symbol '/' :: .unsigned b :: rest => some (s.date none a.value b.value, rest)
  | .symbol '/' :: _ => none
  | .month m :: .signed y :: rest => some (s.date (some { y with value := -y.value }) m a.value, rest)
  | .month m :: .unsigned y :: rest => some (s.date (some y) m a.value, rest)
  | .month m :: rest => some (s.date none m a.value, rest)
  | .weekday d :: rest => some (s.onDay a.value d, rest)
  | .unit u factor :: rest => some (takeDirection s (.of u (a.value * factor)) rest)
  | .signed m :: .signed d :: rest =>
    let s := s.date (some a) (-m.value) (-d.value)
    match rest with
    | .dateEnd :: .unsigned h :: .symbol ':' :: rest => takeClock s h.value false rest
    | .dateEnd :: .unsigned h :: .signed z :: rest =>
      takeOffset (s.time h.value 0 0 none) (.signed z :: rest)
    | .dateEnd :: _ => none
    | rest => some (s, rest)
  | .signed n :: .unit u factor :: rest =>
    some ((s.number a).shift 1 (.of u (n.value * factor)), rest)
  | .signed z :: rest => takeOffset (s.time a.value 0 0 none) (.signed z :: rest)
  | rest => some (s.number a, rest)

def item (s : Statement) : List Token → Option (Statement × List Token)
  | .unsigned a :: rest => numberItem s a rest
  | .signed n :: .unit u factor :: rest =>
    some (takeDirection s (.of u (n.value * factor)) rest)
  | .fraction _ n :: .unit .second factor :: rest =>
    some (takeDirection s { nanoseconds := n * factor } rest)
  | .month m :: .signed d :: .signed y :: rest =>
    some (s.date (some { y with value := -y.value }) m (-d.value), rest)
  | .month m :: .unsigned d :: .symbol ',' :: .unsigned y :: rest =>
    some (s.date (some y) m d.value, rest)
  | .month m :: .unsigned d :: rest => some (s.date none m d.value, rest)
  | .weekday d :: .symbol ',' :: rest => some (s.onDay 0 d, rest)
  | .weekday d :: rest => some (s.onDay 0 d, rest)
  | .ordinal n :: .weekday d :: rest => some (s.onDay n d, rest)
  | .ordinal n :: .unit u factor :: rest => some (takeDirection s (.of u (n * factor)) rest)
  | .unit u factor :: rest => some (takeDirection s (.of u factor) rest)
  | .shift days :: rest => some (s.shift 1 { days }, rest)
  | .zone z :: rest => zoneItem z rest
  | .summerZone z :: rest => some (s.inZone (z + 3600), rest)
  | .dateEnd :: .signed n :: .unit u factor :: rest =>
    some ((s.inZone (-25200)).shift 1 (.of u (n.value * factor)), rest)
  | .dateEnd :: .signed _ :: _ => none
  | .dateEnd :: rest => some (s.inZone (-25200), rest)
  | _ => none
where
  /-- Reads what follows the name of a zone. -/
  zoneItem (z : Int) : List Token → Option (Statement × List Token)
    | .signed n :: .unit u factor :: rest =>
      some ((s.inZone z).shift 1 (.of u (n.value * factor)), rest)
    | .signed h :: rest => do
      let (m, rest) ← takeMinutes rest
      return (s.inZone (z + (← zoneOffset? h m)), rest)
    | .summer :: rest => some (s.inZone (z + 3600), rest)
    | rest => some (s.inZone z, rest)

/-- Reads items, at most `n` of them, up to the end. -/
def items : Nat → Statement → List Token → Option Statement
  | _, s, [] => some s
  | 0, _, _ => none
  | n + 1, s, ts => do
    let (s, rest) ← item s ts
    items n s rest

/-! ## Moments -/

/-- The hour of the day; an hour that is counted up to twelve lies in one of the halves. -/
def Statement.hourOfDay? (s : Statement) : Option Int :=
  match s.meridian with
  | none => if 0 ≤ s.hour && s.hour < 24 then some s.hour else none
  | some half =>
    if s.hour < 1 || 12 < s.hour then none
    else some (s.hour % 12 + (if half then 12 else 0))

/-- The year; one of two digits is within a hundred years from 1969 on. -/
def Statement.fullYear (s : Statement) : Int :=
  let y := s.year.value
  if 0 ≤ y && s.year.digits = 2 then y + (if y < 69 then 2000 else 1900) else y

/-- The moment that a statement comes to, if it is consistent. -/
def Statement.moment? (s : Statement) : Option Moment := do
  if [s.dates, s.times, s.days, s.zones].any (1 < ·) then none
  let keepsTime := s.times ≠ 0 || (s.distances ≠ 0 && s.dates = 0 && s.days = 0)
  let hour ← if keepsTime then s.hourOfDay? else some 0
  let nanoseconds := if keepsTime then s.nanoseconds else 0
  let c : Civil :=
    { year := s.fullYear, month := s.month, day := s.day, hour
      minute := if keepsTime then s.minute else 0, second := nanoseconds / billion }
  if !c.isProper then none
  let c :=
    if s.days ≠ 0 && s.dates = 0 then
      let weeks := s.ordinal - (if 0 < s.ordinal && c.weekday ≠ s.weekday then 1 else 0)
      { c with day := c.day + (s.weekday - c.weekday + 7) % 7 + 7 * weeks }
    else c
  let d := s.distance
  let c := { c with year := c.year + d.years, month := c.month + d.months, day := c.day + d.days }
  let seconds := c.seconds - s.zone + 3600 * d.hours + 60 * d.minutes
  return seconds * billion + nanoseconds % billion + d.nanoseconds

/-- A phrase without the time zone that may be named in front of it. -/
def withoutZone (text : List Char) : List Char :=
  let rest := text.dropWhile isGap
  let mark := ['T', 'Z', '=', '"']
  if mark.isPrefixOf rest then
    let named := (rest.drop mark.length).takeWhile (· != '"')
    if mark.length + named.length < rest.length then
      (rest.drop (mark.length + named.length + 1)).dropWhile isGap
    else rest
  else rest

/-- The moment that a phrase stands for. -/
def moment? (present : Moment) (text : List Char) : Option Moment :=
  let text := match withoutZone text with
    | [] => ['0']
    | cs => cs
  match tokens text.length text with
  | [.symbol '@', .unsigned n] => some (n.value * billion)
  | [.symbol '@', .signed n] => some (n.value * billion)
  | [.symbol '@', .fraction _ n] => some n
  | ts =>
    let c := Civil.ofMoment present
    (items ts.length
      { year := ⟨c.year, 0, false⟩, month := c.month, day := c.day, hour := c.hour
        minute := c.minute, nanoseconds := c.second * billion + present % billion } ts).bind
      Statement.moment?

end Relay.Calendar.Phrase
