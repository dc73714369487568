import Relay.Userland.Manual.Names
import Relay.Userland.Printing

/-!
# Printing by a format

`printf` and the conversions of a format.  A format is gone through again until all arguments are
used; an argument that is no number counts as the number that it starts with, or as zero, and is
complained about.
-/

namespace Relay.Userland

/-! ## Conversions -/

structure Conversion where
  left : Bool := false
  zero : Bool := false
  plus : Bool := false
  blank : Bool := false
  alternate : Bool := false
  width : Nat := 0
  precision : Option Nat := none
  letter : Char

/-- Fills a field up to its width. -/
def Conversion.pad (c : Conversion) (b : Bytes) : Bytes :=
  if c.left then padRight c.width b else padLeft c.width b

/-- Fills a number's field up to its width; zeros go behind the sign. -/
def Conversion.padNumber (c : Conversion) (zeros : Bool) (sign digits : Bytes) : Bytes :=
  if zeros && !c.left then
    sign ++ List.replicate (c.width - sign.length - digits.length) 48 ++ digits
  else c.pad (sign ++ digits)

def Conversion.sign (c : Conversion) (negative : Bool) : Bytes :=
  if negative then ascii "-" else if c.plus then ascii "+" else if c.blank then ascii " " else []

/-- The digits of a fraction, in the way that the letter of a conversion asks for. -/
def Conversion.spell (c : Conversion) (b : BinaryFormat) (f : Fraction) : List Char :=
  let places := c.precision.getD 6
  match c.letter.toLower with
  | 'f' => f.fixed c.alternate places
  | 'e' => f.scientific c.alternate places
  | 'g' => f.general c.alternate places
  | _ => f.hexadecimal b c.alternate c.precision

def Conversion.printNumber (c : Conversion) (b : BinaryFormat) (negative : Bool) (m : Magnitude) :
    Bytes :=
  let cased (cs : List Char) : Bytes :=
    octets (if c.letter.isUpper then cs.map Char.toUpper else cs)
  let sign := c.sign negative
  match m with
  | .infinite => c.padNumber false sign (cased "inf".toList)
  | .undefined => c.padNumber false sign (cased "nan".toList)
  | .finite f =>
    let digits := cased (c.spell b f)
    if c.letter.toLower == 'a' then c.padNumber c.zero (sign ++ digits.take 2) (digits.drop 2)
    else c.padNumber c.zero sign digits

/-! ## Rules -/

/-- What a printer by format knows and how it complains. -/
structure FormatRules where
  escapes : EscapeRules
  /-- The escapes of an argument that is to be printed with its escapes. -/
  argumentEscapes : EscapeRules
  /-- How numbers with a point are kept. -/
  binary : BinaryFormat
  noNumber : Bytes → Bytes
  /-- The complaint about an argument of which only a part is a number. -/
  partNumber : Bytes → Bytes
  tooLarge : Bytes → Bytes
  /-- The complaint about a conversion that is not known, given as it is written. -/
  unknown : Bytes → Bytes
  /-- The complaint about a conversion that breaks off, given as it is written. -/
  unended : Bytes → Bytes
  unknownCode : Nat
  /-- Only conversions that make sense are known, letters for the size of a number are passed over,
  arguments can be quoted, and what is left of arguments is complained about. -/
  careful : Bool

def printfRules : FormatRules :=
  let escapes : EscapeRules :=
    { hex := true, escape := true, quote := true, cutOff := true, numbered := true }
  { escapes, argumentEscapes := { escapes with zeroLed := true }
    binary := extendedFormat
    noNumber := fun a => quoted a ++ ascii ": expected a numeric value"
    partNumber := fun a => quoted a ++ ascii ": value not completely converted"
    tooLarge := fun a => quoted a ++ ascii ": Numerical result out of range"
    unknown := fun written => written ++ ascii ": invalid conversion specification"
    unended := fun written => written ++ ascii ": invalid conversion specification"
    unknownCode := 1
    careful := true }

def shellPrintfRules : FormatRules :=
  { escapes := { escape := true }
    argumentEscapes := { zeroLed := true, escape := true, cutOff := true }
    binary := doubleFormat
    noNumber := fun a => a ++ ascii ": expected numeric value"
    partNumber := fun a => a ++ ascii ": not completely converted"
    tooLarge := fun a => a ++ ascii ": Numerical result out of range"
    unknown := fun written => written ++ ascii ": invalid directive"
    unended := fun _ => ascii "missing format character"
    unknownCode := 2
    careful := false }

/-! ## Numbers in arguments -/

/-- How well an argument can be read as a number. -/
inductive Legibility where
  | whole
  | part
  | none
  | tooLarge
  /-- The number of a character, with other characters behind it. -/
  | character (ignored : Bytes)
  deriving DecidableEq

/-- The complaints about an argument, by how well it can be read as a number; the flag tells whether
it is a failure. -/
def FormatRules.complaint? (rules : FormatRules) (a : Bytes) : Legibility → Option (Bytes × Bool)
  | .whole => Option.none
  | .part => some (rules.partNumber a, true)
  | .none => some (rules.noNumber a, true)
  | .tooLarge => some (rules.tooLarge a, true)
  | .character ignored =>
    if rules.careful && !ignored.isEmpty then
      some (ascii "warning: " ++ ignored
        ++ ascii ": character(s) following character constant have been ignored", false)
    else Option.none

/-- The number of a character that an argument gives behind a quotation mark. -/
def characterOf? (rules : FormatRules) (a : Bytes) : Option (Nat × Legibility) :=
  match a with
  | q :: rest =>
    if q == 39 || q == 34 then
      match rest with
      | c :: ignored => some (c.toNat, .character ignored)
      | [] => if rules.careful then none else some (0, .whole)
    else none
  | [] => some (0, .whole)

/-- An argument read as a whole number: whether it is negative, its size, and how well it can be
read.  A leading zero makes it octal or hexadecimal. -/
def integerOf (rules : FormatRules) (a : Bytes) : Bool × Nat × Legibility :=
  match characterOf? rules a with
  | some (n, reading) => (false, n, reading)
  | none =>
    let (negative, cs) := takeSign ((chars a).dropWhile isNumberSpace)
    let (base, cs) := match cs with
      | '0' :: x :: d :: rest =>
        if x.toLower == 'x' && isHex d then (16, d :: rest) else (8, '0' :: x :: d :: rest)
      | '0' :: _ => (8, cs)
      | _ => (10, cs)
    let digits := cs.takeWhile fun c => (hexValue? c).any (· < base)
    (negative, numberIn base digits,
      if digits.isEmpty then .none else if digits.length < cs.length then .part else .whole)

/-- A whole number within the bounds of a machine word. -/
def boundedInteger (rules : FormatRules) (signed : Bool) (a : Bytes) : Int × Legibility :=
  let (negative, size, reading) := integerOf rules a
  let limit := if signed then (if negative then Nat.pow 2 63 else Nat.pow 2 63 - 1)
    else Nat.pow 2 64 - 1
  let n : Int := ((min size limit : Nat) : Int)
  (if negative then -n else n, if limit < size then .tooLarge else reading)

/-- An argument read as a number with a point. -/
def numberOf (rules : FormatRules) (a : Bytes) : Bool × Magnitude × Legibility :=
  match characterOf? rules a with
  | some (n, reading) => (false, .finite ⟨n, 1⟩, reading)
  | none =>
    match readNumber? a with
    | none => (false, .finite ⟨0, 1⟩, .none)
    | some number =>
      let (m, missed) := rules.binary.keep number.magnitude
      (number.negative, m,
        if missed && (rules.careful || number.rest.isEmpty) then .tooLarge
        else if number.rest.isEmpty then .whole else .part)

/-! ## Reading conversions -/

/-- Why a format cannot be gone through. -/
inductive FormatMistake where
  /-- A conversion that is not known, as it is written. -/
  | unknown (written : Bytes)
  /-- A conversion that breaks off, as it is written. -/
  | unended (written : Bytes)
  /-- A width out of bounds, with a complaint about its text. -/
  | width (text : Bytes) (complaint : Option (Bytes × Bool))
  | precision (text : Bytes) (complaint : Option (Bytes × Bool))
  | escape (message : Bytes)

/-- A width or a precision: a number, or a star for the next argument; answers the number, unless it
is missing or a careful printer finds it too large or below the least one, the arguments and the
characters that are left, and a complaint. -/
def readSize (rules : FormatRules) (least : Int) (args : List Bytes) (cs : List Char) :
    Except (Bytes × Option (Bytes × Bool))
      (Int × List Bytes × List Char × Option (Bytes × Bool)) :=
  match cs with
  | '*' :: rest =>
    match args with
    | [] => .ok (0, [], rest, none)
    | a :: args =>
      let (n, reading) := boundedInteger rules true a
      let complaint := rules.complaint? a reading
      let most : Int := 2147483647
      if rules.careful then
        if least ≤ n && n ≤ most then .ok (n, args, rest, complaint) else .error (a, complaint)
      else .ok (Int.bmod n (Nat.pow 2 32), args, rest, complaint)
  | _ =>
    let (ds, rest) := takeUpTo cs.length Char.isDigit cs
    .ok ((numberIn 10 ds : Nat), args, rest, none)

/-- A conversion that was read, with the arguments and the characters that are left. -/
structure ReadConversion where
  conversion : Conversion
  args : List Bytes
  rest : List Char
  complaints : List (Bytes × Bool)

def conversionLetters : List Char := "sbcqdiuoxXeEfFgGaA".toList

/-- Whether a careful printer knows a letter with some flags. -/
def isSensible (flags : List Char) (hasPrecision : Bool) (letter : Char) : Bool :=
  !((flags.contains '\'' && "acAEeosxX".toList.contains letter)
    || (flags.contains '#' && "cdisu".toList.contains letter)
    || (flags.contains '0' && "cs".toList.contains letter)
    || (hasPrecision && letter == 'c') || letter == 'b' || letter == 'q')

/-- Reads a conversion, after its percent sign. -/
def readConversion (rules : FormatRules) (args : List Bytes) (cs : List Char) :
    Except FormatMistake ReadConversion := do
  let flagLetters := if rules.careful then "-0+ #'I" else "-0+ #"
  let (flags, rest) := takeUpTo cs.length (fun c => flagLetters.toList.contains c) cs
  let (width, args, rest, first) ← (readSize rules (-2147483648) args rest).mapError
    (Function.uncurry .width)
  let (precision, args, rest, second) ← match rest with
    | '.' :: rest => do
      let (n, args, rest, complaint) ← (readSize rules (-9223372036854775808) args rest).mapError
        (Function.uncurry .precision)
      pure (if n < 0 then none else some n.toNat, args, rest, complaint)
    | _ => pure (none, args, rest, none)
  let hasPrecision := (cs.take (cs.length - rest.length)).contains '.'
  let bare := rest.length = cs.length
  let rest :=
    if rules.careful then rest.dropWhile fun c => "hlLjzt".toList.contains c else rest
  let written (rest : List Char) : Bytes := 37 :: octets (cs.take (cs.length - rest.length))
  match rest with
  | [] => throw (.unended (written []))
  | c :: after =>
    let known := conversionLetters.contains c && (c != 'q' || rules.careful)
    let sensible := !rules.careful || isSensible flags hasPrecision c
      || (bare && (c == 'b' || c == 'q'))
    if !known || !sensible then throw (.unknown (written after))
    return {
      conversion :=
        { left := flags.contains '-' || width < 0, zero := flags.contains '0',
          plus := flags.contains '+', blank := flags.contains ' ',
          alternate := flags.contains '#', width := width.natAbs, precision, letter := c }
      args, rest := after, complaints := first.toList ++ second.toList }

/-! ## Printing arguments -/

/-- What one conversion prints. -/
structure Part where
  out : Bytes
  complaint : Option (Bytes × Bool) := none
  ending : TextEnd := .whole

/-- Prints a whole number. -/
def Conversion.printInteger (c : Conversion) (rules : FormatRules) (a : Bytes) : Part :=
  let signed := c.letter == 'd' || c.letter == 'i'
  let (n, reading) := boundedInteger rules signed a
  let size := if !signed && n < 0 then (Nat.pow 2 64 - n.natAbs) % Nat.pow 2 64 else n.natAbs
  let base := if c.letter == 'o' then 8 else if c.letter.toLower == 'x' then 16 else 10
  let digits := if size = 0 && c.precision = some 0 then [] else Nat.toDigits base size
  let digits := List.replicate (c.precision.getD 0 - digits.length) '0' ++ digits
  let digits := if c.alternate && c.letter == 'o' && digits.head? != some '0'
    then '0' :: digits else digits
  let mark := if c.alternate && c.letter.toLower == 'x' && size ≠ 0 then ['0', 'x'] else []
  let upper (cs : List Char) : List Char := if c.letter == 'X' then cs.map Char.toUpper else cs
  let sign := if signed then c.sign (n < 0) else octets (upper mark)
  { out := c.padNumber (c.zero && c.precision.isNone) sign (octets (upper digits))
    complaint := rules.complaint? a reading }

def Conversion.print (c : Conversion) (rules : FormatRules) (a : Bytes) : Part :=
  let cut (b : Bytes) : Bytes := match c.precision with
    | some n => b.take n
    | none => b
  match c.letter with
  | 's' => { out := c.pad (cut a) }
  | 'b' =>
    let (b, ending) := unescape rules.argumentEscapes a.length (chars a)
    { out := c.pad (cut b), ending }
  | 'c' => { out := c.pad (if a.isEmpty then [0] else a.take 1) }
  | 'q' => { out := shellWord a }
  | _ =>
    if "diuoxX".toList.contains c.letter then c.printInteger rules a
    else
      let (negative, m, reading) := numberOf rules a
      { out := c.printNumber rules.binary negative m, complaint := rules.complaint? a reading }

/-! ## Going through a format -/

/-- What a format printed so far. -/
structure Printed where
  out : Bytes := []
  complaints : List Bytes := []
  code : Nat := 0
  args : List Bytes
  used : Bool := false
  stopped : Bool := false

/-- Adds complaints; those that are failures set the code. -/
def Printed.object (p : Printed) (cs : List (Bytes × Bool)) : Printed :=
  { p with complaints := p.complaints ++ cs.map (·.1)
           code := if cs.any (·.2) then 1 else p.code }

def Printed.giveUp (p : Printed) (message : Bytes) (code : Nat) : Printed :=
  { p with complaints := p.complaints ++ [message], code, stopped := true }

def Printed.refuse (p : Printed) (rules : FormatRules) : FormatMistake → Printed
  | .unknown written => p.giveUp (rules.unknown written) rules.unknownCode
  | .unended written => p.giveUp (rules.unended written) rules.unknownCode
  | .width text complaint =>
    (p.object complaint.toList).giveUp (ascii "invalid field width: " ++ quoted text) 1
  | .precision text complaint =>
    (p.object complaint.toList).giveUp (ascii "invalid precision: " ++ quoted text) 1
  | .escape message => p.giveUp message 1

/-- Goes on after a text that came to its end in some way. -/
def Printed.after (p : Printed) (rules : FormatRules) : TextEnd → Printed
  | .whole => p
  | .cutOff => { p with stopped := true }
  | .mistaken message => p.refuse rules (.escape message)

def printOnce (rules : FormatRules) : Nat → List Char → Printed → Printed
  | 0, _, p => p
  | _, [], p => p
  | n + 1, '\\' :: cs, p =>
    match readEscape rules.escapes cs with
    | (.stop, _) => { p with stopped := true }
    | (.mistake message, _) => p.refuse rules (.escape message)
    | (.print b, rest) => printOnce rules n rest { p with out := p.out ++ b }
  | n + 1, '%' :: '%' :: cs, p => printOnce rules n cs { p with out := p.out ++ [37] }
  | n + 1, '%' :: cs, p =>
    match readConversion rules p.args cs with
    | .error mistake => p.refuse rules mistake
    | .ok r =>
      let quiet := r.args.isEmpty && rules.careful && (r.conversion.letter == 'b'
        || r.conversion.letter == 'q')
      let part := if quiet then { out := [] } else r.conversion.print rules (r.args.headD [])
      let p := { p with out := p.out ++ part.out, args := r.args.tail, used := true }
      let p := (p.object (r.complaints ++ part.complaint.toList)).after rules part.ending
      if p.stopped then p else printOnce rules n r.rest p
  | n + 1, c :: cs, p => printOnce rules n cs { p with out := p.out ++ octets [c] }

/-- Goes through a format until all arguments are used. -/
def printAll (rules : FormatRules) (format : List Char) : Nat → Printed → Printed
  | 0, p => p
  | n + 1, p =>
    let p := printOnce rules format.length format { p with used := false }
    if p.stopped || p.args.isEmpty then p
    else if p.used then printAll rules format n p
    else if rules.careful then
      let complaint := ascii "warning: ignoring excess arguments, starting with "
        ++ quoted (p.args.headD [])
      { p with complaints := p.complaints ++ [complaint] }
    else p

def printFormat (rules : FormatRules) (format : Bytes) (args : List Bytes) : Printed :=
  printAll rules (chars format) (args.length + 1) { args }

/-- Prints its arguments by a format. -/
def printf : Tool := telling Manual.printf <| guarded Manual.printf fun inv t => do
  let args := if inv.args.head? = some (ascii "--") then inv.args.tail else inv.args
  match args with
  | [] => misuse inv (ascii "missing operand") 1
  | format :: args =>
    let p := printFormat printfRules format args
    return { files := t, out := p.out, err := p.complaints.flatMap (complain inv), code := p.code
             unread := inv.stdin }

end Relay.Userland
