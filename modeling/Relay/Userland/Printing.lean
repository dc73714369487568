import Relay.Userland.Floating
import Relay.Userland.Manual.Names
import Relay.Userland.Options

/-!
# Escapes and echo

Escapes are read in one way everywhere; which of them a printer knows is part of its `EscapeRules`.
-/

namespace Relay.Userland

/-- Which escapes a printer reads, beside those for control characters and the backslash. -/
structure EscapeRules where
  /-- A zero in front of an octal number does not count as one of its three digits. -/
  zeroLed : Bool := false
  /-- Hexadecimal numbers are known. -/
  hex : Bool := false
  /-- The escape character is known. -/
  escape : Bool := false
  /-- A quotation mark can be escaped. -/
  quote : Bool := false
  cutOff : Bool := false
  /-- Characters can be given by their numbers, and a number that is missing is a mistake. -/
  numbered : Bool := false

def isOctal (c : Char) : Bool := '0' ≤ c && c ≤ '7'

/-- At most `n` leading characters of a class, and the rest. -/
def takeUpTo (n : Nat) (accept : Char → Bool) (cs : List Char) : List Char × List Char :=
  let taken := (cs.take n).takeWhile accept
  (taken, cs.drop taken.length)

def byteOf (base : Nat) (digits : List Char) : UInt8 := UInt8.ofNat (numberIn base digits)

inductive Escape where
  | print (b : Bytes)
  | stop
  /-- The escape is a mistake, which ends printing. -/
  | mistake (message : Bytes)

def plainEscape? : Char → Option UInt8
  | 'a' => some 7
  | 'b' => some 8
  | 'f' => some 12
  | 'n' => some 10
  | 'r' => some 13
  | 't' => some 9
  | 'v' => some 11
  | '\\' => some 92
  | _ => none

def missingNumber : Escape := .mistake (ascii "missing hexadecimal number in escape")

/-- Reads the number of a character, of four digits or of eight, after the letter that asks for it.
Characters beyond ASCII are printed as their numbers; a control, and a character that needs no
number, is a mistake. -/
def numberedChar (letter : Char) (cs : List Char) : Escape × List Char :=
  let width := if letter == 'u' then 4 else 8
  let (ds, rest) := takeUpTo width isHex cs
  if ds.length < width then (missingNumber, [])
  else
    let n := numberIn 16 ds
    let spelled (width n : Nat) : Bytes :=
      let xs := Nat.toDigits 16 n
      octets (List.replicate (width - xs.length) '0' ++ xs)
    if [0x24, 0x40, 0x60].contains n then (.print [UInt8.ofNat n], rest)
    else if n ≤ 0x9F || (0xD800 ≤ n && n ≤ 0xDFFF) then
      (.mistake (ascii "invalid universal character name \\" ++ octets [letter]
        ++ spelled width n), [])
    else
      let upper := octets ((chars (spelled (if n < 0x10000 then 4 else 8) n)).map Char.toUpper)
      (.print (ascii (if n < 0x10000 then "\\u" else "\\U") ++ upper), rest)

/-- Reads an escape, after its backslash; an unknown one prints as it is written. -/
def readEscape (rules : EscapeRules) : List Char → Escape × List Char
  | [] => (.print [92], [])
  | c :: cs =>
    match plainEscape? c with
    | some b => (.print [b], cs)
    | none =>
      if c == 'c' && rules.cutOff then (.stop, [])
      else if c == '"' && rules.quote then (.print [34], cs)
      else if c == 'e' && rules.escape then (.print [27], cs)
      else if c == 'x' && rules.hex then
        match takeUpTo 2 (fun d => (hexValue? d).isSome) cs with
        | ([], _) =>
          if rules.numbered then (missingNumber, []) else (.print (ascii "\\x"), cs)
        | (ds, rest) => (.print [byteOf 16 ds], rest)
      else if (c == 'u' || c == 'U') && rules.numbered then numberedChar c cs
      else if rules.zeroLed && c == '0' then
        let (ds, rest) := takeUpTo 3 isOctal cs
        (.print [byteOf 8 ds], rest)
      else if isOctal c then
        let (ds, rest) := takeUpTo 3 isOctal (c :: cs)
        (.print [byteOf 8 ds], rest)
      else (.print (92 :: octets [c]), cs)

inductive TextEnd where
  | whole
  | cutOff
  | mistaken (message : Bytes)

/-- Prints a text with its escapes; the answer tells how that ended. -/
def unescape (rules : EscapeRules) : Nat → List Char → Bytes × TextEnd
  | 0, _ => ([], .whole)
  | _, [] => ([], .whole)
  | n + 1, '\\' :: cs =>
    match readEscape rules cs with
    | (.stop, _) => ([], .cutOff)
    | (.mistake message, _) => ([], .mistaken message)
    | (.print b, rest) =>
      let (more, ending) := unescape rules n rest
      (b ++ more, ending)
  | n + 1, c :: cs =>
    let (more, ending) := unescape rules n cs
    (octets [c] ++ more, ending)

/-! ## Echo -/

def echoRules : EscapeRules := { zeroLed := true, hex := true, escape := true, cutOff := true }

def shellEchoRules : EscapeRules := { zeroLed := true, escape := true, cutOff := true }

/-- Arguments with one blank between neighbours. -/
def spacedOut (args : List Bytes) : Bytes := [32].intercalate args

def echoText (rules : EscapeRules) (escapes newline : Bool) (args : List Bytes) : Bytes :=
  let line := spacedOut args
  let (b, ending) := if escapes then unescape rules line.length (chars line) else (line, .whole)
  match ending with
  | .whole => if newline then b ++ [Text.lineFeed] else b
  | _ => b

def isEchoOption (a : Bytes) : Bool :=
  match chars a with
  | '-' :: c :: cs => (c :: cs).all fun c => c == 'n' || c == 'e' || c == 'E'
  | _ => false

/-- Prints its arguments. -/
def echo : Tool := telling Manual.echo fun inv t =>
  let letters := (inv.args.takeWhile isEchoOption).flatMap fun a => (chars a).tail
  let escapes := (letters.filter (· != 'n')).getLast? == some 'e'
  { files := t, unread := inv.stdin
    out := echoText echoRules escapes (!letters.contains 'n') (inv.args.dropWhile isEchoOption) }

/-- The shell's own `echo`, which always reads escapes. -/
def shellEcho (args : List Bytes) : Bytes :=
  match args with
  | a :: rest =>
    if a = ascii "-n" then echoText shellEchoRules true false rest
    else echoText shellEchoRules true true args
  | [] => echoText shellEchoRules true true []

end Relay.Userland
