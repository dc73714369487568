import Relay.Userland.Floating
import Relay.Userland.Manual.Lines
import Relay.Userland.Options
import Relay.Userland.Quantity

/-!
# Dumps

`od` shows bytes as numbers and characters.  The bytes of all files form one stream, which is cut
into blocks; a block is shown on one line for each format, behind the address of its first byte.
-/

namespace Relay.Userland

/-! ## Units -/

/-- Digits of a number in a base, filled up with zeros. -/
def padded (base width n : Nat) : Bytes :=
  let ds := octets (Nat.toDigits base n)
  List.replicate (width - ds.length) 48 ++ ds

def escapeName? : Nat → Option String
  | 0 => some "\\0"
  | 7 => some "\\a"
  | 8 => some "\\b"
  | 9 => some "\\t"
  | 10 => some "\\n"
  | 11 => some "\\v"
  | 12 => some "\\f"
  | 13 => some "\\r"
  | _ => none

/-- A byte as a character, an escape or an octal number. -/
def asCharacter (n : Nat) : Bytes :=
  match escapeName? n with
  | some name => ascii name
  | none => if 32 ≤ n && n ≤ 126 then [UInt8.ofNat n] else padded 8 3 n

/-- A byte as a character or a name; the highest bit does not matter. -/
def asName (n : Nat) : Bytes :=
  let names := ["nul", "soh", "stx", "etx", "eot", "enq", "ack", "bel", "bs", "ht", "nl", "vt",
    "ff", "cr", "so", "si", "dle", "dc1", "dc2", "dc3", "dc4", "nak", "syn", "etb", "can", "em",
    "sub", "esc", "fs", "gs", "rs", "us", "sp"]
  let n := n % 128
  if n = 127 then ascii "del" else (names[n]?.map ascii).getD [UInt8.ofNat n]

/-- A number as a machine keeps it in a binary format: the sign, the exponent and the mantissa.  The
wide format keeps the first bit of its mantissa, the others do not. -/
def binaryValue (b : BinaryFormat) (keepsFirst : Bool) (n : Nat) : Bool × Magnitude :=
  let kept := if keepsFirst then b.precision else b.precision - 1
  let greatest := 2 * b.maxExponent + 1
  let field := n % Nat.pow 2 kept
  let exponent := n / Nat.pow 2 kept % (greatest + 1)
  let negative := n / Nat.pow 2 kept / (greatest + 1) % 2 = 1
  let first := Nat.pow 2 (b.precision - 1)
  let mantissa := if keepsFirst || exponent = 0 then field else first + field
  if exponent = greatest then (negative, if field % first = 0 then .infinite else .undefined)
  else if exponent ≠ 0 && mantissa < first then (negative, .undefined)
  else
    let power : Int := (max exponent 1 : Nat) - ((b.maxExponent + b.precision - 1 : Nat) : Int)
    (negative, .finite (scaleBy mantissa 2 power))

/-- Whether a text is read back as a fraction, as far as a format can tell. -/
def readsBack (b : BinaryFormat) (f : Fraction) (text : List Char) : Bool :=
  match readNumber? (octets text) with
  | some { magnitude := .finite g, .. } =>
    match b.nearest? g with
    | some n => n.toFraction.num * f.den = f.num * n.toFraction.den
    | none => false
  | _ => false

/-- The shortest decimal text of a number that is read back as the same number; at most so many more
digits are tried. -/
def shortestText (b : BinaryFormat) (f : Fraction) : Nat → Nat → List Char
  | 0, digits => f.general false digits
  | n + 1, digits =>
    let text := f.general false digits
    if readsBack b f text then text else shortestText b f n (digits + 1)

/-- The value of a unit in a binary format; a number that is not tiny gets a certain number of
digits at least. -/
def asFloating (b : BinaryFormat) (keepsFirst : Bool) (least greatest n : Nat) : Bytes :=
  let (negative, magnitude) := binaryValue b keepsFirst n
  let text :=
    match magnitude with
    | .infinite => "inf".toList
    | .undefined => "nan".toList
    | .finite f =>
      let start := if f.reaches 2 (1 - (b.maxExponent : Int)) then least else 1
      shortestText b f (greatest - start) start
  (if negative then [45] else []) ++ octets text

/-- Numbers of 32 bits. -/
def singleFormat : BinaryFormat := ⟨24, 127⟩

/-- A unit with a sign in its highest bit. -/
def asSigned (size n : Nat) : Bytes :=
  if 2 * n < Nat.pow 256 size then decimal n else 45 :: decimal (Nat.pow 256 size - n)

/-! ## Formats -/

/-- How the units of a block are shown. -/
structure DumpFormat where
  size : Nat
  /-- The width of a unit, without the blank in front. -/
  width : Nat
  /-- A unit, from its number. -/
  spell : Nat → Bytes
  /-- The bytes of the block follow as characters. -/
  trailer : Bool := false

/-- How many digits the whole numbers of a size take at most. -/
def digitsFor (base size : Nat) : Nat := (Nat.toDigits base (Nat.pow 256 size - 1)).length

def wholeFormat (kind : Char) (size : Nat) : DumpFormat :=
  match kind with
  | 'd' => ⟨size, (asSigned size (Nat.pow 256 size / 2)).length, asSigned size, false⟩
  | 'u' => ⟨size, digitsFor 10 size, decimal, false⟩
  | 'x' => ⟨size, digitsFor 16 size, padded 16 (digitsFor 16 size), false⟩
  | _ => ⟨size, digitsFor 8 size, padded 8 (digitsFor 8 size), false⟩

def pointFormat? : Nat → Option DumpFormat
  | 4 => some ⟨4, 15, asFloating singleFormat false 6 9, false⟩
  | 8 => some ⟨8, 24, asFloating doubleFormat false 15 17, false⟩
  | 16 => some ⟨16, 29, asFloating extendedFormat true 18 21, false⟩
  | _ => none

def namedSize? (kind : Char) (letter : Char) : Option Nat :=
  match kind == 'f', letter with
  | false, 'C' => some 1
  | false, 'S' => some 2
  | false, 'I' => some 4
  | false, 'L' => some 8
  | true, 'F' => some 4
  | true, 'D' => some 8
  | true, 'L' => some 16
  | _, _ => none

/-- The size of a unit at the start of a text, with the rest; nothing if the number is too large. -/
def takeSize? (kind : Char) (cs : List Char) : Option (Nat × List Char) :=
  match cs.head?.bind (namedSize? kind) with
  | some n => some (n, cs.tail)
  | none =>
    let digits := cs.takeWhile Char.isDigit
    if digits.isEmpty then some (if kind == 'f' then 8 else 4, cs)
    else if largestWord < numberIn 10 digits then none
    else some (numberIn 10 digits, cs.drop digits.length)

/-- Reads at most `n` formats of a type; the error is the complaint. -/
def readFormats (type : Bytes) : Nat → List Char → Except Bytes (List DumpFormat)
  | 0, _ => .ok []
  | _, [] => .ok []
  | n + 1, kind :: cs => do
    let (format, rest) ←
      if kind == 'a' then pure (⟨1, 3, asName, false⟩, cs)
      else if kind == 'c' then pure (⟨1, 3, asCharacter, false⟩, cs)
      else if "douxf".toList.contains kind then
        match takeSize? kind cs with
        | none => throw (ascii "invalid type string " ++ quoted type)
        | some (size, rest) =>
          let lacks (what : String) : Bytes :=
            ascii "invalid type string " ++ quoted type
              ++ ascii s!";\nthis system doesn't provide a {size}-byte {what} type"
          if kind == 'f' then
            match pointFormat? size with
            | some f => pure (f, rest)
            | none => throw (lacks "floating point")
          else if [1, 2, 4, 8].contains size then pure (wholeFormat kind size, rest)
          else throw (lacks "integral")
      else
        throw (ascii "invalid character '" ++ octets [kind] ++ ascii "' in type string "
          ++ quoted type)
    match rest with
    | 'z' :: rest => return { format with trailer := true } :: (← readFormats type n rest)
    | rest => return format :: (← readFormats type n rest)

/-! ## Settings -/

/-- What stands in front of a line. -/
structure AddressStyle where
  base : Nat := 8
  width : Nat := 7

structure Dump where
  /-- How addresses are shown, if they are. -/
  style : Option AddressStyle := some {}
  /-- A second address for the first byte, and whether the usual address takes its place. -/
  label : Option (Nat × Bool) := none
  skip : Nat := 0
  limit : Option Nat := none
  /-- Only texts of at least this length are shown. -/
  strings : Option Nat := none
  keepsAll : Bool := false
  width : Option Nat := none
  bigEndian : Bool := false
  formats : List DumpFormat := []
  /-- An option was given that the old way of calling does not know. -/
  modern : Bool := false
  traditional : Bool := false
  complaints : Bytes := []

/-- The letters that multiply a number of bytes. -/
def offsetLetters : String := "bEGKkMmPTYZ0"

/-- The types that letters stand for. -/
def typeOf? : String → Option String
  | "a" => some "a"
  | "b" => some "o1"
  | "c" => some "c"
  | "D" => some "u4"
  | "d" => some "u2"
  | "e" => some "fD"
  | "f" => some "fF"
  | "H" => some "x4"
  | "i" => some "dI"
  | "l" => some "dL"
  | "O" => some "o4"
  | "o" => some "o2"
  | "s" => some "d2"
  | "x" => some "x2"
  | _ => none

def odOptions : List OptionRule :=
  let byLetter (key : String) (letters : String) : OptionRule := { key, letters := letters.toList }
  let named (c : Char) (name : String) : OptionRule :=
    { key := "--" ++ name, names := [name]
      value := if c == 'S' || c == 'w' then .maybe else .always }
  [valueOption 'j' [], named 'j' "skip-bytes", valueOption 'A' ["address-radix"],
    valueOption 'N' [], named 'N' "read-bytes", valueOption 't' ["format"],
    plainOption 'v' ["output-duplicates"], valueOption 'S' [], named 'S' "strings",
    namedOption "traditional" .never, { key := "w", letters := ['w'], value := .maybe },
    named 'w' "width", namedOption "endian" .always, byLetter "a" "a", byLetter "b" "b",
    byLetter "c" "c", byLetter "D" "D", byLetter "d" "d", byLetter "e" "eF", byLetter "f" "f",
    byLetter "H" "HX", byLetter "i" "i", byLetter "l" "lIL", byLetter "O" "O", byLetter "o" "oB",
    byLetter "s" "s", byLetter "x" "xh"]
    ++ selfDescription

/-- Adds the formats of a type. -/
def Dump.addType (d : Dump) (inv : Invocation) (type : Bytes) : Dump :=
  match readFormats type type.length (chars type) with
  | .ok fs => { d with formats := d.formats ++ fs }
  | .error message => { d with complaints := d.complaints ++ complain inv message }

/-- Takes an option into account. -/
def Dump.take (inv : Invocation) (d : Dump) (f : Flag) : Except Halt Dump := do
  let option := if f.key.length = 1 then "-" ++ f.key else f.key
  match f.key with
  | "A" =>
    let d := { d with modern := true }
    match (chars f.text).headD '\x00' with
    | 'd' => return { d with style := some ⟨10, 7⟩ }
    | 'o' => return { d with style := some ⟨8, 7⟩ }
    | 'x' => return { d with style := some ⟨16, 6⟩ }
    | 'n' => return { d with style := none }
    | c =>
      halt inv (ascii "invalid output address radix '" ++ octets [c]
        ++ ascii "'; it must be one character from [doxn]") 1
  | "t" => return { d.addType inv f.text with modern := true }
  | "v" => return { d with modern := true, keepsAll := true }
  | "traditional" => return { d with traditional := true }
  | "endian" =>
    let bigEndian ← readChoice inv "--endian" [(["little"], false), (["big"], true)] 1 f.text
    return { d with bigEndian }
  | key =>
    if key = "j" || key = "--skip-bytes" then
      return { d with modern := true, skip := ← readCount inv option none offsetLetters f.text }
    else if key = "N" || key = "--read-bytes" then
      return { d with modern := true, limit := some (← readCount inv option none offsetLetters f.text) }
    else if key = "S" || key = "--strings" then
      let n ← if f.value.isNone then pure 3 else readCount inv option none offsetLetters f.text
      return { d with modern := true, strings := some n }
    else if key = "w" || key = "--width" then
      let n ← if f.value.isNone then pure 32 else readCount inv option (some 10) "" f.text
      return { d with modern := true, width := some n }
    else
      match typeOf? key with
      | some type => return d.addType inv (ascii type)
      | none => return d

/-- An address given as an operand: octal, or hexadecimal after its mark. -/
def operandOffset? (a : Bytes) : Option Nat :=
  let digits := if a.head? = some 43 then a.tail else a
  let base := if digits.contains 46 then 10
    else if startsWith "0x" (chars digits) then 16 else 8
  match countOf (some base) "Bb" digits with
  | .ok n => if a.isEmpty then none else some n
  | .error _ => none

/-- Takes addresses among the operands into account; the answer also holds the other operands. -/
def Dump.takeOffsets (d : Dump) (operands : List Bytes) : Dump × List Bytes :=
  let starts (a : Bytes) : Bool := d.traditional || a.head? = some 43
  let labelled (skip label : Nat) : Dump :=
    { d with skip, label := some (label, d.style.isNone), style := some (d.style.getD {}) }
  if d.modern && !d.traditional then (d, operands)
  else
    match operands, operands.map operandOffset? with
    | [a], [some n] => if starts a then ({ d with skip := n }, []) else (d, operands)
    | [a, b], [m, some n] =>
      if starts b || (chars b).head?.any Char.isDigit then
        match d.traditional, m with
        | true, some m => (labelled m n, [])
        | _, _ => ({ d with skip := n }, [a])
      else (d, operands)
    | [a, _, _], [_, some m, some n] =>
      if d.traditional then (labelled m n, [a]) else (d, operands)
    | _, _ => (d, operands)

/-! ## Blocks -/

def AddressStyle.spell (s : AddressStyle) (n : Nat) : Bytes := padded s.base s.width n

/-- The address in front of a line. -/
def Dump.address (d : Dump) (n : Nat) : Bytes :=
  match d.style, d.label with
  | none, _ => []
  | some s, none => s.spell n
  | some s, some (_, true) => ascii "(" ++ s.spell n ++ ascii ")"
  | some s, some (label, false) =>
    s.spell n ++ ascii " (" ++ s.spell (n - d.skip + label) ++ ascii ")"

/-- The least common multiple of the sizes of all units. -/
def Dump.unit (d : Dump) : Nat := d.formats.foldl (fun n f => Nat.lcm n f.size) 1

/-- The number of bytes on a line. -/
def Dump.block (d : Dump) : Nat :=
  match d.width with
  | some w => if w ≠ 0 && w % d.unit = 0 then w else d.unit
  | none => if d.unit < 16 then d.unit * (16 / d.unit) else d.unit

/-- The pieces of `n` elements of a list; the last one may be shorter. -/
def chunks {α : Type} (n : Nat) (l : List α) : List (List α) :=
  (List.range ((l.length + n - 1) / n)).map fun k => (l.drop (k * n)).take n

/-- The number that some bytes write, least byte first. -/
def littleEndian (b : Bytes) : Nat := b.foldr (fun x n => x.toNat + 256 * n) 0

/-- The units of a format in a block, whose last ones may be missing; all formats fill the same
width, and what is left over is spread between the units. -/
def Dump.fields (d : Dump) (f : DumpFormat) (b : Bytes) : Bytes :=
  let fields := d.block / f.size
  let blank := (d.block - b.length) / f.size
  let full := d.formats.foldl (fun n f => max n ((f.width + 1) * (d.block / f.size))) 0
  let pad := full - f.width * fields
  let whole := b ++ List.replicate (d.block - b.length) 0
  let units := (chunks f.size whole).take (fields - blank)
  let text := units.zipIdx.flatMap fun (unit, k) =>
    let extra := pad * (fields - k) / fields - pad * (fields - k - 1) / fields
    let unit := if d.bigEndian then unit.reverse else unit
    padLeft (f.width + extra) (f.spell (littleEndian unit))
  if f.trailer then
    text ++ List.replicate (blank * f.width + pad * blank / fields) 32 ++ ascii "  >"
      ++ (b.map fun x => if isPrinted x then x else 46) ++ ascii "<"
  else text

/-- The lines of a block at an address. -/
def Dump.row (d : Dump) (start : Nat) (b : Bytes) : Bytes :=
  let margin := (d.style.map AddressStyle.width).getD 0
  let margin := if d.label.any (·.2) then 7 else margin
  (d.formats.zipIdx.map fun (f, k) =>
    (if k = 0 then d.address start else List.replicate margin 32) ++ d.fields f b
      ++ [Text.lineFeed]).flatten

/-- The lines of all blocks; a star stands for blocks that are equal to the one before. -/
def Dump.rows (d : Dump) (blocks : List Bytes) : Bytes :=
  let (rows, _, _) := blocks.zipIdx.foldl (fun (st : List Bytes × Option Bytes × Bool) (b, k) =>
    let (done, last, starred) := st
    if !d.keepsAll && last == some b && b.length = d.block then
      (if starred then done else ascii "*\n" :: done, last, true)
    else (d.row (d.skip + k * d.block) b :: done, some b, false)) ([], none, false)
  rows.reverse.flatten

/-! ## Texts -/

/-- The texts of at least a length that end in a zero, or, if so asked, at the end of the bytes,
with their addresses.  At most `n` texts are looked at. -/
def textsIn (limited : Bool) (least : Nat) : Nat → Nat → Bytes → List (Nat × Bytes)
  | 0, _, _ => []
  | n + 1, start, bs =>
    let text := bs.takeWhile isPrinted
    let more (rest : Bytes) : List (Nat × Bytes) :=
      textsIn limited least n (start + text.length + 1) rest
    if limited && bs.length ≤ least then []
    else
      match bs.drop text.length with
      | [] => if limited && least ≤ text.length then [(start - 1, text)] else []
      | b :: rest =>
        if b == 0 && least ≤ text.length then (start, text) :: more rest else more rest

/-! ## The stream -/

/-- A file of the stream. -/
structure DumpSource where
  name : Bytes
  content : Except Errno Bytes
  /-- A device, in which one can skip as far as one likes. -/
  isDevice : Bool := false

/-- The complaint about a file that could not be read. -/
def DumpSource.complaint (inv : Invocation) (s : DumpSource) : Bytes :=
  match s.content with
  | .ok _ => []
  | .error e => complainOf inv (if s.name = dash then ascii "standard input" else s.name) e

/-- Skips bytes of the stream; nothing if there are not that many.  In a directory one can skip as
far as one likes, although it cannot be read. -/
def skipSources (inv : Invocation) : Nat → List DumpSource → Option (List DumpSource × Bytes)
  | 0, ss => some (ss, [])
  | _ + 1, [] => none
  | n + 1, s :: ss =>
    match s.content with
    | .error e =>
      if e = .isDirectory then some (s :: ss, [])
      else (skipSources inv (n + 1) ss).map fun (ss, err) => (ss, s.complaint inv ++ err)
    | .ok b =>
      if s.isDevice then some (s :: ss, [])
      else if n + 1 ≤ b.length then some ({ s with content := .ok (b.drop (n + 1)) } :: ss, [])
      else skipSources inv (n + 1 - b.length) ss

/-- What is left of a stream: its bytes, and where in them files could not be read. -/
structure Stream where
  bytes : Bytes := []
  gaps : List (Nat × Bytes) := []

def streamOf (inv : Invocation) (ss : List DumpSource) : Stream :=
  ss.foldl (fun st s =>
    match s.content with
    | .ok b => { st with bytes := st.bytes ++ b }
    | .error _ => { st with gaps := st.gaps ++ [(st.bytes.length, s.complaint inv)] }) {}

/-- The blocks that are shown, and the bytes they were read from.  A file that cannot be read ends
the dump after the block that it belongs to; if that block is full, the one before it comes
again. -/
def Dump.cut (d : Dump) (s : Stream) : List Bytes × Nat :=
  let bytes := match d.limit with
    | some n => s.bytes.take n
    | none => s.bytes
  let reach := d.limit.getD (s.bytes.length + 1)
  match s.gaps.find? fun (p, _) => p < reach with
  | none => (chunks d.block bytes, reach)
  | some (p, _) =>
    let last := (p / d.block + 1) * d.block
    if bytes.length < last then (chunks d.block bytes, reach)
    else
      let blocks := chunks d.block (bytes.take last)
      let before := if 2 ≤ blocks.length then blocks.getD (blocks.length - 2) []
        else List.replicate d.block 0
      (blocks ++ [before], last)

def Dump.show (d : Dump) (s : Stream) : Bytes × Bytes :=
  let complaints (reach : Nat) : Bytes :=
    (s.gaps.filter fun (p, _) => p < reach).flatMap (·.2)
  match d.strings with
  | some least =>
    let bytes := match d.limit with
      | some n => s.bytes.take n
      | none => s.bytes
    let limited := d.limit.any (· ≤ s.bytes.length)
    let texts := textsIn limited least (bytes.length + 1) d.skip bytes
    let lines := texts.flatMap fun (start, text) =>
      (if d.style.isNone then [] else d.address start ++ [32]) ++ text ++ [Text.lineFeed]
    (lines, complaints (s.bytes.length + 1))
  | none =>
    let (blocks, reach) := d.cut s
    let final := d.skip + total (blocks.map List.length)
    let final := if d.style.isNone then [] else d.address final ++ [Text.lineFeed]
    (d.rows blocks ++ final, complaints reach)

/-- Shows the bytes of files. -/
def od : Tool := guarded Manual.od fun inv t => do
  let complained (d : Dump) (h : Halt) : Halt := h.mapErr (d.complaints ++ ·)
  let (d, operands) ← readCallAloud odOptions anywhere 1 complained (Dump.take inv) {} inv
  if !d.complaints.isEmpty then throw (.complaint d.complaints 1)
  else if d.strings.isSome && !d.formats.isEmpty then
    halt inv (ascii "no type may be specified when dumping strings") 1
  else
    let (d, names) := d.takeOffsets operands
    match d.traditional, names with
    | true, _ :: b :: _ =>
      throw <| .complaint (complain inv (ascii "extra operand " ++ quoted b)
        ++ complain inv (ascii "compatibility mode supports at most one file") ++ hint inv) 1
    | _, _ =>
      if largestWord < d.skip + d.limit.getD 0 then
        halt inv (ascii "skip-bytes + read-bytes is too large") 1
      else
        let d := if d.formats.isEmpty then { d with formats := [wholeFormat 'o' 2] } else d
        let names := orDash names
        let sources : List DumpSource := names.zipIdx.map fun (name, k) =>
          let isDevice : Bool := if name = dash then decide (inv.origin = .device)
            else match t.find inv.cwd name with
              | .ok (_, .device _) => true
              | _ => false
          let content := readOperand inv t name
          let atEnd := name = dash && (names.take k).contains dash && content.toBool
          { name, content := if atEnd then .ok [] else content, isDevice }
        let opens (s : DumpSource) : Bool :=
          match s.content with
          | .ok _ => true
          | .error e => e = .isDirectory || s.name = dash
        let unopened := sources.takeWhile fun s => !opens s
        let err := unopened.flatMap (·.complaint inv)
        match sources.drop unopened.length with
        | [] => throw (.complaint err 1)
        | rest =>
          match skipSources inv d.skip rest with
          | none =>
            throw <| .complaint (err ++ rest.flatMap (·.complaint inv)
              ++ complain inv (ascii "cannot skip past end of combined input")) 1
          | some (rest, err') =>
            let warning :=
              match d.width with
              | some w =>
                if w = d.block then []
                else complain inv (ascii s!"warning: invalid width {w}; using {d.block} instead")
              | none => []
            let (out, err'') := d.show (streamOf inv rest)
            let taken := if d.strings.isNone then d.limit.map (d.skip + ·) else none
            let failed := !(err ++ err' ++ err'').isEmpty
            let usesInput := names.any isInput
            let closing := closingComplaint inv usesInput "standard input"
            return { files := t, out, err := err ++ err' ++ warning ++ err'' ++ closing
                     code := if failed then 1 else 0
                     unread := match usesInput, taken with
                       | false, _ => inv.stdin
                       | true, some n => if names = [dash] then inv.stdin.drop n else []
                       | true, none => [] }

end Relay.Userland
