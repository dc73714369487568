import Relay.Userland.Manual.Lines
import Relay.Userland.Options
import Relay.Userland.Printing
import Relay.Userland.Quantity

/-!
# Transliteration

`tr` replaces, deletes and squeezes bytes.  A set of bytes is written as a text of elements: single
bytes, ranges, named classes and repetitions.  Reading happens in two steps, because a byte that is
written as an escape is never part of the notation for an element.
-/

namespace Relay.Userland

/-! ## Elements of sets -/

/-- The two classes that are replaced by each other member by member. -/
inductive LetterCase where
  | lower
  | upper
  deriving DecidableEq

inductive SetElement where
  | single (b : UInt8)
  | range (first last : UInt8)
  | named (name : String) (members : Bytes)
  /-- The bytes that count as equal to a byte, which is that byte only. -/
  | equals (b : UInt8)
  /-- A byte several times, or as often as it is needed. -/
  | repeated (b : UInt8) (count : Option Nat)

def allBytes : Bytes := (List.range 256).map UInt8.ofNat

/-- The members of a named class, in order. -/
def classMembers? (name : String) : Option Bytes :=
  let within (ranges : List (Nat × Nat)) : Option Bytes :=
    some (allBytes.filter fun b => ranges.any fun (lo, hi) => lo ≤ b.toNat && b.toNat ≤ hi)
  match name with
  | "lower" => within [(97, 122)]
  | "upper" => within [(65, 90)]
  | "digit" => within [(48, 57)]
  | "alpha" => within [(65, 90), (97, 122)]
  | "alnum" => within [(48, 57), (65, 90), (97, 122)]
  | "space" => within [(9, 13), (32, 32)]
  | "blank" => within [(9, 9), (32, 32)]
  | "punct" => within [(33, 47), (58, 64), (91, 96), (123, 126)]
  | "print" => within [(32, 126)]
  | "graph" => within [(33, 126)]
  | "cntrl" => within [(0, 31), (127, 127)]
  | "xdigit" => within [(48, 57), (65, 70), (97, 102)]
  | _ => none

def SetElement.letterCase? : SetElement → Option LetterCase
  | .named "lower" _ => some .lower
  | .named "upper" _ => some .upper
  | _ => none

/-- Repetitions beyond this number make no difference to what is done with a set. -/
def greatestRepetition : Nat := 65536

/-- The members of an element in order; a repetition without a number has none of its own. -/
def SetElement.members : SetElement → Bytes
  | .single b => [b]
  | .range first last =>
    (List.range (last.toNat + 1 - first.toNat)).map fun k => UInt8.ofNat (first.toNat + k)
  | .named _ members => members
  | .equals b => [b]
  | .repeated b count => List.replicate (min greatestRepetition (count.getD 0)) b

/-- The byte that makes up for members that a set lacks; a class has none. -/
def SetElement.filler? : SetElement → Option UInt8
  | .single b => some b
  | .range _ last => some last
  | .named _ _ => none
  | .equals b => some b
  | .repeated b _ => some b

/-! ## Reading sets -/

/-- A byte of a set as it was written. -/
structure Written where
  byte : UInt8
  /-- The byte was written as an escape. -/
  escaped : Bool

/-- Whether a byte stands for a character of the notation. -/
def Written.is (w : Written) (c : Char) : Bool := !w.escaped && w.byte.toNat == c.toNat

/-- Reads an octal number from its digits as far as it fits into a byte; the answer also holds the
digit that does not fit any more. -/
def readOctal (digits : List Char) : UInt8 × List Char × Option Char :=
  match digits with
  | [c, d, e] =>
    if numberIn 8 digits < 256 then (byteOf 8 digits, digits, none)
    else (byteOf 8 [c, d], [c, d], some e)
  | _ => (byteOf 8 digits, digits, none)

/-- Resolves the escapes of a set, at most `n` bytes; the answer also holds the warnings. -/
def resolve (inv : Invocation) : Nat → List Char → List Written × Bytes
  | 0, _ => ([], [])
  | _, [] => ([], [])
  | _, ['\\'] =>
    ([⟨92, false⟩],
      complain inv (ascii "warning: an unescaped backslash at end of string is not portable"))
  | n + 1, '\\' :: c :: cs =>
    if isOctal c then
      let (b, taken, misfit) := readOctal (takeUpTo 3 isOctal (c :: cs)).1
      let (more, warnings) := resolve inv n ((c :: cs).drop taken.length)
      let warning :=
        match misfit with
        | none => []
        | some e =>
          complain inv (ascii "warning: the ambiguous octal escape \\" ++ octets (taken ++ [e])
            ++ ascii " is being\n\tinterpreted as the 2-byte sequence \\0" ++ octets taken
            ++ ascii ", " ++ octets [e])
      (⟨b, true⟩ :: more, warning ++ warnings)
    else
      let (more, warnings) := resolve inv n cs
      (⟨(plainEscape? c).getD (UInt8.ofNat c.toNat), true⟩ :: more, warnings)
  | n + 1, c :: cs =>
    let (more, warnings) := resolve inv n cs
    (⟨UInt8.ofNat c.toNat, false⟩ :: more, warnings)

def printable (b : UInt8) : Bytes :=
  if isPrinted b then [b]
  else
    let ds := octets (Nat.toDigits 8 b.toNat)
    ascii "\\" ++ List.replicate (3 - ds.length) 48 ++ ds

def printableText (ws : List Written) : Bytes :=
  ws.flatMap fun w => if w.byte == 92 then ascii "\\\\" else if isPrinted w.byte then [w.byte]
    else escapedByte w.byte

/-- What stands before a mark and a closing bracket, and what stands behind them. -/
def splitAtMark (mark : Char) : List Written → Option (List Written × List Written)
  | a :: b :: rest =>
    if a.is mark && b.is ']' then some ([], rest)
    else (splitAtMark mark (b :: rest)).map fun (inner, rest) => (a :: inner, rest)
  | _ => none

/-- Whether a repetition's star, digits and closing bracket come first. -/
def startsRepetition : List Written → Bool
  | w :: rest =>
    w.is '*' && ((rest.dropWhile fun w => (Char.ofNat w.byte.toNat).isDigit).head?.any (·.is ']'))
  | [] => false

/-- How often a byte is repeated, as digits write it; octal ones start with a zero. -/
def repetitionCount? (digits : Bytes) : Option Nat :=
  let cs := (chars digits).dropWhile isNumberSpace
  let cs := if cs.head? = some '+' then cs.tail else cs
  let base := if digits.head? = some 48 then 8 else 10
  if cs.isEmpty || !cs.all (fun c => c.isDigit && (base = 10 || isOctal c)) then none
  else if largestWord < numberIn base cs then none
  else some (numberIn base cs)

def readRepetition (inv : Invocation) : List Written →
    Except Halt (Option (SetElement × List Written))
  | b :: star :: rest =>
    let inner := rest.takeWhile fun w => !w.escaped && !w.is ']'
    match star.is '*', rest.drop inner.length with
    | true, close :: rest =>
      if !close.is ']' then .ok none
      else
        let digits := inner.map (·.byte)
        if digits.isEmpty then .ok (some (.repeated b.byte none, rest))
        else
          match repetitionCount? digits with
          | some 0 => .ok (some (.repeated b.byte none, rest))
          | some n => .ok (some (.repeated b.byte (some n), rest))
          | none =>
            halt inv (ascii "invalid repeat count " ++ quoted (printableText inner)
              ++ ascii " in [c*n] construct") 1
    | _, _ => .ok none
  | _ => .ok none

/-- Reads a class, after its opening bracket and mark. -/
def readClass (inv : Invocation) (mark : Char) (ws : List Written) :
    Except Halt (Option (SetElement × List Written)) :=
  match splitAtMark mark ws with
  | none => .ok none
  | some (inner, rest) =>
    let refused (message : Bytes) : Except Halt (Option (SetElement × List Written)) :=
      if startsRepetition ws then .ok none else halt inv message 1
    match mark, inner with
    | ':', [] => halt inv (ascii "missing character class name '[::]'") 1
    | _, [] => halt inv (ascii "missing equivalence class character '[==]'") 1
    | ':', inner =>
      let name := String.ofList (chars (inner.map (·.byte)))
      match classMembers? name with
      | some members => .ok (some (.named name members, rest))
      | none => refused (ascii "invalid character class " ++ quoted (printableText inner))
    | _, [w] => .ok (some (.equals w.byte, rest))
    | _, inner =>
      refused (printableText inner
        ++ ascii ": equivalence class operand must be a single character")

/-- Reads the notation for a class or a repetition, at an opening bracket. -/
def readBracketed (inv : Invocation) (ws : List Written) :
    Except Halt (Option (SetElement × List Written)) := do
  let found ←
    match ws with
    | _ :: m :: rest =>
      if m.is ':' then readClass inv ':' rest
      else if m.is '=' then readClass inv '=' rest
      else pure none
    | _ => pure none
  match found with
  | some element => return some element
  | none => readRepetition inv ws.tail

def readElements (inv : Invocation) : Nat → List Written → Except Halt (List SetElement)
  | 0, _ => .ok []
  | n + 1, a :: b :: c :: rest => do
    let found ← if a.is '[' then readBracketed inv (a :: b :: c :: rest) else pure none
    match found with
    | some (element, rest) => return element :: (← readElements inv n rest)
    | none =>
      if b.is '-' then
        if c.byte < a.byte then
          halt inv (ascii "range-endpoints of '" ++ printable a.byte ++ ascii "-"
            ++ printable c.byte ++ ascii "' are in reverse collating sequence order") 1
        else return .range a.byte c.byte :: (← readElements inv n rest)
      else return .single a.byte :: (← readElements inv n (b :: c :: rest))
  | _, ws => .ok (ws.map fun w => .single w.byte)

/-- Reads a set; the answer also holds the warnings. -/
def readSet (inv : Invocation) (a : Bytes) : Except Halt (List SetElement) × Bytes :=
  let (ws, warnings) := resolve inv a.length (chars a)
  (readElements inv (ws.length + 1) ws, warnings)

/-! ## Replacing -/

/-- A member of a set: the case that its element stands for, and whether the element starts here. -/
structure Member where
  byte : UInt8
  letterCase : Option LetterCase
  isFirst : Bool

def membersOf (set : List SetElement) : List Member :=
  set.flatMap fun e =>
    match e.members with
    | [] => []
    | b :: bs => ⟨b, e.letterCase?, true⟩ :: bs.map fun b => ⟨b, e.letterCase?, false⟩

def bytesOf (set : List SetElement) : Bytes := set.flatMap SetElement.members

/-- What bytes are replaced by. -/
abbrev Substitution := List (UInt8 × UInt8)

/-- Replaces a byte; of several replacements the last one counts. -/
def Substitution.apply (s : Substitution) (b : UInt8) : UInt8 :=
  ((s.reverse.find? (·.1 = b)).map (·.2)).getD b

def skipElement (ms : List Member) : List Member := ms.dropWhile fun m => !m.isFirst

def caseChange (source target : LetterCase) : Substitution :=
  let lower := (classMembers? "lower").getD []
  let upper := (classMembers? "upper").getD []
  match source, target with
  | .lower, .upper => lower.zip upper
  | .upper, .lower => upper.zip lower
  | _, _ => []

/-- How two sets belong together member by member: the replacements, and the members of either set
that are left at the end.  A class of letters in the second set needs one at the same place of the
first set; otherwise there is no answer. -/
def align : Nat → List Member → List Member →
    Option (Substitution × List Member × List Member)
  | 0, ms, ns => some ([], ms, ns)
  | k + 1, m :: ms, n :: ns =>
    match n.isFirst, n.letterCase, m.isFirst, m.letterCase with
    | true, some target, true, some source => do
      let (more, rest) ← align k (skipElement ms) (skipElement ns)
      return (caseChange source target ++ more, rest)
    | true, some _, _, _ => none
    | _, _, _, _ => do
      let (more, rest) ← align k ms ns
      return ((m.byte, n.byte) :: more, rest)
  | _, [], n :: ns => if n.isFirst && n.letterCase.isSome then none else some ([], [], n :: ns)
  | _, ms, [] => some ([], ms, [])

/-- How `tr` works on its sets. -/
structure Transliteration where
  complement : Bool := false
  deletes : Bool := false
  squeezes : Bool := false
  truncates : Bool := false

/-- The bytes of the first set, or all others. -/
def Transliteration.source (o : Transliteration) (set : List SetElement) : Bytes :=
  if o.complement then allBytes.filter fun b => !(bytesOf set).contains b else bytesOf set

/-- Whether an element repeats its byte as often as it is needed. -/
def SetElement.isOpen : SetElement → Bool
  | .repeated _ none => true
  | _ => false

/-- A set whose open repetition is as long as it takes to reach a length. -/
def closeRepetition (length : Nat) (set : List SetElement) : List SetElement :=
  let lacking := length - (bytesOf set).length
  set.map fun e =>
    match e with
    | .repeated b none => .repeated b (some lacking)
    | e => e

/-- The replacements that two sets ask for. -/
def Transliteration.substitution (o : Transliteration) (inv : Invocation)
    (set1 set2 : List SetElement) : Except Halt Substitution := do
  let isNamed (e : SetElement) : Bool :=
    match e with
    | .named _ _ => true
    | _ => false
  if set2.any fun e => match e with
      | .equals _ => true
      | _ => false then
    halt inv (ascii "[=c=] expressions may not appear in string2 when translating") 1
  else if set2.any fun e => isNamed e && e.letterCase?.isNone then
    halt inv (ascii ("when translating, the only character classes that may appear in\n"
      ++ "string2 are 'upper' and 'lower'")) 1
  else
    let source := o.source set1
    let target := membersOf set2
    let aligned :=
      if o.complement then
        some (source.zip (bytesOf set2), (source.drop target.length).map (⟨·, none, true⟩),
          target.drop source.length)
      else
        let members := membersOf set1
        align (members.length + target.length + 1) members target
    match aligned with
    | none => halt inv (ascii "misaligned [:upper:] and/or [:lower:] construct") 1
    | some (pairs, lacking, superfluous) =>
      let pairs ←
        if lacking.isEmpty || o.truncates then pure pairs
        else
          match set2.getLast?, target with
          | none, _ =>
            halt inv (ascii "when not truncating set1, string2 must be non-empty") 1
          | some _, [] =>
            halt inv (ascii "when not truncating set1, string2 must be non-empty") 1
          | some e, _ =>
            match e.filler? with
            | some b => pure (pairs ++ lacking.map fun m => (m.byte, b))
            | none =>
              halt inv (ascii ("when translating with string1 longer than string2,\n"
                ++ "the latter string must not end with a character class")) 1
      let targets := bytesOf set2
      let maps := superfluous.isEmpty && (lacking.isEmpty || !o.truncates)
        && (pairs.map (·.2)).all fun b => some b = targets.head?
      if o.complement && set1.any isNamed && !maps then
        halt inv (ascii ("when translating with complemented character classes,\n"
          ++ "string2 must map all characters in the domain to one")) 1
      else return pairs

/-- Leaves one of several equal neighbours of a set. -/
def squeeze (set : Bytes) (b : Bytes) : Bytes :=
  (b.foldl (fun done x => if done.head? == some x && set.contains x then done else x :: done)
    []).reverse

/-- The input with everything done that the sets ask for. -/
def Transliteration.run (o : Transliteration) (inv : Invocation) (set1 : List SetElement)
    (set2 : Option (List SetElement)) : Except Halt Bytes := do
  let source := o.source set1
  if set1.any SetElement.isOpen then
    halt inv (ascii "the [c*] repeat construct may not appear in string1") 1
  else
    match set2 with
    | none =>
      if o.deletes then return inv.stdin.filter fun b => !source.contains b
      else return squeeze source inv.stdin
    | some set2 =>
      if 1 < (set2.filter SetElement.isOpen).length then
        halt inv (ascii "only one [c*] repeat construct may appear in string2") 1
      else if o.deletes then
        if set2.any SetElement.isOpen then
          halt inv (ascii "the [c*] construct may appear in string2 only when translating") 1
        else return squeeze (bytesOf set2) (inv.stdin.filter fun b => !source.contains b)
      else
        let set2 := closeRepetition source.length set2
        let pairs ← o.substitution inv set1 set2
        let table := allBytes.map pairs.apply
        let out := inv.stdin.map fun b => table.getD b.toNat b
        let extended := bytesOf set2 ++ pairs.map (·.2)
        return if o.squeezes then squeeze extended out else out

def trOptions : List OptionRule :=
  [{ key := "c", letters := ['c', 'C'], names := ["complement"] }, plainOption 'd' ["delete"],
    plainOption 's' ["squeeze-repeats"], plainOption 't' ["truncate-set1"], plainOption 'A' []]
    ++ selfDescription

def Transliteration.checkOperands (o : Transliteration) (inv : Invocation)
    (operands : List Bytes) : Except Halt Unit :=
  let refused (message : Bytes) (rule : String) : Except Halt Unit :=
    .error (.complaint (complain inv message ++ ascii rule ++ hint inv) 1)
  let least := if o.deletes == o.squeezes then 2 else 1
  let most := if o.deletes && !o.squeezes then 1 else 2
  match operands, operands.drop most with
  | [], _ => misuse inv (ascii "missing operand") 1
  | [a], _ =>
    if least = 1 then .ok ()
    else
      refused (ascii "missing operand after " ++ quoted a)
        (if o.squeezes then
          "Two strings must be given when both deleting and squeezing repeats.\n"
        else "Two strings must be given when translating.\n")
  | _, b :: _ =>
    refused (ascii "extra operand " ++ quoted b)
      (if operands.length = 2 then
        "Only one string may be given when deleting without squeezing repeats.\n" else "")
  | _, [] => .ok ()

/-- Replaces, deletes and squeezes bytes of the input. -/
def tr : Tool := guarded Manual.tr fun inv t => do
  let (flags, operands) ← readFlagsInFront trOptions 1 inv
  let o : Transliteration :=
    { complement := flags.has "c", deletes := flags.has "d", squeezes := flags.has "s"
      truncates := flags.has "t" }
  o.checkOperands inv operands
  let (set1, warnings1) := readSet inv (operands.headD [])
  let (set2, warnings2) :=
    match operands.tail with
    | b :: _ =>
      let (set, warnings) := readSet inv b
      (set.map some, warnings)
    | [] => (.ok none, [])
  let warned {α : Type} (warnings : Bytes) (r : Except Halt α) : Except Halt α :=
    r.mapError (·.mapErr (warnings ++ ·))
  let set1 ← warned warnings1 set1
  let out ← warned (warnings1 ++ warnings2) (do o.run inv set1 (← set2))
  let warnings := warnings1 ++ warnings2
  match inv.origin with
  | .unreadable e =>
    throw (.complaint (warnings ++ complain inv (ascii "read error: " ++ ascii e.text)) 1)
  | .endless =>
    return { files := t, err := warnings, further := fun _ => some out, endless := true }
  | _ => return { files := t, out, err := warnings
                  settled := warnings.length + wholeBlocks out.length }

end Relay.Userland
