import Relay.Userland.Manual.Lines
import Relay.Userland.Options
import Relay.Userland.Quantity
import Relay.Userland.Sorting.Key

/-!
# Calls of `sort`

What `sort` is asked for, and how keys and other options are read.
-/

namespace Relay.Userland

structure SortCall where
  keys : List SortKey := []
  /-- How lines are compared by keys that do not tell. -/
  usual : SortKey := {}
  separator : Option UInt8 := none
  unique : Bool := false
  stable : Bool := false
  merges : Bool := false
  zeroEnded : Bool := false
  /-- The order is only checked; the letter tells whether silently. -/
  checks : Option Char := none
  target : Option Bytes := none
  listed : Option Bytes := none
  /-- The file whose bytes decide where chance does. -/
  randomSource : Option Bytes := none
  compressor : Option Bytes := none
  /-- The keys are told about, and shown below every line. -/
  explains : Bool := false

/-- The byte that ends a line. -/
def SortCall.ending (c : SortCall) : UInt8 := if c.zeroEnded then 0 else Text.lineFeed

/-- The exit code of `sort` after a mistake. -/
def sortFailure : Nat := 2

/-- The comparison that a letter asks for. -/
def comparisonOf? : Char → Option Comparison
  | 'g' => some .general
  | 'h' => some .human
  | 'M' => some .month
  | 'n' => some .numeric
  | 'R' => some .random
  | 'V' => some .version
  | _ => none

/-- Adds what a letter says about the order. -/
def KeyOrder.take? (o : KeyOrder) (c : Char) : Option KeyOrder :=
  match c with
  | 'd' => some { o with dictionary := true, printable := false }
  | 'i' => some (if o.dictionary then o else { o with printable := true })
  | 'f' => some { o with folds := true }
  | 'r' => some { o with reversed := true }
  | _ => (comparisonOf? c).map fun x =>
    { o with comparison := o.comparison.filter (· ≠ x) ++ [x] }

/-- Reads the letters behind one end of a key; the flag tells that blanks are skipped. -/
def takeOrderLetters (o : KeyOrder) (skips : Bool) : List Char → KeyOrder × Bool × List Char
  | [] => (o, skips, [])
  | 'b' :: cs => takeOrderLetters o true cs
  | c :: cs =>
    match o.take? c with
    | some o => takeOrderLetters o skips cs
    | none => (o, skips, c :: cs)

/-- A count within a key, and what follows it. -/
def fieldCount? (cs : List Char) : Option (Nat × List Char) :=
  let cs := cs.dropWhile isNumberSpace
  let unsigned := if cs.head? = some '+' then cs.tail else cs
  let digits := unsigned.takeWhile Char.isDigit
  if digits.isEmpty then none else some (numberIn 10 digits, unsigned.drop digits.length)

def readFieldCount (inv : Invocation) (what : String) (cs : List Char) :
    Except Halt (Nat × List Char) :=
  match fieldCount? cs with
  | some found => .ok found
  | none =>
    halt inv (ascii what ++ ascii ": invalid count at start of " ++ quoted (octets cs)) sortFailure

/-- Reads the characters within a field, if a point says that they follow. -/
def readCharacterCount (inv : Invocation) (cs : List Char) :
    Except Halt (Option Nat × List Char) :=
  match cs with
  | '.' :: rest => do
    let (n, rest) ← readFieldCount inv "invalid number after '.'" rest
    return (some n, rest)
  | _ => .ok (none, cs)

/-- Complains about a key. -/
def refuseKey {α : Type} (inv : Invocation) (text : Bytes) (what : String) : Except Halt α :=
  halt inv (ascii what ++ ascii ": invalid field specification " ++ quoted text) sortFailure

def readKey (inv : Invocation) (text : Bytes) : Except Halt SortKey := do
  let bad {α : Type} : String → Except Halt α := refuseKey inv text
  let (field, cs) ← readFieldCount inv "invalid number at field start" (chars text)
  if field = 0 then bad "field number is zero"
  let (character, cs) ← readCharacterCount inv cs
  if character = some 0 then bad "character offset is zero"
  let (order, skips, cs) := takeOrderLetters {} false cs
  let start : KeyEnd := ⟨field - 1, character.getD 1 - 1, skips⟩
  match cs with
  | [] => return { start, order }
  | ',' :: cs =>
    let (field, cs) ← readFieldCount inv "invalid number after ','" cs
    if field = 0 then bad "field number is zero"
    let (character, cs) ← readCharacterCount inv cs
    let (order, skips, cs) := takeOrderLetters order false cs
    if !cs.isEmpty then bad "stray character in field spec"
    return { start, order, stop := some ⟨field - 1, character.getD 0, skips⟩ }
  | _ => bad "stray character in field spec"

/-- The start of a key in the older way: a plus sign, a number of fields, and perhaps a number of
characters. -/
def olderStart? (a : Bytes) : Option SortKey := do
  let '+' :: cs := chars a | none
  let (fields, cs) ← fieldCount? cs
  let (characters, cs) ← match cs with
    | '.' :: cs => fieldCount? cs
    | _ => some (0, cs)
  let (order, skips, []) := takeOrderLetters {} false cs | none
  return { start := ⟨fields, characters, skips⟩, order, older := true }

def SortKey.readOlderStop (inv : Invocation) (k : SortKey) (a : Bytes) : Except Halt SortKey := do
  let (fields, cs) ← readFieldCount inv "invalid number after '-'" (chars a.tail)
  let (characters, cs) ← readCharacterCount inv cs
  let (order, skips, cs) := takeOrderLetters k.order false cs
  if !cs.isEmpty then refuseKey inv a "stray character in field spec"
  let characters := characters.getD 0
  let fields := if characters = 0 then fields - 1 else fields
  return { k with order, stop := some ⟨fields, characters, skips⟩ }

/-- An operand that is a key in the older way, and perhaps the argument behind it, which is then the
stop of the key. -/
def SortCall.olderKey (inv : Invocation) (c : SortCall) (a : Bytes) (rest : List Bytes) :
    Option (Except Halt (SortCall × List Bytes)) :=
  (olderStart? a).map fun k =>
    let add (k : SortKey) : SortCall := { c with keys := c.keys ++ [k] }
    match rest with
    | b :: more =>
      match chars b with
      | '-' :: d :: _ =>
        if d.isDigit then (k.readOlderStop inv b).map fun k => (add k, more)
        else .ok (add k, rest)
      | _ => .ok (add k, rest)
    | [] => .ok (add k, [])

/-- Complains about options that exclude each other. -/
def incompatible {α : Type} (inv : Invocation) (options : Bytes) : Except Halt α :=
  halt inv (ascii "options '-" ++ options ++ ascii "' are incompatible") sortFailure

/-- The letters that ask for an order, with that for skipped blanks if they are. -/
def KeyOrder.letters (o : KeyOrder) (skips : Bool) : Bytes :=
  let has (b : Bool) (letter : String) : Bytes := if b then ascii letter else []
  let way (x : Comparison) : String → Bytes := has (o.comparison.contains x)
  has skips "b" ++ has o.dictionary "d" ++ has o.folds "f" ++ way .general "g" ++ way .human "h"
    ++ has o.printable "i" ++ way .month "M" ++ way .numeric "n" ++ way .random "R"
    ++ has o.reversed "r" ++ way .version "V"

/-- Complains about a key for which several ways to compare were asked for. -/
def SortKey.verify (inv : Invocation) (k : SortKey) : Except Halt Unit :=
  let o := k.order
  let ways := o.comparison.filter fun x => x ≠ .version && x ≠ .random
  let other :=
    o.comparison.any (fun x => x = .version || x = .random) || o.dictionary || o.printable
  if 1 < ways.length + (if other then 1 else 0) then
    incompatible inv ({ o with reversed := false }.letters false)
  else .ok ()

def sortOptions : List OptionRule :=
  [plainOption 'b' ["ignore-leading-blanks"],
    { key := "check", letters := [], names := ["check"], value := .maybe },
    namedOption "compress-program" .always, namedOption "debug" .never,
    plainOption 'd' ["dictionary-order"], plainOption 'f' ["ignore-case"],
    namedOption "files0-from" .always, plainOption 'g' ["general-numeric-sort"],
    plainOption 'i' ["ignore-nonprinting"], valueOption 'k' ["key"], plainOption 'm' ["merge"],
    plainOption 'M' ["month-sort"], plainOption 'n' ["numeric-sort"],
    plainOption 'h' ["human-numeric-sort"], plainOption 'V' ["version-sort"],
    plainOption 'R' ["random-sort"], namedOption "random-source" .always,
    namedOption "sort" .always, valueOption 'o' ["output"], plainOption 'r' ["reverse"],
    plainOption 's' ["stable"], namedOption "batch-size" .always, valueOption 'S' [],
    namedOption "buffer-size" .always,
    valueOption 't' ["field-separator"], valueOption 'T' ["temporary-directory"],
    plainOption 'u' ["unique"], plainOption 'z' ["zero-terminated"],
    namedOption "parallel" .always, valueOption 'y' []]
    ++ letterOptions "cC" ++ selfDescription

/-- Asks for a check of the order. -/
def SortCall.check (inv : Invocation) (c : SortCall) (letter : Char) : Except Halt SortCall :=
  match c.checks with
  | some other => if other = letter then .ok c else incompatible inv (ascii "cC")
  | none => .ok { c with checks := some letter }

/-- Checks an amount of memory, which has no effect.  A percent sign may follow it, or a letter for
bytes. -/
def checkMemory (inv : Invocation) (option : String) (text : Bytes) : Except Halt Unit :=
  let cs := chars text
  let number := cs.dropLast
  let isCount := number.getLast?.any Char.isDigit && (natOf? (octets number)).isSome
  if isCount && ['%', 'b'].any (cs.getLast? = some ·) then .ok ()
  else do
    let n ← readCount inv option (some 10) "EgGkKmMPtTYZ" text sortFailure
    if cs.getLast?.any Char.isDigit && largestWord < n * 1024 then
      halt inv (CountFlaw.tooLarge.message option text) sortFailure

/-- Checks a number of tasks, which has no effect. -/
def checkTasks (inv : Invocation) (text : Bytes) : Except Halt Unit :=
  match countOf (some 10) "" text with
  | .ok 0 => halt inv (ascii "number in parallel must be nonzero") sortFailure
  | .ok _ => .ok ()
  | .error .tooLarge => .ok ()
  | .error flaw => halt inv (flaw.message "--parallel" text) sortFailure

/-- How many files can be merged at once. -/
def greatestBatch : Nat := 1048573

/-- Checks how many files are to be merged at once, which has no effect. -/
def checkBatch (inv : Invocation) (text : Bytes) : Except Halt Unit :=
  let refuse (what bound : Bytes) : Except Halt Unit :=
    .error (.complaint (complain inv what ++ complain inv bound) sortFailure)
  let option := "--batch-size"
  let tooLarge := refuse
    (ascii s!"{option} argument " ++ quoted text ++ ascii " too large")
    (ascii s!"maximum {option} argument with current rlimit is " ++ decimal greatestBatch)
  match countOf (some 10) "" text with
  | .ok n =>
    if n < 2 then
      refuse (ascii s!"invalid {option} argument " ++ quoted text)
        (ascii s!"minimum {option} argument is '2'")
    else if greatestBatch < n then tooLarge
    else .ok ()
  | .error .tooLarge => tooLarge
  | .error flaw => halt inv (flaw.message option text) sortFailure

/-- The words for a check of the order. -/
def checkChoices : List (List String × Char) :=
  [(["quiet", "silent"], 'C'), (["diagnose-first"], 'c')]

/-- The words for ways to compare. -/
def orderChoices : List (List String × Char) :=
  [(["general-numeric"], 'g'), (["human-numeric"], 'h'), (["month"], 'M'), (["numeric"], 'n'),
    (["random"], 'R'), (["version"], 'V')]

def sortOption (inv : Invocation) (c : SortCall) (f : Flag) : Except Halt SortCall := do
  let letter := f.key.toList.headD ' '
  match f.key with
  | "b" =>
    return { c with usual :=
      { c.usual with start := { c.usual.start with skipsBlanks := true } } }
  | "c" => c.check inv 'c'
  | "C" => c.check inv 'C'
  | "check" =>
    match f.value with
    | none => c.check inv 'c'
    | some v => c.check inv (← readChoice inv "--check" checkChoices 1 v)
  | "sort" =>
    let x ← readChoice inv "--sort" orderChoices 1 f.text
    return { c with usual := { c.usual with order := (c.usual.order.take? x).getD {} } }
  | "k" => return { c with keys := c.keys ++ [← readKey inv f.text] }
  | "m" => return { c with merges := true }
  | "o" =>
    if c.target.any (· ≠ f.text) then halt inv (ascii "multiple output files specified") sortFailure
    else return { c with target := some f.text }
  | "s" => return { c with stable := true }
  | "u" => return { c with unique := true }
  | "z" => return { c with zeroEnded := true }
  | "S" => do
    checkMemory inv "-S" f.text
    return c
  | "buffer-size" => do
    checkMemory inv "--buffer-size" f.text
    return c
  | "parallel" => do
    checkTasks inv f.text
    return c
  | "batch-size" => do
    checkBatch inv f.text
    return c
  | "debug" => return { c with explains := true }
  | "random-source" =>
    if c.randomSource.any (· ≠ f.text) then
      halt inv (ascii "multiple random sources specified") sortFailure
    else return { c with randomSource := some f.text }
  | "compress-program" =>
    if c.compressor.any (· ≠ f.text) then
      halt inv (ascii "multiple compress programs specified") sortFailure
    else return { c with compressor := some f.text }
  | "t" =>
    let tab ← match f.text with
      | [] => halt inv (ascii "empty tab") sortFailure
      | [b] => pure b
      | text =>
        if text = ascii "\\0" then pure (0 : UInt8)
        else halt inv (ascii "multi-character tab " ++ quoted text) sortFailure
    if c.separator.any (· ≠ tab) then halt inv (ascii "incompatible tabs") sortFailure
    else return { c with separator := some tab }
  | "files0-from" => return { c with listed := some f.text }
  | _ =>
    match (if f.key.length = 1 then c.usual.order.take? letter else none) with
    | some order => return { c with usual := { c.usual with order } }
    | none => return c

/-- The arguments with something for the option `-y` to ignore: an argument behind it is ignored if
it holds nothing but digits. -/
def withIgnored : List Bytes → List Bytes
  | [] => []
  | a :: rest =>
    if a = ascii "-y" && rest.head?.any (fun b => !(chars b).all Char.isDigit) then
      ascii "-y0" :: withIgnored rest
    else a :: withIgnored rest

/-- Reads what `sort` is asked for, and its operands. -/
def SortCall.read (inv : Invocation) : Except Halt (SortCall × List Bytes) :=
  readMixedCall sortOptions anywhere sortFailure (SortCall.olderKey inv) (fun _ h => h)
    (sortOption inv) {} { inv with args := withIgnored inv.args }

end Relay.Userland
