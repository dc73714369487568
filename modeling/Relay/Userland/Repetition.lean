import Relay.Userland.Sorting.Call

/-!
# Repeated lines

`uniq` prints one line for each row of equal neighbours, or chooses among them.
-/

namespace Relay.Userland

/-- How the groups of `uniq` are set apart. -/
inductive Separation where
  | nothing
  | before
  | between
  | behind
  | around
  deriving DecidableEq

structure UniqCall where
  counts : Bool := false
  /-- Lines without a repetition are printed. -/
  singles : Bool := true
  /-- Lines with repetitions are printed, once. -/
  firsts : Bool := true
  /-- All lines with repetitions are printed. -/
  repeats : Option Separation := none
  /-- All lines are printed in groups. -/
  groups : Option Separation := none
  chooses : Bool := false
  folds : Bool := false
  fields : Nat := 0
  /-- The number of fields is given by digits as options. -/
  fieldsByDigits : Bool := false
  skipped : Nat := 0
  compared : Option Nat := none
  zeroEnded : Bool := false

def uniqOptions : List OptionRule :=
  [plainOption 'c' ["count"], plainOption 'd' ["repeated"], plainOption 'D' [],
    namedOption "all-repeated" .maybe, namedOption "group" .maybe, plainOption 'i' ["ignore-case"],
    plainOption 'u' ["unique"], valueOption 'f' ["skip-fields"], valueOption 's' ["skip-chars"],
    valueOption 'w' ["check-chars"], plainOption 'z' ["zero-terminated"]]
    ++ letterOptions "0123456789" ++ selfDescription

def uniqCount (inv : Invocation) (what : String) (text : Bytes) : Except Halt Nat :=
  match quantityOf "" 0 largestWord text with
  | .ok n => .ok n
  | .error .noNumber => halt inv (text ++ ascii ": invalid number of " ++ ascii what) 1
  | .error _ => .ok largestWord

/-- How repeated lines can be set apart. -/
def repeatChoices : List (List String × Separation) :=
  [(["none"], .nothing), (["prepend"], .before), (["separate"], .between)]

/-- How groups can be set apart. -/
def groupChoices : List (List String × Separation) :=
  [(["prepend"], .before), (["append"], .behind), (["separate"], .between), (["both"], .around)]

def uniqOption (inv : Invocation) (c : UniqCall) (f : Flag) : Except Halt UniqCall := do
  match f.key with
  | "c" => return { c with counts := true, chooses := true }
  | "d" => return { c with singles := false, chooses := true }
  | "D" => return { c with singles := false, repeats := some .nothing, chooses := true }
  | "all-repeated" =>
    let s ← match f.value with
      | none => pure .nothing
      | some v => readChoice inv "--all-repeated" repeatChoices 1 v
    return { c with singles := false, repeats := some s, chooses := true }
  | "group" =>
    let s ← match f.value with
      | none => pure .between
      | some v => readChoice inv "--group" groupChoices 1 v
    return { c with groups := some s }
  | "i" => return { c with folds := true }
  | "u" => return { c with firsts := false, chooses := true }
  | "f" =>
    return { c with fields := ← uniqCount inv "fields to skip" f.text, fieldsByDigits := false }
  | "s" => return { c with skipped := ← uniqCount inv "bytes to skip" f.text }
  | "w" => return { c with compared := some (← uniqCount inv "bytes to compare" f.text) }
  | "z" => return { c with zeroEnded := true }
  | key =>
    let digit := numberIn 10 key.toList
    return { c with fields := (if c.fieldsByDigits then c.fields * 10 else 0) + digit
                    fieldsByDigits := true }

/-- The part of a line that is compared. -/
def UniqCall.key (c : UniqCall) (l : Bytes) : Bytes :=
  let rest := (dropFields none c.fields l).drop c.skipped
  let rest := match c.compared with
    | some n => rest.take n
    | none => rest
  if c.folds then octets ((chars rest).map Char.toUpper) else rest

/-- The rows of neighbours with equal keys. -/
def rows (key : Bytes → Bytes) (ls : List Bytes) : List (List Bytes) :=
  (ls.foldr (fun l done =>
    let k := key l
    match done with
    | (k', row) :: rest => if k = k' then (k, l :: row) :: rest else (k, [l]) :: done
    | [] => [(k, [l])]) []).map (·.2)

/-- Groups, set apart by empty lines. -/
def separate (s : Separation) (groups : List (List Bytes)) : List Bytes :=
  match s with
  | .nothing => groups.flatten
  | .before => groups.flatMap ([] :: ·)
  | .between => ([[]] : List Bytes).intercalate groups
  | .behind => if groups.isEmpty then [] else ([[]] : List Bytes).intercalate groups ++ [[]]
  | .around => if groups.isEmpty then [] else groups.flatMap ([] :: ·) ++ [[]]

/-- The lines that are printed of some rows. -/
def UniqCall.select (c : UniqCall) (rs : List (List Bytes)) : List Bytes :=
  match c.groups, c.repeats with
  | some s, _ => separate s rs
  | none, some s =>
    separate s ((rs.filter (1 < ·.length)).map fun r => if c.firsts then r else r.dropLast)
  | none, none =>
    (rs.filter fun r => if r.length = 1 then c.singles else c.firsts).map fun r =>
      (if c.counts then padLeft 7 (decimal r.length) ++ [32] else []) ++ r.headD []

/-- The operands of `uniq` without those that tell by a plus sign how many bytes to skip. -/
def takeSkips (c : UniqCall) : List Bytes → UniqCall × List Bytes
  | [] => (c, [])
  | a :: rest =>
    match (if a.head? = some 43 then natOf? a.tail else none) with
    | some n => takeSkips { c with skipped := n } rest
    | none =>
      let (c, rest) := takeSkips c rest
      (c, a :: rest)

/-- Whether two paths lead to the same place. -/
def areSame (t : FileTree) (cwd : Location) (a b : Bytes) : Bool :=
  match t.find cwd a, t.find cwd b with
  | .ok (l, _), .ok (k, _) => l = k
  | _, _ => false

/-- Prints one line for each row of equal neighbours.  A file that is to hold the result is emptied
before it is read. -/
def uniq : Tool := guarded Manual.uniq fun inv t => do
  let (c, operands) ← readCall uniqOptions anywhere 1 (uniqOption inv) {} inv
  let (c, operands) := takeSkips c operands
  if let _ :: _ :: extra :: _ := operands then
    misuse inv (ascii "extra operand " ++ quoted extra) 1
  if c.groups.isSome && c.chooses then
    misuse inv (ascii "--group is mutually exclusive with -c/-d/-D/-u") 1
  if c.counts && c.repeats.isSome then
    misuse inv (ascii "printing all duplicated lines and repeat counts is meaningless") 1
  let refused (name : Bytes) (e : Errno) : Bytes := shown name ++ ascii ": " ++ ascii e.text
  let name := operands.headD dash
  let target? := operands[1]?.filter (· ≠ dash)
  let finish (report : Report) : Report := match target? with
    | some target => writeTo inv target 1 (refused target)
        (fun e => complain inv (ascii "write error: " ++ ascii e.text)) report
    | none => report
  match readOperand inv t name with
  | .error e =>
    if e = .isDirectory || name = dash then
      return finish { files := t, code := 1
                      err := complain inv (ascii "error reading " ++ quotedName name) }
    else halt inv (refused name e) 1
  | .ok b =>
    let ending : UInt8 := if c.zeroEnded then 0 else Text.lineFeed
    let emptied := name ≠ dash && target?.any fun target => areSame t inv.cwd name target
    let ps := pieces (· == ending) (if emptied then [] else b)
    let goesOn := inv.more && takesInput inv name
    let ls := if goesOn || ps.getLast? = some [] then ps.dropLast else ps
    let rs := rows c.key ls
    let rs := if goesOn then rs.dropLast else rs
    let out := (c.select rs).flatMap (· ++ [ending])
    return finish {
      files := t, out, unread := if takesInput inv name then [] else inv.stdin
      settled := if operands.tail.isEmpty && c.groups.isNone && c.repeats.isNone then
        wholeBlocks out.length else 0 }

end Relay.Userland
