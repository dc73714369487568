import Relay.Userland.Sorting.Explaining

/-!
# Sorting lines

`sort` puts lines in order.  Lines are compared by keys, one after another, and at last as a whole.
-/

namespace Relay.Userland

/-- The keys by which lines are compared: one that says nothing special takes over what was said for
all. -/
def SortCall.effectiveKeys (c : SortCall) : List SortKey :=
  if c.keys.isEmpty then (if c.usual.isUsual then [] else [c.usual])
  else c.keys.map fun k =>
    if k.isUsual && !k.order.reversed then
      let skips := c.usual.start.skipsBlanks
      { k with order := c.usual.order, start := { k.start with skipsBlanks := skips }
               stop := k.stop.map fun e => { e with skipsBlanks := skips } }
    else k

def compareByKeys (salt : Bytes) (separator : Option UInt8) (a b : Bytes) :
    List SortKey → Ordering
  | [] => .eq
  | k :: ks =>
    match k.order.compare salt (k.part separator a) (k.part separator b) with
    | .eq => compareByKeys salt separator a b ks
    | o => o

/-- The order of two lines. -/
def SortCall.compare (c : SortCall) (keys : List SortKey) (salt a b : Bytes) : Ordering :=
  let whole := if c.usual.order.reversed then (compareBytes a b).swap else compareBytes a b
  if keys.isEmpty then whole
  else
    match compareByKeys salt c.separator a b keys with
    | .eq => if c.unique || c.stable then .eq else whole
    | o => o

/-- The first of each row of lines that are equal in an order. -/
def distinct (compare : Bytes → Bytes → Ordering) (ls : List Bytes) : List Bytes :=
  (ls.foldl (fun done l =>
    match done with
    | last :: _ => if compare last l = .eq then done else l :: done
    | [] => [l]) []).reverse

/-- The first line that is out of order, with its number; a line that equals the one before it is
so if lines are to differ. -/
def disorder? (outOfOrder : Bytes → Bytes → Bool) : Nat → List Bytes → Option (Nat × Bytes)
  | n, a :: b :: ls =>
    if outOfOrder a b then some (n + 1, b) else disorder? outOfOrder (n + 1) (b :: ls)
  | _, _ => none

/-- Merges two lists; of equal lines that of the first list comes first. -/
def mergeLines (compare : Bytes → Bytes → Ordering) : List Bytes → List Bytes → List Bytes
  | [], bs => bs
  | as, [] => as
  | a :: as, b :: bs =>
    if compare a b = .gt then b :: mergeLines compare (a :: as) bs
    else a :: mergeLines compare as (b :: bs)
termination_by as bs => as.length + bs.length

def sortComplaint (inv : Invocation) (what : String) (name : Bytes) (e : Errno) : Halt :=
  .complaint (complain inv (ascii what ++ ascii ": " ++ shown name ++ ascii ": " ++ ascii e.text))
    sortFailure

/-- The operands of `sort`: those of the call, or those that a file lists. -/
def SortCall.names (c : SortCall) (inv : Invocation) (t : FileTree) (operands : List Bytes) :
    Except Halt (List Bytes) :=
  match c.listed with
  | none => .ok (orDash operands)
  | some list =>
    match operands with
    | extra :: _ =>
      .error <| .complaint (complain inv (ascii "extra operand " ++ quotedName extra)
        ++ ascii "file operands cannot be combined with --files0-from\n" ++ hint inv) sortFailure
    | [] =>
      match readOperand inv t list with
      | .error .isDirectory =>
        halt inv (ascii "cannot read file names from " ++ quotedName list) sortFailure
      | .error e => .error (sortComplaint inv "open failed" list e)
      | .ok b => do
        let names := listedNames b
        if names.isEmpty then halt inv (ascii "no input from " ++ quotedName list) sortFailure
        for (name, i) in names.zipIdx do
          if name = dash then
            halt inv (ascii "when reading file names from stdin, no file name of '-' allowed")
              sortFailure
          if name.isEmpty then
            halt inv (shown list ++ ascii ":" ++ decimal (i + 1)
              ++ ascii ": invalid zero-length file name") sortFailure
        return names

/-- What files hold where the input is not open: the first other file then stands for it as well,
and is at its end. -/
def reuseInput (files : List (Bytes × Except Errno Content)) :
    List (Bytes × Except Errno Content) :=
  files.zipIdx.map fun ((name, content), k) =>
    if name = dash && content.toOption.isNone && (files.take k).any (·.1 ≠ dash) then
      (name, .ok (.bytes []))
    else (name, content)

/-- The random bytes on which an order by chance depends. -/
def SortCall.salt (c : SortCall) (inv : Invocation) (t : FileTree) (keys : List SortKey) :
    Except Halt Bytes :=
  let needed := 16
  match c.randomSource with
  | none => .ok (List.replicate needed 0)
  | some name =>
    if !keys.any fun k => k.order.comparison.contains .random then .ok []
    else
      match readOperand inv t name with
      | .error .isDirectory =>
        halt inv (quoted name ++ ascii ": read error: " ++ ascii Errno.isDirectory.text) sortFailure
      | .error e => .error (sortComplaint inv "open failed" name e)
      | .ok b =>
        if b.length < needed then halt inv (quoted name ++ ascii ": end of file") sortFailure
        else .ok (b.take needed)

/-- The lines of a file, which end in a line feed or in a zero. -/
def SortCall.linesOf (c : SortCall) (b : Bytes) : List Bytes :=
  let ps := pieces (· == c.ending) b
  if ps.getLast? = some [] then ps.dropLast else ps

def SortCall.checkOrder (c : SortCall) (letter : Char) (inv : Invocation) (t : FileTree)
    (compare : Bytes → Bytes → Ordering) (names : List Bytes) : Except Halt Report := do
  if let _ :: extra :: _ := names then
    halt inv (ascii "extra operand " ++ quotedName extra ++ ascii " not allowed with -"
      ++ octets [letter]) sortFailure
  if c.target.isSome then incompatible inv (octets [letter, 'o'])
  let name := names.headD dash
  let outOfOrder (a b : Bytes) : Bool :=
    match compare a b with
    | .gt => true
    | .eq => c.unique
    | .lt => false
  match readOperand inv t name with
  | .error e =>
    let what := if e = .isDirectory || isInput name then "read failed" else "open failed"
    .error (sortComplaint inv what name e)
  | .ok b =>
    let unread := if takesInput inv name then [] else inv.stdin
    match disorder? outOfOrder 1 (c.linesOf b) with
    | none => return { files := t, unread }
    | some (n, l) =>
      let message := inv.title ++ ascii ": " ++ name ++ ascii ":" ++ decimal n
        ++ ascii ": disorder: " ++ l ++ [c.ending]
      return { files := t, code := 1, unread, err := if letter == 'C' then [] else message }

def SortCall.sortFiles (c : SortCall) (inv : Invocation) (t : FileTree)
    (compare : Bytes → Bytes → Ordering) (write : Bytes → Bytes) (names : List Bytes) :
    Except Halt Report := do
  for name in names do
    if !isInput name then
      if let .error e := t.find inv.cwd name then throw (sortComplaint inv "cannot read" name e)
  let prepared : FileTree ← match c.target with
    | some name =>
      match t.openWrite inv.cwd name .append with
      | .ok (descriptor, t) => pure (t.close descriptor)
      | .error e => throw (sortComplaint inv "open failed" name e)
    | none => pure t
  let contents := reuseInput (readAll inv t names)
  match contents.findSome? fun (name, r) => match r with
    | .error e => some (name, e)
    | .ok _ => none with
  | some (name, e) =>
    let what := if e = .badDescriptor then "stat failed" else "read failed"
    let emptied := match c.target.map (t.openWrite inv.cwd · .truncate) with
      | some (.ok (descriptor, t)) => t.close descriptor
      | _ => prepared
    return { files := if c.merges then emptied else prepared, err := (sortComplaint inv what name e).err
             code := sortFailure, unread := inv.stdin }
  | none =>
    let parts := contents.map fun (_, content) =>
      match content with
      | .ok (.bytes b) => c.linesOf b
      | .ok .zeros => c.linesOf (List.replicate endlessPart 0)
      | .error _ => []
    let unread := if names.any (takesInput inv) then [] else inv.stdin
    let ordered := if c.merges then parts.foldl (mergeLines compare) []
      else parts.flatten.mergeSort fun a b => compare a b != .gt
    let kept := if c.unique then distinct compare ordered else ordered
    let report : Report := { files := prepared, out := kept.flatMap write, unread }
    match c.target with
    | none => return report
    | some name =>
      let about (what : String) (e : Errno) : Bytes :=
        ascii what ++ ascii ": " ++ shown name ++ ascii ": " ++ ascii e.text
      let step := if 4096 < report.out.length then "write failed" else "fflush failed"
      return writeTo inv name sortFailure (about "open failed")
        (fun e => complain inv (about step e) ++ complain inv (ascii "write error")) report

/-- Does what was asked for with lines in the order of some keys. -/
def SortCall.run (c : SortCall) (inv : Invocation) (t : FileTree) (keys : List SortKey)
    (names : List Bytes) : Except Halt Report := do
  let compare := c.compare keys (← c.salt inv t keys)
  match c.checks with
  | some letter => c.checkOrder letter inv t compare names
  | none =>
    let write (l : Bytes) : Bytes := if c.explains then c.explain keys l else l ++ [c.ending]
    c.sortFiles inv t compare write names

/-- Prints the lines of files in order, or tells whether they are. -/
def sort : Tool := guarded Manual.sort fun inv t => do
  let (c, operands) ← SortCall.read inv
  let names ← c.names inv t operands
  let keys := c.effectiveKeys
  keys.forM (SortKey.verify inv)
  if !c.explains then c.run inv t keys names
  else
    let other? := c.checks.orElse fun _ => c.target.map fun _ => 'o'
    if let some letter := other? then incompatible inv (octets [letter] ++ ascii " --debug")
    let notes := (c.notes keys).flatMap (complain inv)
    match c.run inv t keys names with
    | .ok r => return { r with told := .err notes :: r.told }
    | .error h => throw (h.mapErr (notes ++ ·))

end Relay.Userland
