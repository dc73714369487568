import Relay.Userland.Sorting.Call

/-!
# Explanations of keys

`sort` can tell what is odd about its keys before it starts, and show below every line which part
of it each key takes.
-/

namespace Relay.Userland

/-! ## Notes about keys -/

/-- The newer way to write a key of the older one, if it is one. -/
def SortKey.olderNote (k : SortKey) : List Bytes :=
  if !k.older then []
  else
    let from' := k.start.fields
    let stopOf (mark : String) : Bytes :=
      match k.stop with
      | some e => ascii mark ++ decimal (e.fields + 1)
      | none => []
    [ascii "obsolescent key " ++ quoted (ascii "+" ++ decimal from' ++ stopOf " -")
      ++ ascii " used; consider " ++ quoted (ascii "-k " ++ decimal (from' + 1) ++ stopOf ",")
      ++ ascii " instead"]

/-- Whether a key stops in a field before the one in which it starts. -/
def SortKey.isVoid (k : SortKey) : Bool := k.stop.any (·.fields < k.start.fields)

/-- Whether blanks in front of fields count although they may not be meant to. -/
def SortKey.countsBlanks (k : SortKey) : Bool :=
  let passes := k.order.isNumeric || k.order.comparison.contains .month
  let withinFirst := k.stop.any fun e => e.fields = 0 && e.characters ≠ 0
  let startCounts := !k.start.skipsBlanks && (!passes || k.start.characters ≠ 0)
  let stopCounts := k.stop.any fun e => !e.skipsBlanks && e.characters ≠ 0
  !k.isVoid && !withinFirst && (startCounts || stopCounts)

/-- Whether a key for numbers covers several fields. -/
def SortKey.spans (k : SortKey) : Bool :=
  k.order.isNumeric && k.stop.all (k.start.fields < ·.fields)

def SortKey.notes (k : SortKey) (number : Nat) (separator : Option UInt8) : List Bytes :=
  let key := ascii "key " ++ decimal number
  k.olderNote
    ++ (if k.isVoid then [key ++ ascii " has zero width and will be ignored"] else [])
    ++ (if separator.isNone && k.countsBlanks then
        [ascii "leading blanks are significant in " ++ key
          ++ ascii "; consider also specifying 'b'"]
      else [])
    ++ (if k.spans then [key ++ ascii " is numeric and spans multiple fields"] else [])

/-- What a separator means within numbers, if it means anything. -/
def separatorMeaning? (keys : List SortKey) (separator : Option UInt8) : Option String :=
  let spanning := keys.filter (·.spans)
  let anyGeneral := spanning.any fun k => k.order.comparison.contains .general
  if spanning.isEmpty then none
  else if separator = some 46 then some "decimal point"
  else if separator = some 45 then some "minus sign"
  else if separator = some 43 && anyGeneral then some "plus sign"
  else none

/-- What was said for all keys and is used by none of them: how texts are compared, and whether
blanks are skipped. -/
def SortCall.unused (c : SortCall) (keys : List SortKey) : KeyOrder × Bool :=
  let o := c.usual.order
  let none' (used : SortKey → Bool) : Bool := !keys.any used
  let blanks := c.usual.start.skipsBlanks
  let order : KeyOrder :=
    { comparison := o.comparison.filter fun x => none' fun k => k.order.comparison.contains x
      dictionary := o.dictionary && none' (·.order.dictionary)
      printable := o.printable && none' (·.order.printable)
      folds := o.folds && none' (·.order.folds)
      reversed := o.reversed && none' (·.order.reversed) }
  let started := !keys.any (·.start.skipsBlanks)
  let stopped := !c.keys.any fun k =>
    k.isUsual && !k.order.reversed || k.stop.any (·.skipsBlanks)
  (order, blanks && !c.keys.isEmpty && (started || stopped))

/-- What is told about options that no key takes over. -/
def SortCall.unusedNotes (c : SortCall) (keys : List SortKey) : List Bytes :=
  let (order, blanks) := c.unused keys
  let settled := c.stable || c.unique
  let shown : KeyOrder := { order with reversed := order.reversed && settled }
  let special := !({ order := order } : SortKey).isUsual || blanks
  let letters := shown.letters blanks
  let ignored :=
    if special || shown.reversed && !keys.isEmpty then
      let many := letters.length ≠ 1
      [(if many then ascii "options" else ascii "option") ++ ascii " '-" ++ letters ++ ascii "' "
        ++ (if many then ascii "are ignored" else ascii "is ignored")]
    else []
  let last := order.reversed && !settled && !keys.isEmpty
  ignored ++ (if last then [ascii "option '-r' only applies to last-resort comparison"] else [])

/-- What is told before lines are sorted by some keys. -/
def SortCall.notes (c : SortCall) (keys : List SortKey) : List Bytes :=
  let own := c.keys.isEmpty
  let aboutKeys := if own then [] else keys.zipIdx.flatMap fun (k, i) => k.notes (i + 1) c.separator
  let meaning? := if own then none else separatorMeaning? keys c.separator
  let sign := quoted c.separator.toList
  let aboutSeparator := meaning?.toList.map fun meaning =>
    ascii "field separator " ++ sign ++ ascii s!" is treated as a {meaning} in numbers"
  let aboutPoint :=
    if keys.any (·.order.isNumeric) && meaning? != some "decimal point" then
      [ascii "note numbers use '.' as a decimal point in this locale"]
    else []
  [ascii "text ordering performed using simple byte comparison"] ++ aboutKeys ++ aboutSeparator
    ++ aboutPoint ++ c.unusedNotes keys

/-! ## Marks below lines -/

def shownWidth (b : Bytes) : Nat := (b.filter fun x => x == 9 || 32 ≤ x.toNat && x ≠ 127).length

def markBelow (offset width : Nat) : Bytes :=
  List.replicate offset 32
    ++ (if width = 0 then ascii "^ no match for key" else List.replicate width 95)
    ++ [Text.lineFeed]

/-- How many bytes of a text the number or name takes that a key compares. -/
def KeyOrder.taken (o : KeyOrder) (text : Bytes) : Nat :=
  let cs := chars text
  match o.way with
  | .month => if monthOf text = 0 then 0 else 3
  | .general => (readNumber? text).elim 0 fun n => text.length - n.rest.length
  | .numeric => number cs
  | .human =>
    let n := number cs
    let lettered := (cs[n]?).any "kKMGTPEZY".toList.contains
    if n ≠ 0 && lettered then n + 1 else n
  | _ => text.length
where
  /-- The length of a decimal number. -/
  number (cs : List Char) : Nat :=
    let (digits, _, rest) := takeDigits Char.isDigit (if cs.head? = some '-' then cs.tail else cs)
    if digits.isEmpty then 0 else cs.length - rest.length

def SortKey.markIn (k : SortKey) (separator : Option UInt8) (l : Bytes) : Bytes :=
  let before := l.length - (k.start.after separator l).length
  let part := k.part separator l
  let passes := k.order.isNumeric || k.order.comparison.contains .month
  let body := if passes then part.dropWhile isBlankByte else part
  let before := before + (part.length - body.length)
  let width := if passes then k.order.taken body else body.length
  markBelow (shownWidth (l.take before)) (shownWidth (body.take width))

/-- A line as it is shown, with the marks of all keys, and of the line as a whole if it decides at
last. -/
def SortCall.explain (c : SortCall) (keys : List SortKey) (l : Bytes) : Bytes :=
  let shown := l.map fun b => if b == 9 then 62 else b
  let whole := keys.isEmpty || !(c.unique || c.stable)
  shown ++ [Text.lineFeed] ++ keys.flatMap (·.markIn c.separator l)
    ++ (if whole then markBelow 0 (shownWidth l) else [])

end Relay.Userland
