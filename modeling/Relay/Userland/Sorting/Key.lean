import Relay.Userland.Sorting.Order

/-!
# Sort keys

A key is a part of a line, given by fields and characters, with a way to compare it.
-/

namespace Relay.Userland

structure KeyEnd where
  fields : Nat
  /-- How many characters of the next field lie before it. -/
  characters : Nat
  /-- Blanks in front of the field are not counted. -/
  skipsBlanks : Bool := false

/-- How two texts are compared. -/
structure KeyOrder where
  comparison : List Comparison := []
  /-- Only blanks, letters and digits count. -/
  dictionary : Bool := false
  /-- Only characters that are printed count. -/
  printable : Bool := false
  /-- Small letters count as capital ones. -/
  folds : Bool := false
  reversed : Bool := false

/-- A part of a line and how it is compared.  A key without a stop ends with the line. -/
structure SortKey where
  start : KeyEnd := ⟨0, 0, false⟩
  stop : Option KeyEnd := none
  order : KeyOrder := {}
  /-- The key was written in the older way. -/
  older : Bool := false

/-- Drops one field; without a separator blanks before a field belong to it. -/
def dropField (separator : Option UInt8) (l : Bytes) : Bytes :=
  match separator with
  | some s => (l.dropWhile (· != s)).tail
  | none => (l.dropWhile isBlankByte).dropWhile (!isBlankByte ·)

def dropFields (separator : Option UInt8) (n : Nat) (l : Bytes) : Bytes :=
  (List.range (min n l.length)).foldl (fun l _ => dropField separator l) l

/-- What is left of a line behind one end of a key. -/
def KeyEnd.after (e : KeyEnd) (separator : Option UInt8) (l : Bytes) : Bytes :=
  let rest := dropFields separator e.fields l
  (if e.skipsBlanks then rest.dropWhile isBlankByte else rest).drop e.characters

/-- How many bytes of a line lie before the stop of a key.  A stop without characters lies behind
its last field. -/
def KeyEnd.lengthBefore (e : KeyEnd) (separator : Option UInt8) (l : Bytes) : Nat :=
  if e.characters ≠ 0 then l.length - (e.after separator l).length
  else
    let last := dropFields separator e.fields l
    let field := match separator with
      | some s => last.takeWhile (· != s)
      | none => last.take (last.length - (dropField none last).length)
    l.length - last.length + field.length

def SortKey.part (k : SortKey) (separator : Option UInt8) (l : Bytes) : Bytes :=
  let rest := k.start.after separator l
  match k.stop with
  | none => rest
  | some e => rest.take (e.lengthBefore separator l - (l.length - rest.length))

def KeyOrder.counted (o : KeyOrder) (b : Bytes) : Bytes :=
  let b := if o.dictionary
    then b.filter fun x => isBlankByte x || (Char.ofNat x.toNat).isAlphanum else b
  let b := if o.printable then b.filter fun x => 32 ≤ x.toNat && x.toNat ≤ 126 else b
  if o.folds then octets ((chars b).map Char.toUpper) else b

/-- The way in which texts are compared.  Chance goes before versions. -/
def KeyOrder.way (o : KeyOrder) : Comparison :=
  if o.comparison.contains .random then .random else o.comparison.headD .bytes

/-- Whether numbers are compared. -/
def KeyOrder.isNumeric (o : KeyOrder) : Bool :=
  o.comparison.any fun x => x = .numeric || x = .general || x = .human

/-- Compares two texts; chance depends on some random bytes. -/
def KeyOrder.compare (o : KeyOrder) (salt a b : Bytes) : Ordering :=
  let a := o.counted a
  let b := o.counted b
  let result := match o.way with
    | .numeric => compareNumbers a b
    | .general => compareGeneral a b
    | .human =>
      match compareInts (unitRank a) (unitRank b) with
      | .eq => compareNumbers a b
      | o => o
    | .month => compareInts (monthOf a) (monthOf b)
    | .version => compareFileVersions a b
    | .random => compareRandomly salt a b
    | .bytes => compareBytes a b
  if o.reversed then result.swap else result

/-- Whether nothing special was asked for, but perhaps the reversed order. -/
def SortKey.isUsual (k : SortKey) : Bool :=
  k.order.comparison.isEmpty && !k.order.dictionary && !k.order.printable && !k.order.folds
    && !k.start.skipsBlanks && !(k.stop.any (·.skipsBlanks))

end Relay.Userland
