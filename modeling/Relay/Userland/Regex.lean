import Relay.Userland.Tool
import Std.Data.HashSet

/-!
# Regular expressions

Patterns, matched by collecting the places where a match can end.  `Regex.search` answers the
leftmost match, and of several at that place the longest.

Places that differ only in what groups have matched are kept apart only if the pattern refers back
to its groups; otherwise the first way to reach a place stands for all of them.
-/

namespace Relay.Userland

/-- A pattern. -/
inductive Regex where
  | empty
  /-- One character of a class. -/
  | one (accept : Char → Bool)
  /-- A place between two characters, of which either may be missing. -/
  | between (accept : Option Char → Option Char → Bool)
  | follow (p q : Regex)
  | either (p q : Regex)
  | times (least : Nat) (most : Option Nat) (p : Regex)
  /-- A part whose match is remembered under a number. -/
  | group (number : Nat) (p : Regex)
  /-- What is remembered under a number, once more, up to a change of its letters. -/
  | again (number : Nat) (fold : Char → Char)

instance : Inhabited Regex := ⟨.empty⟩

/-- What a group matched, and where that starts. -/
structure Capture where
  group : Nat
  start : Nat
  text : List Char

/-- A place in a line on the way through a pattern. -/
structure Place where
  /-- The characters before the place, last one first. -/
  before : List Char
  after : List Char
  /-- How many characters stand before the place. -/
  index : Nat := before.length
  /-- What groups matched, latest first. -/
  groups : List Capture := []

namespace Place

def atStart (line : Bytes) : Place := { before := [], after := chars line, index := 0 }

def since (start stop : Place) : List Char :=
  (stop.before.take (stop.index - start.index)).reverse

/-- One character further. -/
def next? (s : Place) : Option Place :=
  match s.after with
  | c :: rest => some { s with before := c :: s.before, after := rest, index := s.index + 1 }
  | [] => none

/-- What a group matched last. -/
def capture? (s : Place) (group : Nat) : Option Capture := s.groups.find? (·.group = group)

/-- Some characters further, if they stand here, up to a change of letters. -/
def past? (s : Place) (fold : Char → Char) (cs : List Char) : Option Place :=
  let here := s.after.take cs.length
  if here.map fold = cs.map fold then
    some { s with before := here.reverse ++ s.before, after := s.after.drop cs.length
                  index := s.index + cs.length }
  else none

/-- Of several places at one index the first one. -/
def distinct (ss : List Place) : List Place :=
  (ss.foldl (fun (seen, kept) s =>
    if seen.contains s.index then (seen, kept) else (seen.insert s.index, s :: kept))
    ((∅ : Std.HashSet Nat), ([] : List Place))).2.reverse

/-- All places that are reached over at most `most` characters of a class, the furthest first. -/
def run (accept : Char → Bool) : List Char → Option Nat → Place → List Place → List Place
  | [], _, s, found => s :: found
  | c :: cs, most, s, found =>
    if most = some 0 || !accept c then s :: found
    else
      run accept cs (most.map (· - 1))
        { s with before := c :: s.before, after := cs, index := s.index + 1 } (s :: found)

end Place

namespace Regex

def refersBack : Regex → Bool
  | .follow p q => p.refersBack || q.refersBack
  | .either p q => p.refersBack || q.refersBack
  | .times _ _ p => p.refersBack
  | .group _ p => p.refersBack
  | .again _ _ => true
  | _ => false

/-- How many groups a pattern has. -/
def groupCount : Regex → Nat
  | .follow p q => p.groupCount + q.groupCount
  | .either p q => p.groupCount + q.groupCount
  | .times _ _ p => p.groupCount
  | .group _ p => p.groupCount + 1
  | _ => 0

/-- Where a repetition stands: the index, and how often it goes on at least and at most. -/
abbrev Milestone := Nat × Nat × Option Nat

/-- Repeats a step: at least `least` times, at most `most` times, longest ways first.  If so asked,
milestones that were seen before are not passed again. -/
def repeated (keepAll : Bool) (step : Place → List Place) :
    Nat → Nat → Option Nat → Place → List Milestone → List Place × List Milestone
  | 0, least, _, s, seen => (if least = 0 then [s] else [], seen)
  | fuel + 1, least, most, s, seen =>
    let here : Milestone := (s.index, least, most)
    if !keepAll && seen.contains here then ([], seen)
    else
      let (further, seen) :=
        if most = some 0 then ([], here :: seen)
        else
          (step s).foldl (fun (found, seen) s' =>
            if s'.index = s.index && least = 0 then (found, seen)
            else
              let (more, seen) := repeated keepAll step fuel (least - 1) (most.map (· - 1)) s' seen
              (found ++ more, seen)) ([], here :: seen)
      (further ++ (if least = 0 then [s] else []), seen)

/-- All places that a match from some place can end at, the preferred ones first. -/
def ends (keepAll : Bool) : Regex → Place → List Place
  | .empty, s => [s]
  | .one accept, s =>
    match s.after with
    | c :: _ => if accept c then s.next?.toList else []
    | [] => []
  | .between accept, s => if accept s.before.head? s.after.head? then [s] else []
  | .follow p q, s => tidy ((p.ends keepAll s).flatMap (q.ends keepAll))
  | .either p q, s => tidy (p.ends keepAll s ++ q.ends keepAll s)
  | .times least most (.one accept), s =>
    let found := Place.run accept s.after most s []
    found.take (found.length - least)
  | .times least most p, s =>
    tidy (repeated keepAll (p.ends keepAll) (s.after.length + least + 1) least most s []).1
  | .group number p, s =>
    (p.ends keepAll s).map fun e => { e with groups := ⟨number, s.index, s.since e⟩ :: e.groups }
  | .again number fold, s => ((s.capture? number).bind fun c => s.past? fold c.text).toList
where
  /-- Leaves out places that are not needed. -/
  tidy (ss : List Place) : List Place :=
    match ss with
    | _ :: _ :: _ => if keepAll then ss else Place.distinct ss
    | _ => ss

def longest? (keepAll : Bool) (p : Regex) (s : Place) : Option Place :=
  (p.ends keepAll s).foldl (fun best e =>
    match best with
    | some b => if b.index < e.index then some e else some b
    | none => some e) none

/-- The leftmost match from a place or one of the next `n` ones on. -/
def searchFrom (keepAll : Bool) (p : Regex) : Nat → Place → Option (Place × Place)
  | 0, s => (p.longest? keepAll s).map fun e => (s, e)
  | n + 1, s =>
    match p.longest? keepAll s with
    | some e => some (s, e)
    | none =>
      match s.next? with
      | some s => p.searchFrom keepAll n s
      | none => none

/-- The leftmost match from a place on: where it starts and where it ends. -/
def search (p : Regex) (s : Place) : Option (Place × Place) :=
  p.searchFrom p.refersBack s.after.length s

/-- Whether a pattern matches somewhere in a line. -/
def isIn (p : Regex) (line : Bytes) : Bool := (p.search (.atStart line)).isSome

end Regex

end Relay.Userland
