import Relay.Userland.Regex

/-!
# Patterns whose choices are tried in order

A pattern of this kind is a recipe: its alternatives are tried from left to right, its repetitions
say whether they go on as long or as briefly as they can, and the first way through the whole of it
is the match.  A part of a pattern is therefore run together with what has to follow it: if that
fails, the part goes on to its next way.

Parts may look ahead or behind, may give up their other ways once they have matched, and may call a
group of the pattern again.  Some parts bar the way back: if what follows them fails, no other way is
tried.
-/

namespace Relay.Userland

/-- A pattern. -/
inductive OrderedRegex where
  | empty
  /-- One character of a class. -/
  | one (accept : Char → Bool)
  /-- A place that passes a test. -/
  | spot (accept : Place → Bool)
  /-- The place where the search began. -/
  | origin
  | follow (p q : OrderedRegex)
  | either (p q : OrderedRegex)
  /-- At least `least` and at most `most` times, as often as possible if it is eager. -/
  | times (least : Nat) (most : Option Nat) (eager : Bool) (p : OrderedRegex)
  | group (number : Nat) (p : OrderedRegex)
  /-- What is remembered under a number, once more, up to a change of its letters. -/
  | again (number : Nat) (fold : Char → Char)
  /-- A part of which only the first way counts. -/
  | alone (p : OrderedRegex)
  | ahead (wanted : Bool) (p : OrderedRegex)
  /-- Whether a part of so many characters matches up to here. -/
  | behind (wanted : Bool) (width : Nat) (p : OrderedRegex)
  /-- The first part if a group has matched, and the second one if it has not. -/
  | given (number : Nat) (p q : OrderedRegex)
  /-- The second part if the first one matches, and the third one if it does not. -/
  | whether (test p q : OrderedRegex)
  /-- The group of a number, once more; number zero is the whole pattern. -/
  | call (number : Nat)
  /-- What was matched so far is no part of the match. -/
  | restart
  /-- The match ends here. -/
  | finish
  /-- There is no way back from here; the search goes on behind the start, here, or not at all. -/
  | bar (resume : Option Bool)

instance : Inhabited OrderedRegex := ⟨.empty⟩

namespace OrderedRegex

/-- A place on the way through a pattern. -/
structure Trail where
  place : Place
  /-- Where the search began. -/
  origin : Nat
  /-- Where the match starts, if that is not where the way began. -/
  start : Option Place := none

/-- What becomes of a way through a pattern. -/
inductive Answer where
  | found (t : Trail)
  | failed
  /-- No other way may be tried; the search goes on from an index, if it does. -/
  | barred (resume : Option Nat)

/-- The first answer, or if it failed the second. -/
def Answer.orElse (a : Answer) (b : Unit → Answer) : Answer :=
  match a with
  | .failed => b ()
  | a => a

/-- What has to follow a part. -/
abbrev Onward := Trail → Answer

def firstOf (t : Trail) (onward : Onward) : List Place → Answer
  | [] => .failed
  | s :: ss => (onward { t with place := s }).orElse fun _ => firstOf t onward ss

/-- Repeats a step.  A step that gets nowhere is the last one. -/
def repeated (step : Trail → Onward → Answer) (eager : Bool) :
    Nat → Nat → Option Nat → Trail → Onward → Answer
  | 0, least, _, t, onward => if least = 0 then onward t else .failed
  | fuel + 1, least, most, t, onward =>
    let further (_ : Unit) : Answer :=
      if most = some 0 then .failed
      else
        step t fun t' =>
          if least = 0 && t'.place.index = t.place.index then onward t'
          else repeated step eager fuel (least - 1) (most.map (· - 1)) t' onward
    if least ≠ 0 then further ()
    else if eager then (further ()).orElse fun _ => onward t
    else (onward t).orElse further

/-- A place some characters before another one. -/
def back? (s : Place) (n : Nat) : Option Place :=
  if s.index < n then none
  else
    some { s with before := s.before.drop n, after := (s.before.take n).reverse ++ s.after
                  index := s.index - n }

/-- Goes through a pattern and then onward.  The first argument runs the group of a number. -/
def run (group : Nat → Trail → Onward → Answer) : OrderedRegex → Trail → Onward → Answer
  | .empty, t, onward => onward t
  | .one accept, t, onward =>
    match t.place.after, t.place.next? with
    | c :: _, some s => if accept c then onward { t with place := s } else .failed
    | _, _ => .failed
  | .spot accept, t, onward => if accept t.place then onward t else .failed
  | .origin, t, onward => if t.place.index = t.origin then onward t else .failed
  | .follow p q, t, onward => p.run group t fun t => q.run group t onward
  | .either p q, t, onward => (p.run group t onward).orElse fun _ => q.run group t onward
  | .times least most eager (.one accept), t, onward =>
    let found := Place.run accept t.place.after most t.place []
    let found := found.take (found.length - least)
    firstOf t onward (if eager then found else found.reverse)
  | .times least most eager p, t, onward =>
    repeated (p.run group) eager (t.place.after.length + least + 1) least most t onward
  | .group number p, t, onward =>
    p.run group t fun e =>
      let groups := ⟨number, t.place.index, t.place.since e.place⟩ :: e.place.groups
      onward { e with place := { e.place with groups } }
  | .again number fold, t, onward =>
    match (t.place.capture? number).bind fun c => t.place.past? fold c.text with
    | some s => onward { t with place := s }
    | none => .failed
  | .alone p, t, onward =>
    match p.run group t .found with
    | .found e => onward e
    | other => other
  | .ahead wanted p, t, onward => asked wanted (p.run group t .found) t onward
  | .behind wanted width p, t, onward =>
    let answer :=
      match back? t.place width with
      | none => .failed
      | some s =>
        p.run group { t with place := s } fun e =>
          if e.place.index = t.place.index then .found e else .failed
    asked wanted answer t onward
  | .given number p q, t, onward =>
    if (t.place.capture? number).isSome then p.run group t onward else q.run group t onward
  | .whether test p q, t, onward =>
    match test.run group t .found with
    | .found e => p.run group e onward
    | _ => q.run group t onward
  | .call number, t, onward =>
    group number t fun e =>
      onward { e with place := { e.place with groups := t.place.groups } }
  | .restart, t, onward => onward { t with start := some t.place }
  | .finish, t, _ => .found t
  | .bar resume, t, onward =>
    (onward t).orElse fun _ =>
      .barred (resume.map fun here => if here then t.place.index else 0)
where
  /-- Goes on from where a question was asked if the answer is the wanted one; what groups matched
  is kept. -/
  asked (wanted : Bool) (answer : Answer) (t : Trail) (onward : Onward) : Answer :=
    match answer, wanted with
    | .found e, true => onward { t with place := { t.place with groups := e.place.groups } }
    | .found _, false => .failed
    | _, true => .failed
    | _, false => onward t

def groups : OrderedRegex → List (Nat × OrderedRegex)
  | .follow p q => p.groups ++ q.groups
  | .either p q => p.groups ++ q.groups
  | .times _ _ _ p => p.groups
  | .group number p => (number, .group number p) :: p.groups
  | .alone p => p.groups
  | .ahead _ p => p.groups
  | .behind _ _ p => p.groups
  | .given _ p q => p.groups ++ q.groups
  | .whether test p q => test.groups ++ p.groups ++ q.groups
  | _ => []

/-- Runs the group of a number; groups may call each other at most so deep. -/
def runGroup (table : List (Nat × OrderedRegex)) : Nat → Nat → Trail → Onward → Answer
  | 0, _, _, _ => .failed
  | depth + 1, number, t, onward =>
    match table.lookup number with
    | some p => p.run (runGroup table depth) t onward
    | none => .failed

/-- The first match from a place or one of the next `n` ones on: where it starts and ends. -/
def searchFrom (table : List (Nat × OrderedRegex)) (p : OrderedRegex) (origin : Nat) :
    Nat → Nat → Place → Option (Place × Place)
  | n, skipped + 1, s =>
    match n, s.next? with
    | n + 1, some s => searchFrom table p origin n skipped s
    | _, _ => none
  | n, 0, s =>
    let go (skipped : Nat) : Option (Place × Place) :=
      match n, s.next? with
      | n + 1, some s => searchFrom table p origin n skipped s
      | _, _ => none
    match p.run (runGroup table (s.after.length + 100)) { place := s, origin } .found with
    | .found e => some (e.start.getD s, e.place)
    | .failed => go 0
    | .barred none => none
    | .barred (some k) => go (k - s.index - 1)

/-- The first match from a place on: where it starts and where it ends. -/
def search (p : OrderedRegex) (s : Place) : Option (Place × Place) :=
  searchFrom ((0, p) :: p.groups) p s.index s.after.length 0 s

/-- How many characters a pattern matches, if that is always the same number. -/
def width? : OrderedRegex → Option Nat
  | .one _ => some 1
  | .follow p q => do return (← p.width?) + (← q.width?)
  | .either p q => same p.width? q.width?
  | .times least most _ p => if most = some least then p.width?.map (least * ·) else none
  | .group _ p => p.width?
  | .alone p => p.width?
  | .given _ p q => same p.width? q.width?
  | .whether _ p q => same p.width? q.width?
  | .again _ _ => none
  | .call _ => none
  | _ => some 0
where
  /-- A width that two parts have in common. -/
  same (n m : Option Nat) : Option Nat := if n = m then n else none

end OrderedRegex

end Relay.Userland
