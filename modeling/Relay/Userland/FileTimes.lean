import Relay.Calendar.Phrase
import Relay.Userland.Manual.Names
import Relay.Userland.Options

/-!
# Times of files

`touch` sets when files were read and changed: to the present, to a date that is written in words or
in a compact form, or to the times of another file.  A file that does not exist is created.
-/

namespace Relay.Userland

/-- Which times are set, and to what. -/
structure TimeCall where
  setsAccess : Bool := false
  setsChange : Bool := false
  creates : Bool := true
  /-- The file itself is meant: nothing is opened or created. -/
  itself : Bool := false
  phrase : Option Bytes := none
  reference : Option Bytes := none
  stamp : Option Moment := none

def touchOptions : List OptionRule :=
  [namedOption "time" .always, plainOption 'c' ["no-create"], valueOption 'd' ["date"],
    valueOption 'r' ["reference"], plainOption 'h' ["no-dereference"], plainOption 'a' [],
    plainOption 'm' [], plainOption 'f' [], valueOption 't' []]
    ++ selfDescription

/-- The words for the time that is set: whether it is that of the last reading. -/
def timeChoices : List (List String × Bool) :=
  [(["atime", "access", "use"], true), (["mtime", "modify"], false)]

/-- The complaint about a date. -/
def invalidDate {α : Type} (inv : Invocation) (text : Bytes) : Except Halt α :=
  halt inv (ascii "invalid date format " ++ quoted text) 1

/-- Takes an option into account. -/
def TimeCall.take (inv : Invocation) (t : FileTree) (c : TimeCall) (f : Flag) :
    Except Halt TimeCall := do
  match f.key with
  | "a" => return { c with setsAccess := true }
  | "m" => return { c with setsChange := true }
  | "time" =>
    if ← readChoice inv "--time" timeChoices 1 f.text then return { c with setsAccess := true }
    else return { c with setsChange := true }
  | "c" => return { c with creates := false }
  | "h" => return { c with itself := true }
  | "d" => return { c with phrase := some f.text }
  | "r" => return { c with reference := some f.text }
  | "t" =>
    match Calendar.ofStamp? t.now (chars f.text) with
    | some m => return { c with stamp := some m }
    | none => invalidDate inv f.text
  | _ => return c

/-- The times that are set: of the last reading and of the last change. -/
abbrev FileTimes := Moment × Moment

/-- The moment that a phrase stands for, seen from some other moment. -/
def phraseMoment (inv : Invocation) (present : Moment) (text : Bytes) : Except Halt Moment :=
  match Calendar.Phrase.moment? present (chars text) with
  | some m => .ok m
  | none => invalidDate inv text

/-- The times that a call asks for; those of the last tick if it asks for none. -/
def TimeCall.times (c : TimeCall) (inv : Invocation) (t : FileTree) : Except Halt FileTimes := do
  match c.reference with
  | some name =>
    match t.find inv.cwd name with
    | .ok (l, e) =>
      let a := t.attributes l e
      match c.phrase with
      | none => return (a.accessed, a.modified)
      | some text =>
        let accessed ← if c.setsAccess then phraseMoment inv a.accessed text else pure a.accessed
        let modified ← if c.setsChange then phraseMoment inv a.modified text else pure a.modified
        return (accessed, modified)
    | .error e =>
      halt inv (ascii "failed to get attributes of " ++ quotedName name ++ ascii ": "
        ++ ascii e.text) 1
  | none =>
    match c.phrase, c.stamp with
    | some text, _ =>
      let m ← phraseMoment inv t.now text
      return if m = t.now then (t.stamp, t.stamp) else (m, m)
    | none, some m => return (m, m)
    | none, none => return (t.stamp, t.stamp)

def TimeCall.apply (c : TimeCall) (times : FileTimes) (t : FileTree) (a : Attributes) :
    Attributes :=
  { a with
      accessed := if c.setsAccess then times.1 else a.accessed
      modified := if c.setsChange then times.2 else a.modified
      changed := t.stamp }

/-- Sets the times of the file that a name stands for; complaints are added to earlier ones. -/
def TimeCall.touch (c : TimeCall) (inv : Invocation) (times : FileTimes)
    (before : FileTree × Bytes) (name : Bytes) : FileTree × Bytes :=
  let (t, err) := before
  let fail (what : String) (e : Errno) : FileTree × Bytes :=
    (t, err ++ complain inv (ascii what ++ quotedName name ++ ascii ": " ++ ascii e.text))
  if name = dash then
    match inv.outFile, inv.others.lookup 1 with
    | some number, _ =>
      (t.changeRecord number fun r => { r with attributes := c.apply times t r.attributes }, err)
    | none, some none => if c.creates then fail "setting times of " .badDescriptor else (t, err)
    | none, _ => (t, err)
  else
    let set (t : FileTree) (l : Location) (e : Entry) : FileTree :=
      t.changeAttributes l e (c.apply times t)
    match t.find inv.cwd name with
    | .ok (l, e) => (set t l e, err)
    | .error e =>
      if !c.creates then (if e = .noEntry then (t, err) else fail "setting times of " e)
      else if c.itself then fail "setting times of " e
      else
        match t.openWrite inv.cwd name .append with
        | .ok (descriptor, t) =>
          let t := t.close descriptor
          match t.find inv.cwd name with
          | .ok (l, e) => (set t l e, err)
          | .error _ => (t, err)
        | .error .isDirectory => fail "setting times of " e
        | .error refusal => fail "cannot touch " refusal

/-- Sets the times of files. -/
def touch : Tool := guarded Manual.touch fun inv t => do
  let (c, operands) ← readCall touchOptions anywhere 1 (TimeCall.take inv t) {} inv
  let both := c.setsAccess == c.setsChange
  let c := if both then { c with setsAccess := true, setsChange := true } else c
  if c.stamp.isSome && (c.reference.isSome || c.phrase.isSome) then
    misuse inv (ascii "cannot specify times from more than one source") 1
  else
    let times ← c.times inv t
    if operands.isEmpty then misuse inv (ascii "missing file operand") 1
    else
      let (t, err) := operands.foldl (c.touch inv times) (t, [])
      return { files := t, err, code := if err.isEmpty then 0 else 1, unread := inv.stdin }

end Relay.Userland
