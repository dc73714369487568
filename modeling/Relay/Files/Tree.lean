import Relay.Calendar.Basic
import Relay.Files.Path

/-!
# A file tree

Directories, regular files, devices and programs under one root.  Names lead to entries and a
regular file's entry to its number, under which its record is kept: a file that is removed while it
is open keeps its content for those who hold it open.  The open files are part of the tree; each has
a descriptor, the position of its entry in the table, which is never used again.

The tree has a clock.  Whatever makes or changes a file stamps it with the time of the clock, which
is that of the system's ticks: what happens within one tick happens at the same time.

Looking up a path follows it component by component: a missing component, one that is no directory
and one that is too long are told apart.
-/

namespace Relay

/-- Devices that can be read and written like files. -/
inductive Device where
  /-- Swallows everything and holds nothing. -/
  | null
  /-- Swallows everything and holds zeros without end. -/
  | zero
  /-- Refuses every byte for lack of space, and holds zeros without end. -/
  | full
  deriving DecidableEq, Repr

/-- What is known of a file beside what it holds. -/
structure Attributes where
  /-- Who may read, write and run the file: a bit for each. -/
  mode : Nat
  /-- When it was last read, as far as that is kept. -/
  accessed : Moment := Calendar.beginning
  /-- When what it holds was last changed. -/
  modified : Moment := Calendar.beginning
  /-- When anything about it was last changed. -/
  changed : Moment := Calendar.beginning
  deriving DecidableEq, Repr

/-- What is kept of a regular file. -/
structure FileRecord where
  content : Bytes
  attributes : Attributes
  deriving Repr

/-- What a name stands for. -/
inductive Entry where
  | directory
  | regular (number : Nat)
  | device (device : Device)
  | program (name : Bytes)
  deriving DecidableEq, Repr

/-- An open file: what was opened, and where the next bytes come from or go. -/
structure OpenFile where
  entry : Entry
  /-- Every write goes to the end of the file. -/
  appends : Bool := false
  /-- Where the next bytes are read or written, unless they are written at the end. -/
  offset : Nat := 0
  reads : Bool := false
  writes : Bool := true
  deriving DecidableEq, Repr

/-- How a file is opened for writing. -/
inductive OpenMode where
  /-- Create or empty the file. -/
  | truncate
  /-- Create the file or add to its end. -/
  | append
  /-- Create the file or leave what it holds; what is there can be read. -/
  | update
  deriving DecidableEq, Repr

/-- What an installed program tells about its makers. -/
structure Imprint where
  maker : String := ""
  /-- The lines about its version. -/
  version : List String := []
  /-- Where there is more to read about it. -/
  footer : List String := []
  /-- Where to send reports, which is not told after a wrong call. -/
  contact : List String := []
  deriving Repr

/-- All files and all open files. -/
structure FileTree where
  /-- The entries below the root. -/
  entries : List (Location × Entry) := []
  /-- What is kept of the regular files, by number. -/
  records : List FileRecord := []
  /-- The attributes of the directories that were changed. -/
  folders : List (Location × Attributes) := []
  /-- The open files, by descriptor; a closed one leaves its place empty. -/
  openFiles : List (Option OpenFile) := []
  /-- The microseconds since the beginning. -/
  clock : Nat := 0
  /-- The permissions that a new file lacks. -/
  mask : Nat := 18
  /-- The imprints of the installed programs. -/
  imprints : List (String × Imprint) := []
  deriving Repr

/-- What a file holds for a reader. -/
inductive Content where
  | bytes (b : Bytes)
  /-- Zeros without end. -/
  | zeros
  deriving DecidableEq, Repr

namespace FileTree

/-! ## Looking up -/

/-- The entry at a location; the root is a directory. -/
def entry? (t : FileTree) (l : Location) : Option Entry :=
  if l.isEmpty then some .directory else t.entries.lookup l

def content (t : FileTree) (number : Nat) : Bytes :=
  ((t.records[number]?).map (·.content)).getD []

/-- Follows directories from one location to another. -/
def descend (t : FileTree) (l : Location) : List FileName → Except Errno Location
  | [] => .ok l
  | c :: cs =>
    if c = Path.here then t.descend l cs
    else if c = Path.up then t.descend l.dropLast cs
    else if Path.maxName < c.length then .error .nameTooLong
    else
      match t.entry? (l ++ [c]) with
      | some .directory => t.descend (l ++ [c]) cs
      | some _ => .error .notDirectory
      | none => .error .noEntry

/-- Where a path ends: in a directory reached through the path itself, or at a name, which may or
may not exist, in a directory. -/
inductive Destination where
  | folder (l : Location)
  | named (parent : Location) (name : FileName)
  deriving DecidableEq, Repr

/-- Follows a path up to its last component. -/
def destination (t : FileTree) (cwd : Location) (path : Bytes) : Except Errno Destination :=
  if path.isEmpty then .error .noEntry
  else if Path.maxPath ≤ path.length then .error .nameTooLong
  else
    let start := if Path.isAbsolute path then [] else cwd
    match (Path.components path).reverse with
    | [] => .ok (.folder start)
    | last :: before => do
      let parent ← t.descend start before.reverse
      if last = Path.here then return .folder parent
      else if last = Path.up then return .folder parent.dropLast
      else if Path.maxName < last.length then throw .nameTooLong
      else return .named parent last

def find (t : FileTree) (cwd : Location) (path : Bytes) : Except Errno (Location × Entry) := do
  match ← t.destination cwd path with
  | .folder l =>
    match t.entry? l with
    | some e => return (l, e)
    | none => throw .noEntry
  | .named parent name =>
    match t.entry? (parent ++ [name]) with
    | none => throw .noEntry
    | some .directory => return (parent ++ [name], .directory)
    | some e => if Path.endsInSlash path then throw .notDirectory else return (parent ++ [name], e)

def findDirectory (t : FileTree) (cwd : Location) (path : Bytes) : Except Errno Location := do
  match ← t.find cwd path with
  | (l, .directory) => return l
  | _ => throw .notDirectory

/-- What the file of a program starts with; no text starts this way. -/
def programImage : Bytes := [0x7F, 0x45, 0x4C, 0x46, 2, 1, 1, 0, 0, 0, 0, 0, 0, 0, 0, 0, 0xB8, 0xFF]

def read (t : FileTree) (cwd : Location) (path : Bytes) : Except Errno Content := do
  match (← t.find cwd path).2 with
  | .directory => throw .isDirectory
  | .regular number => return .bytes (t.content number)
  | .device .null => return .bytes []
  | .device _ => return .zeros
  | .program _ => return .bytes programImage

/-- Reads a file that has an end, given by a text. -/
def readBytes (t : FileTree) (cwd : Location) (path : Text) : Except IoError Bytes := do
  match ← (t.read cwd (← Path.ofText path)).mapError .os with
  | .bytes b => return b
  | .zeros => return []

def readText (t : FileTree) (cwd : Location) (path : Text) : Except IoError Text := do
  match Text.ofUtf8? (← t.readBytes cwd path) with
  | some text => return text
  | none => throw .notUtf8

/-- The order of names: byte by byte, a shorter name before its extensions. -/
def nameBefore : Bytes → Bytes → Bool
  | [], _ => true
  | _ :: _, [] => false
  | a :: as, b :: bs => if a = b then nameBefore as bs else a.toNat < b.toNat

/-- The names in a directory, in order. -/
def names (t : FileTree) (l : Location) : List FileName :=
  (t.entries.filterMap fun (loc, _) =>
    if loc.dropLast = l then loc.getLast? else none).mergeSort nameBefore

/-- The regular files below a location with their contents, and the empty directories without
one; names are relative to the location. -/
def listing (t : FileTree) (l : Location) : List (Location × Option Bytes) :=
  t.entries.filterMap fun (loc, e) =>
    if l.isPrefixOf loc && loc.length != l.length then
      match e with
      | .regular number => some (loc.drop l.length, some (t.content number))
      | .directory =>
        if t.entries.any (fun (other, _) => loc.isPrefixOf other && other.length != loc.length)
        then none else some (loc.drop l.length, none)
      | _ => none
    else none

/-! ## Times and permissions -/

/-- How many microseconds a tick of the system lasts. -/
def tick : Nat := 4000

/-- The time of the clock. -/
def now (t : FileTree) : Moment := Calendar.beginning + t.clock * 1000

/-- The time that files are stamped with: that of the last tick. -/
def stamp (t : FileTree) : Moment := Calendar.beginning + t.clock / tick * tick * 1000

/-- The attributes of a new file that may have some permissions at most. -/
def fresh (t : FileTree) (most : Nat) : Attributes :=
  { mode := Nat.land most (511 - t.mask % 512), accessed := t.stamp, modified := t.stamp
    changed := t.stamp }

/-- Whether everyone may create files in a directory before any change. -/
def isShared (l : Location) : Bool :=
  [[[116, 109, 112]], [[118, 97, 114], [116, 109, 112]]].contains l

/-- The attributes of what an entry at a location stands for. -/
def attributes (t : FileTree) (l : Location) : Entry → Attributes
  | .directory => (t.folders.lookup l).getD { mode := if isShared l then 1023 else 493 }
  | .regular number => ((t.records[number]?).map (·.attributes)).getD { mode := 420 }
  | .device _ => { mode := 438 }
  | .program _ => { mode := 493 }

def changeFolder (t : FileTree) (l : Location) (f : Attributes → Attributes) : FileTree :=
  { t with folders := (l, f (t.attributes l .directory)) :: t.folders.filter (·.1 ≠ l) }

def changeRecord (t : FileTree) (number : Nat) (f : FileRecord → FileRecord) : FileTree :=
  match t.records[number]? with
  | some r => { t with records := t.records.set number (f r) }
  | none => t

/-- Attributes of what was changed just now. -/
def renewed (t : FileTree) (a : Attributes) : Attributes :=
  { a with modified := t.stamp, changed := t.stamp }

/-- Changes the attributes of what an entry at a location stands for. -/
def changeAttributes (t : FileTree) (l : Location) (e : Entry) (f : Attributes → Attributes) :
    FileTree :=
  match e with
  | .directory => t.changeFolder l f
  | .regular number => t.changeRecord number fun r => { r with attributes := f r.attributes }
  | _ => t

/-! ## Changing names -/

/-- Puts an entry at a location, which changes the directory there. -/
def setEntry (t : FileTree) (l : Location) (e : Entry) : FileTree :=
  let entries := t.entries.filter (·.1 ≠ l) ++ [(l, e)]
  { t with entries }.changeFolder l.dropLast t.renewed

def addFile (t : FileTree) (l : Location) (content : Bytes) : FileTree :=
  { t.setEntry l (.regular t.records.length) with
      records := t.records ++ [{ content, attributes := t.fresh 438 }] }

def addDirectory (t : FileTree) (l : Location) : FileTree :=
  (List.range l.length).foldl
    (fun t n =>
      let up := l.take (n + 1)
      if (t.entry? up).isNone then
        (t.setEntry up .directory).changeFolder up fun _ => t.fresh 511
      else t) t

/-- Removes a file, or a directory with everything below it. -/
def removeAll (t : FileTree) (l : Location) : FileTree :=
  let entries := t.entries.filter fun (loc, _) => !l.isPrefixOf loc
  let folders := t.folders.filter fun (loc, _) => !l.isPrefixOf loc
  { t with entries, folders }.changeFolder l.dropLast t.renewed

/-! ## Open files -/

/-- Adds an open file; answers its descriptor. -/
def addOpen (t : FileTree) (f : OpenFile) : Nat × FileTree :=
  (t.openFiles.length, { t with openFiles := t.openFiles ++ [some f] })

def setContent (t : FileTree) (number : Nat) (b : Bytes) : FileTree :=
  t.changeRecord number fun r => { content := b, attributes := t.renewed r.attributes }

/-- Opens a file for writing and creates it if it does not exist; answers the descriptor.  A path
that ends in a slash, and a directory, cannot be opened this way. -/
def openWrite (t : FileTree) (cwd : Location) (path : Bytes) (mode : OpenMode) :
    Except Errno (Nat × FileTree) := do
  match ← t.destination cwd path with
  | .folder _ => throw .isDirectory
  | .named parent name =>
    if Path.endsInSlash path then throw .isDirectory
    else
      let l := parent ++ [name]
      let opened (entry : Entry) : OpenFile :=
        { entry, appends := mode == .append, reads := mode == .update }
      match t.entry? l with
      | some .directory => throw .isDirectory
      | some (.program _) => throw .accessDenied
      | some (.device d) => return t.addOpen (opened (.device d))
      | some (.regular number) =>
        let t := if mode == .truncate then t.setContent number [] else t
        return t.addOpen (opened (.regular number))
      | none =>
        if (t.entry? parent).isNone then throw .noEntry
        else return (t.addFile l []).addOpen (opened (.regular t.records.length))

/-- Opens a file or a directory for reading; answers the descriptor. -/
def openRead (t : FileTree) (cwd : Location) (path : Bytes) : Except Errno (Nat × FileTree) := do
  let (_, entry) ← t.find cwd path
  return t.addOpen { entry, reads := true, writes := false }

/-- Opens once more what a descriptor leads to, for writing or else for reading; answers the
descriptor. -/
def reopen (t : FileTree) (descriptor : Nat) (mode : Option OpenMode) :
    Except Errno (Nat × FileTree) :=
  match t.openFiles.getD descriptor none with
  | none => .error .noEntry
  | some f =>
    match mode, f.entry with
    | none, entry => .ok (t.addOpen { entry, reads := true, writes := false })
    | some _, .directory => .error .isDirectory
    | some mode, entry =>
      let t := match mode, entry with
        | .truncate, .regular number => t.setContent number []
        | _, _ => t
      .ok (t.addOpen { entry, appends := mode == .append, reads := mode == .update })

/-- What is left to read of an open file. -/
def unread (t : FileTree) (descriptor : Nat) : Except Errno Content :=
  match t.openFiles.getD descriptor none with
  | none => .error .badDescriptor
  | some f =>
    if !f.reads then .error .badDescriptor
    else
      match f.entry with
      | .directory => .error .isDirectory
      | .regular number => .ok (.bytes ((t.content number).drop f.offset))
      | .device .null => .ok (.bytes [])
      | .device _ => .ok .zeros
      | .program _ => .ok (.bytes (programImage.drop f.offset))

/-- All that an open file holds for a reader who opens it once more. -/
def whole (t : FileTree) (descriptor : Nat) : Except Errno Content := do
  let (f, t) ← t.reopen descriptor none
  t.unread f

/-- Where the next bytes of an open file come from or go. -/
def offset (t : FileTree) (descriptor : Nat) : Nat :=
  ((t.openFiles.getD descriptor none).map (·.offset)).getD 0

def fileNumber? (t : FileTree) (descriptor : Nat) : Option Nat :=
  match t.openFiles.getD descriptor none with
  | some f =>
    match f.entry with
    | .regular number => some number
    | _ => none
  | none => none

/-- Goes to a place in an open file. -/
def seek (t : FileTree) (descriptor offset : Nat) : FileTree :=
  match t.openFiles.getD descriptor none with
  | none => t
  | some f => { t with openFiles := t.openFiles.set descriptor (some { f with offset }) }

/-- A content with some bytes written over it from an offset on; a gap is filled with zeros. -/
def overwrite (old : Bytes) (offset : Nat) (new : Bytes) : Bytes :=
  old.take offset ++ List.replicate (offset - old.length) 0 ++ new ++ old.drop (offset + new.length)

def write (t : FileTree) (descriptor : Nat) (b : Bytes) : Except Errno Unit × FileTree :=
  match t.openFiles.getD descriptor none with
  | none => (.error .badDescriptor, t)
  | some f =>
    match f.writes, f.entry with
    | false, _ => (.error .badDescriptor, t)
    | true, .regular number =>
      if b.isEmpty then (.ok (), t)
      else if f.appends then (.ok (), t.setContent number (t.content number ++ b))
      else
        let t := t.setContent number (overwrite (t.content number) f.offset b)
        let f := { f with offset := f.offset + b.length }
        (.ok (), { t with openFiles := t.openFiles.set descriptor (some f) })
    | true, .device .full => (if b.isEmpty then .ok () else .error .noSpace, t)
    | true, _ => (.ok (), t)

def close (t : FileTree) (descriptor : Nat) : FileTree :=
  { t with openFiles := t.openFiles.set descriptor none }

end FileTree

end Relay
