import Relay.Calendar.Format
import Relay.Userland.Listing.Call
import Relay.Userland.Sorting.Order

/-!
# The files of a listing

What is known of a listed file, which of two files comes first, and how a file is described: by its
name with a mark, and by the columns in front of it.
-/

namespace Relay.Userland

structure Listed where
  name : Bytes
  place : Location
  entry : Entry
  attributes : Attributes
  size : Nat := 0
  /-- How many names the file has. -/
  links : Nat := 1
  number : Nat := 0

/-- A file of a listing, from its place. -/
def listedAt (t : FileTree) (name : Bytes) (place : Location) (e : Entry) : Listed :=
  let isBelow (l : Location) : Bool := l.length = place.length + 1 && l.dropLast = place
  let folders : List (Location × Entry) := match e with
    | .directory => t.entries.filter fun (l, e) => decide (e = Entry.directory) && isBelow l
    | _ => []
  { name, place, entry := e, attributes := t.attributes place e
    size := match e with
      | .directory => 4096
      | .regular n => (t.content n).length
      | .device _ => 0
      | .program _ => FileTree.programImage.length
    links := match e with
      | .directory => folders.length + 2
      | _ => 1
    number := match e with
      | .regular n => 1000 + n
      | _ => (t.entries.findIdx fun (l, _) => l = place) + 2 }

/-! ## Names -/

/-- A part of a listing, by what it is. -/
inductive ListPiece where
  | plain (b : Bytes)
  | name (b : Bytes)
  /-- The name of a directory above what it holds. -/
  | heading (b : Bytes)
  /-- What switches colours. -/
  | paint (b : Bytes)

def ListPiece.bytes : ListPiece → Bytes
  | .plain b => b
  | .name b => b
  | .heading b => b
  | .paint b => b

/-- Bytes in names that are escaped because they would look like marks, or like what stands between
names. -/
def Listing.delicate (l : Listing) : List UInt8 :=
  let marks := match l.marking with
    | .fileType => ascii "*=>@|"
    | .classify => ascii "=>@|"
    | _ => []
  if l.style = .escaped then 32 :: marks else marks

/-- A text as it is written, with question marks for what is not printed where they are asked
for. -/
def Listing.mask (l : Listing) (text : Bytes) : Bytes :=
  if l.masks && l.style.isRaw then masked text else text

def Listing.spell (l : Listing) (name : Bytes) : Bytes :=
  l.mask (l.style.write l.delicate name)

/-- The name of a directory as it is written above what it holds. -/
def Listing.spellHeading (l : Listing) (name : Bytes) : Bytes :=
  l.mask (l.style.write [58] name)

def Listing.isQuoted (l : Listing) (name : Bytes) : Bool :=
  let text := l.style.write l.delicate name
  text.length ≠ name.length || text.head? ≠ name.head?

/-- Whether a blank stands in front of a name so that it is aligned with names in quotes, some of
which there are among the names of a listing if `quotes` holds. -/
def Listing.isAligned (l : Listing) (quotes : Bool) (name : Bytes) : Bool :=
  let inColumns := (l.layout = .columns || l.layout = .rows) && l.width ≠ 0
  quotes && l.style.isSelective && (l.layout = .long || inColumns) && !l.isQuoted name

/-- How wide a name is on the screen. -/
def Listing.nameWidth (l : Listing) (quotes : Bool) (name : Bytes) : Nat :=
  ((l.spell name).filter isPrinted).length + if l.isAligned quotes name then 1 else 0

/-- A name in its colour, if it has one, from some column of the screen on. -/
def Listing.namePieces (l : Listing) (quotes : Bool) (x : Listed) (column : Nat) :
    List ListPiece :=
  let text := l.spell x.name
  let front := if l.isAligned quotes x.name then [ListPiece.plain [32]] else []
  match l.palette with
  | none => front ++ [.name text]
  | some p =>
    let colour := p.sequenceFor x.name x.entry x.attributes.mode
    let isNormal := p.isColoured "no"
    let start := match colour with
      | some s => (if isNormal then [.paint (p.switch [])] else []) ++ [ListPiece.paint (p.switch s)]
      | none => []
    let length := text.length + front.length
    let wraps := l.width ≠ 0 && column / l.width ≠ (column + length - 1) / l.width
    let stop := if colour.isSome || isNormal then
        ListPiece.paint p.ending :: (if wraps then [.paint (p.sequence "cl")] else [])
      else []
    front ++ start ++ [.name text] ++ stop

/-- What switches to the colour of everything that is no name. -/
def Listing.normalColour (l : Listing) : List ListPiece :=
  match l.palette with
  | some p => if p.isColoured "no" then [.paint (p.switch (p.sequence "no"))] else []
  | none => []

/-- The mark behind the name of a file. -/
def Listing.mark (l : Listing) (x : Listed) : Bytes :=
  match l.marking, x.entry with
  | .never, _ => []
  | _, .directory => [Path.slash]
  | .classify, .program _ => [42]
  | _, _ => []

def Listing.shows (l : Listing) (name : Bytes) : Bool :=
  !l.ignored.any (shownNameMatches · name)
    && match l.visibility with
      | .all => true
      | .almostAll => true
      | .usual => name.head? != some 46 && !l.hidden.any (shownNameMatches · name)

/-! ## Orders -/

/-- What follows the last dot of a name, with the dot. -/
def extensionOf (name : Bytes) : Bytes :=
  let tail := (name.reverse.takeWhile (· != 46)).reverse
  if tail.length = name.length then [] else 46 :: tail

/-- Whether a file comes before another one, or may do so. -/
def Listing.before (l : Listing) (quotes : Bool) (a b : Listed) : Bool :=
  let byName := compareBytes a.name b.name
  let time (x : Listed) : Moment := l.time x.attributes
  let width (x : Listed) : Nat := l.nameWidth quotes x.name
  let o : Ordering :=
    match l.order with
    | .unsorted => .eq
    | .bySize => (compare b.size a.size).then byName
    | .byTime => (compareInts (time b) (time a)).then byName
    | .byExtension => (compareBytes (extensionOf a.name) (extensionOf b.name)).then byName
    | .byVersion => (compareFileVersions a.name b.name).then byName
    | .byWidth => (compare (width a) (width b)).then byName
    | .byName => byName
  let o := if l.reversed then o.swap else o
  let isFolder (x : Listed) : Bool := x.entry = .directory
  if l.foldersFirst && l.order ≠ .unsorted && isFolder a != isFolder b then isFolder a
  else o != .gt

/-- Files that are listed together, in order. -/
structure Company where
  files : List Listed
  /-- The files that were found together with them, whose columns are as wide as theirs. -/
  peers : List Listed
  /-- Some of their names are written in quotes. -/
  quotes : Bool

def Listing.company (l : Listing) (files : List Listed) : Company :=
  let quotes := files.any fun x => l.isQuoted x.name
  ⟨files.mergeSort (l.before quotes), files, quotes⟩

def Listing.filesIn (l : Listing) (t : FileTree) (folder : Location) : Company :=
  let inside := (t.names folder).map fun n =>
    listedAt t n (folder ++ [n]) ((t.entry? (folder ++ [n])).getD .directory)
  let around := if l.visibility = .all
    then [listedAt t Path.here folder .directory, listedAt t Path.up folder.dropLast .directory]
    else []
  l.company ((around ++ inside).filter fun x => l.shows x.name)

/-! ## Columns -/

/-- The kind of a file and who may do what with it, as letters. -/
def modeLetters (e : Entry) (mode : Nat) : Bytes :=
  let kind := match e with
    | .directory => 'd'
    | .device _ => 'c'
    | _ => '-'
  let isSet (bit : Nat) : Bool := mode / bit % 2 = 1
  let triple (bit : Nat) (special : Bool) (mark : Char) : List Char :=
    let runs := isSet bit
    [if isSet (bit * 4) then 'r' else '-', if isSet (bit * 2) then 'w' else '-',
      if special then (if runs then mark else mark.toUpper) else if runs then 'x' else '-']
  octets (kind :: triple 64 (isSet 2048) 's' ++ triple 8 (isSet 1024) 's'
    ++ triple 1 (isSet 512) 't')

/-- The blocks that a file takes up, in bytes. -/
def Listed.blockBytes (x : Listed) : Nat :=
  match x.entry with
  | .device _ => 0
  | _ => (x.size + 4095) / 4096 * 4096

/-- The size of the blocks of a file, as it is written. -/
def Listing.blocksOf (l : Listing) (bytes : Nat) : Bytes :=
  (l.blocks.getD { unit := 1024 }).write bytes

/-- The columns that stand in front of a name in every layout. -/
def Listing.leading (l : Listing) (x : Listed) : List Bytes :=
  (if l.showsNumber then [decimal x.number] else [])
    ++ (if l.showsBlocks then [l.blocksOf x.blockBytes] else [])
    ++ (if l.showsContext && l.layout ≠ .long then [ascii "?"] else [])

/-- The size of a file, or the numbers of a device. -/
def Listing.sizeColumn (l : Listing) (x : Listed) : Bytes :=
  match x.entry with
  | .device .null => ascii "1, 3"
  | .device .zero => ascii "1, 5"
  | .device .full => ascii "1, 7"
  | _ => (l.sizes.getD {}).write x.size

/-- The time of a file as it is written at some present moment. -/
def Listing.timeColumn (l : Listing) (present : Moment) (x : Listed) : Bytes :=
  let m := l.time x.attributes
  let halfYear : Int := 15778476 * Calendar.billion
  let isRecent := present - halfYear < m && m < present
  octets (Calendar.format m (if isRecent then l.recentFormat else l.oldFormat))

def columnWidth (cells : List Bytes) : Nat := cells.foldl (fun n c => max n c.length) 0

/-- The lines of a long listing at some present moment, without their ends. -/
def Listing.longLines (l : Listing) (present : Moment) (c : Company) : List (List ListPiece) :=
  let files := c.files
  let column (cell : Listed → Bytes) (pad : Nat → Bytes → Bytes) : List Bytes :=
    let width := columnWidth (c.peers.map cell)
    files.map fun x => pad width (cell x)
  let fixed (shown : Bool) (cell : Listed → Bytes) : List (List Bytes) :=
    if shown then [column cell padRight] else []
  let owner : Listed → Bytes := fun _ => ascii (if l.byNumbers then "0" else "root")
  let leadCount := ((files.head?.map l.leading).getD []).length
  let leading := (List.range leadCount).map fun k =>
    column (fun x => (l.leading x).getD k []) padLeft
  let before := leading
    ++ [column (fun x => modeLetters x.entry x.attributes.mode) padRight,
      column (fun x => decimal x.links) padLeft]
  let between := fixed l.showsOwner owner ++ fixed l.showsGroup owner ++ fixed l.showsAuthor owner
    ++ fixed l.showsContext (fun _ => ascii "?")
  let behind := [column l.sizeColumn padLeft, files.map (l.timeColumn present)]
  let join (columns : List (List Bytes)) (k : Nat) : Bytes :=
    columns.flatMap fun cells => cells.getD k [] ++ [32]
  let indent := if l.tellsPlaces then [32, 32] else []
  files.zipIdx.map fun (x, k) =>
    let last := join behind k
    let first := join (before ++ between) k
    let start := if between.isEmpty then first.length + last.length else last.length
    l.normalColour ++ [.plain (indent ++ first ++ last)] ++ l.namePieces c.quotes x start
      ++ [.plain (l.mark x)]

end Relay.Userland
