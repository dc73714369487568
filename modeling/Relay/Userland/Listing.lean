import Relay.Userland.Listing.File

/-!
# Listings

`ls` lists files and the contents of directories.  Names are chosen, put in order, marked and
quoted, and then laid out on lines.
-/

namespace Relay.Userland

/-! ## Layouts -/

/-- A cell of a layout: what is written if it starts in some column of the screen, and how wide it
is there. -/
structure Cell where
  pieces : Nat → List ListPiece
  width : Nat

def endedWith (ending : UInt8) (lines : List (List ListPiece)) : List ListPiece :=
  lines.flatMap (· ++ [.plain [ending]])

/-- Blanks from one column of the screen to another, with tabs where they reach. -/
def indentation (tabs : Nat) : Nat → Nat → Nat → Bytes
  | 0, _, _ => []
  | n + 1, start, stop =>
    if stop ≤ start then []
    else if tabs ≠ 0 && (start + 1) / tabs < stop / tabs then
      9 :: indentation tabs n (start + (tabs - start % tabs)) stop
    else 32 :: indentation tabs n (start + 1) stop

/-- The widths of the columns if there are so many: every column but the last one has two blanks
behind its widest cell. -/
def columnWidths (down : Bool) (cells : List Cell) (columns : Nat) : List Nat :=
  let perColumn := (cells.length + columns - 1) / columns
  (cells.zipIdx).foldl (fun widths (cell, k) =>
    let c := if down then k / perColumn else k % columns
    let width := cell.width + (if c + 1 = columns then 0 else 2)
    widths.set c (max (widths.getD c 0) width)) (List.replicate columns 3)

/-- The greatest number of columns, at most `n`, that fit on a line. -/
def fittingColumns (down : Bool) (width : Nat) (cells : List Cell) : Nat → Nat
  | 0 => 1
  | 1 => 1
  | n + 1 =>
    let widths := columnWidths down cells (n + 1)
    if total widths < width || widths.all (· = 3) then n + 1
    else fittingColumns down width cells n

/-- What ends the lines of a listing. -/
def Listing.ending (l : Listing) : UInt8 := if l.zeroEnded then 0 else Text.lineFeed

def Listing.inColumns (l : Listing) (down : Bool) (all : List Cell) : List ListPiece :=
  let most := min all.length (max 1 ((l.width + 2) / 3))
  let columns := fittingColumns down l.width all most
  let widths := columnWidths down all columns
  let rowCount := (all.length + columns - 1) / columns
  endedWith l.ending <| (List.range rowCount).map fun r =>
    let cells := (List.range columns).filterMap fun c =>
      all[if down then c * rowCount + r else r * columns + c]?
    (cells.zipIdx.foldl (fun (line, pos) (cell, c) =>
      if c + 1 = cells.length then (line ++ cell.pieces pos, pos)
      else
        let width := widths.getD c 0
        let gap := indentation l.tabs width (pos + cell.width) (pos + width)
        (line ++ cell.pieces pos ++ [.plain gap], pos + width))
      (([] : List ListPiece), 0)).1

/-- Cells with a sign between them; without a width they share one line. -/
def Listing.inOneRow (l : Listing) (sign : Bytes) (cells : List Cell) : List ListPiece :=
  let (row, _) := cells.zipIdx.foldl (fun (row, pos) (cell, k) =>
    if k = 0 then (cell.pieces 0, cell.width)
    else
      let stays := l.width = 0 || pos + cell.width + 2 < l.width
      let start := if stays then pos + 2 else 0
      let gap : UInt8 := if stays then 32 else l.ending
      (row ++ [.plain (sign ++ [gap])] ++ cell.pieces start, start + cell.width))
    (([] : List ListPiece), 0)
  row ++ [.plain [l.ending]]

/-- The cells of files: in columns the numbers in front of the names stand below each other. -/
def Listing.cells (l : Listing) (c : Company) : List Cell :=
  let leading := c.peers.map l.leading
  let count := (leading.headD []).length
  let widths := (List.range count).map fun k =>
    if l.layout = .commas then 0 else columnWidth (leading.map fun cs => cs.getD k [])
  c.files.map fun x =>
    let front := ((l.leading x).zip widths).flatMap fun (c, width) => padLeft width c ++ [32]
    let mark := l.mark x
    { pieces := fun column =>
        l.normalColour ++ [.plain front] ++ l.namePieces c.quotes x column ++ [.plain mark]
      width := front.length + l.nameWidth c.quotes x.name + mark.length }

/-- Files as they are laid out. -/
def Listing.layOut (l : Listing) (present : Moment) (c : Company) : List ListPiece :=
  if c.files.isEmpty then []
  else
    match l.layout with
    | .columns =>
      if l.width = 0 then l.inOneRow [32] (l.cells c) else l.inColumns true (l.cells c)
    | .rows =>
      if l.width = 0 then l.inOneRow [32] (l.cells c) else l.inColumns false (l.cells c)
    | .commas => l.inOneRow [44] (l.cells c)
    | .single => endedWith l.ending ((l.cells c).map fun cell => cell.pieces 0)
    | .long => endedWith l.ending (l.longLines present c)

/-! ## Directories -/

/-- A directory and all listed directories below it with their names, each before those within it;
at most `n` levels. -/
def Listing.foldersBelow (l : Listing) (t : FileTree) : Nat → Bytes → Location →
    List (Bytes × Location)
  | 0, name, folder => [(name, folder)]
  | n + 1, name, folder =>
    (name, folder) :: (l.filesIn t folder).files.flatMap fun x =>
      if x.entry = .directory && x.name ≠ Path.here && x.name ≠ Path.up then
        let slash := if name.getLast? = some Path.slash then [] else [Path.slash]
        foldersBelow l t n (name ++ slash ++ x.name) (folder ++ [x.name])
      else []

/-- What stands in front of every line of a long listing. -/
def Listing.indent (l : Listing) : Bytes := if l.tellsPlaces then [32, 32] else []

/-- The listing of a directory, with the sum of the blocks if blocks are shown. -/
def Listing.folderBody (l : Listing) (t : FileTree) (place : Location) : List ListPiece :=
  let c := l.filesIn t place
  let sum := if l.layout = .long || l.showsBlocks
    then l.indent ++ ascii "total " ++ l.blocksOf (Userland.total (c.files.map Listed.blockBytes))
      ++ [l.ending]
    else []
  .plain sum :: l.layOut t.now c

/-- The listings of directories, each below its name if `headed` holds, and apart from what comes
before it. -/
def Listing.sections (l : Listing) (t : FileTree) (headed follows : Bool)
    (folders : List (Bytes × Location)) : List ListPiece :=
  folders.zipIdx.flatMap fun ((name, place), k) =>
    let body := l.folderBody t place
    if headed then
      let gap := if k = 0 && !follows then [] else [Text.lineFeed]
      [.plain (gap ++ l.indent), .heading (l.spellHeading name), .plain (ascii ":\n")] ++ body
    else body

/-! ## The end of a listing -/

/-- A listing with what its colours need: the usual colour is switched to before the first one, and
restored at the end. -/
def Listing.framed (l : Listing) (pieces : List ListPiece) : List ListPiece :=
  let isPaint (x : ListPiece) : Bool := match x with
    | .paint _ => true
    | _ => false
  match l.palette with
  | none => pieces
  | some p =>
    let before := pieces.takeWhile (!isPaint ·)
    let rest := pieces.drop before.length
    if rest.isEmpty then pieces
    else before ++ [.paint p.ending] ++ rest ++ [.paint p.restoring]

/-- The places where names start and stop in a listing, and those of headings.  Colours take no
room. -/
def placesOf (pieces : List ListPiece) : List Nat × List Nat :=
  let (_, names, headings) := pieces.foldl (fun (pos, names, headings) x =>
    let stop := pos + x.bytes.length
    match x with
    | .plain _ => (stop, names, headings)
    | .name _ => (stop, names ++ [pos, stop], headings)
    | .heading _ => (stop, names, headings ++ [pos, stop])
    | .paint _ => (pos, names, headings)) ((0, [], []) : Nat × List Nat × List Nat)
  (names, headings)

/-- The lines that tell the places of names, if they are asked for. -/
def Listing.placeLines (l : Listing) (pieces : List ListPiece) : Bytes :=
  let line (title : String) (places : List Nat) : Bytes :=
    if places.isEmpty then []
    else ascii title ++ (places.flatMap fun n => 32 :: decimal n) ++ [Text.lineFeed]
  let (names, headings) := placesOf pieces
  if !l.tellsPlaces then []
  else
    line "//DIRED//" names ++ line "//SUBDIRED//" headings
      ++ ascii s!"//DIRED-OPTIONS// --quoting-style={l.style.word}\n"

/-- Lists files and directories. -/
def ls : Tool := guarded Manual.ls fun inv t => do
  let (l, operands) ← readCall lsOptions anywhere listFailure (Listing.take inv) {} inv
  let (l, warnings) ← l.settle inv
  let found := (if operands.isEmpty then [Path.here] else operands).map fun name =>
    (name, t.find inv.cwd name)
  let err := found.flatMap fun (name, r) =>
    match r with
    | .ok _ => []
    | .error e =>
      complain inv (ascii "cannot access " ++ quotedName name ++ ascii ": " ++ ascii e.text)
  let known := l.company <| found.filterMap fun (name, r) =>
    r.toOption.map fun (place, e) => listedAt t name place e
  let isFolder (x : Listed) : Bool := x.entry = .directory && !l.itself
  let plain : Company := { known with files := known.files.filter fun x => !isFolder x }
  let folders := (known.files.filter isFolder).flatMap fun x =>
    if l.recursive then l.foldersBelow t t.entries.length x.name x.place else [(x.name, x.place)]
  let headed := 1 < operands.length || l.recursive
  let pieces := l.framed
    (l.layOut t.now plain ++ l.sections t headed (!plain.files.isEmpty) folders)
  return { files := t, err := warnings ++ err, code := if err.isEmpty then 0 else listFailure
           unread := inv.stdin
           out := pieces.flatMap ListPiece.bytes ++ l.placeLines pieces }

end Relay.Userland
