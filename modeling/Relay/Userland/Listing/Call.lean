import Relay.Userland.Glob
import Relay.Userland.Listing.Palette
import Relay.Userland.Listing.Quoting
import Relay.Userland.Manual.Names
import Relay.Userland.Options
import Relay.Userland.Scaling

/-!
# How listings are made

What a call of `ls` asks for: which names are listed, in which order, how they are written and laid
out, and what is told about each file.
-/

namespace Relay.Userland

/-! ## Settings -/

/-- How names are laid out. -/
inductive Layout where
  | single
  | commas
  /-- Columns that are read from top to bottom. -/
  | columns
  /-- Columns that are read from left to right. -/
  | rows
  | long
  deriving DecidableEq

/-- Which mark follows a name. -/
inductive Marking where
  | never
  | slash
  /-- Programs get no mark. -/
  | fileType
  | classify
  deriving DecidableEq

inductive ListOrder where
  | byName
  | unsorted
  | bySize
  | byExtension
  | byVersion
  | byWidth
  /-- The latest one first. -/
  | byTime
  deriving DecidableEq

/-- Which time of a file counts. -/
inductive TimeKind where
  | modified
  | accessed
  | changed
  deriving DecidableEq

def TimeKind.of (k : TimeKind) (a : Attributes) : Moment :=
  match k with
  | .modified => a.modified
  | .accessed => a.accessed
  | .changed => a.changed

/-- Which names of a directory are listed. -/
inductive Visibility where
  /-- No names that start with a dot. -/
  | usual
  /-- All names but those of the directory itself and of the one above. -/
  | almostAll
  | all
  deriving DecidableEq

structure Listing where
  layout : Layout := .single
  marking : Marking := .never
  /-- The order, if one was asked for. -/
  ordering : Option ListOrder := none
  /-- How names are written, if that was asked for. -/
  chosenStyle : Option NameStyle := none
  visibility : Visibility := .usual
  /-- Bytes that are not printed become question marks. -/
  masks : Bool := false
  reversed : Bool := false
  /-- Directories are listed as files. -/
  itself : Bool := false
  recursive : Bool := false
  foldersFirst : Bool := false
  ignored : List Bytes := []
  hidden : List Bytes := []
  /-- The width of a line and the distance of tabs, if they were asked for. -/
  chosenWidth : Option Nat := none
  chosenTabs : Option Nat := none
  zeroEnded : Bool := false
  coloured : Bool := false
  /-- The colours of names, if they are written in colours. -/
  palette : Option Palette := none
  /-- The places of names in the output are told at its end. -/
  tellsPlaces : Bool := false
  /-- The time that counts, if one was asked for. -/
  chosenTime : Option TimeKind := none
  /-- How times are written, if that was asked for. -/
  timeStyle : Option Bytes := none
  /-- How times are written: those of the last half year, and all others. -/
  recentFormat : List Char := "%b %e %H:%M".toList
  oldFormat : List Char := "%b %e  %Y".toList
  /-- Which columns a long listing has, beside the others. -/
  showsOwner : Bool := true
  showsGroup : Bool := true
  showsAuthor : Bool := false
  /-- Columns in front of a name in every layout. -/
  showsNumber : Bool := false
  showsBlocks : Bool := false
  showsContext : Bool := false
  /-- Owners and groups are shown by their numbers. -/
  byNumbers : Bool := false
  /-- How sizes are written, and how blocks are counted, if that was asked for. -/
  sizes : Option SizeFormat := none
  blocks : Option SizeFormat := none
  kilobytes : Bool := false

/-- The order of a listing: by name unless another one, or a time that is not shown, was asked
for. -/
def Listing.order (l : Listing) : ListOrder :=
  l.ordering.getD (if l.layout ≠ .long && l.chosenTime.isSome then .byTime else .byName)

def Listing.style (l : Listing) : NameStyle := l.chosenStyle.getD .literal

def Listing.width (l : Listing) : Nat := l.chosenWidth.getD 80

/-- The distance of tabs; names in colours have no tabs between them. -/
def Listing.tabs (l : Listing) : Nat := if l.palette.isSome then 0 else l.chosenTabs.getD 8

def Listing.time (l : Listing) (a : Attributes) : Moment := (l.chosenTime.getD .modified).of a

def lsOptions : List OptionRule :=
  [plainOption 'a' ["all"], plainOption 'b' ["escape"], plainOption 'd' ["directory"],
    plainOption 'D' ["dired"], namedOption "full-time" .never,
    namedOption "group-directories-first" .never, plainOption 'h' ["human-readable"],
    plainOption 'i' ["inode"], plainOption 'k' ["kibibytes"], plainOption 'n' ["numeric-uid-gid"],
    plainOption 'G' ["no-group"], plainOption 'q' ["hide-control-chars"],
    plainOption 'r' ["reverse"], plainOption 's' ["size"], valueOption 'w' ["width"],
    plainOption 'A' ["almost-all"], plainOption 'B' ["ignore-backups"], plainOption 'F' [],
    namedOption "classify" .maybe,
    namedOption "file-type" .never, namedOption "si" .never,
    plainOption 'H' ["dereference-command-line"],
    namedOption "dereference-command-line-symlink-to-dir" .never, namedOption "hide" .always,
    valueOption 'I' ["ignore"], namedOption "indicator-style" .always,
    plainOption 'L' ["dereference"], plainOption 'N' ["literal"], plainOption 'Q' ["quote-name"],
    namedOption "quoting-style" .always, plainOption 'R' ["recursive"],
    namedOption "format" .always, namedOption "show-control-chars" .never,
    namedOption "sort" .always, valueOption 'T' ["tabsize"], namedOption "time" .always,
    namedOption "time-style" .always, namedOption "zero" .never,
    namedOption "color" .maybe, namedOption "hyperlink" .maybe, namedOption "block-size" .always,
    plainOption 'Z' ["context"], namedOption "author" .never]
    ++ letterOptions "cfglmoptuvxCSUX1" ++ selfDescription

/-- The words for whether something is done. -/
def whenChoices : List (List String × Bool) :=
  [(["always", "yes", "force"], true), (["never", "no", "none"], false),
    (["auto", "tty", "if-tty"], false)]

def layoutChoices : List (List String × Layout) :=
  [(["verbose", "long"], .long), (["commas"], .commas), (["horizontal", "across"], .rows),
    (["vertical"], .columns), (["single-column"], .single)]

def listOrderChoices : List (List String × ListOrder) :=
  [(["none"], .unsorted), (["time"], .byTime), (["size"], .bySize), (["extension"], .byExtension),
    (["version"], .byVersion), (["width"], .byWidth)]

def timeKindChoices : List (List String × TimeKind) :=
  [(["atime", "access", "use"], .accessed), (["ctime", "status"], .changed),
    (["birth", "creation"], .changed)]

def markingChoices : List (List String × Marking) :=
  [(["none"], .never), (["slash"], .slash), (["file-type"], .fileType), (["classify"], .classify)]

/-- The words for ways of writing names. -/
def nameStyleChoices : List (List String × NameStyle) :=
  NameStyle.words.map fun (word, style) => ([word], style)

/-- The exit code for calls and operands that are wrong. -/
def listFailure : Nat := 2

def Listing.takeBlockSize (inv : Invocation) (l : Listing) (text : Bytes) : Except Halt Listing :=
  let name := ascii "--block-size argument '" ++ text ++ ascii "'"
  match SizeFormat.ofBlock text with
  | .ok f => .ok { l with sizes := some f, blocks := some f }
  | .error .noNumber =>
    let isSuffix := text.head?.any fun b => (Char.ofNat b.toNat).isDigit
    halt inv ((if isSuffix && !text.all (· == 48) then ascii "invalid suffix in " ++ name
      else ascii "invalid " ++ name)) listFailure
  | .error _ => halt inv (name ++ ascii " too large") listFailure

/-- The width of a line that a text asks for; a width that is too large is none at all. -/
def lineWidth? (text : Bytes) : Option Nat :=
  match countOf none "" text with
  | .ok n => some (if 2 * n ≤ largestWord then n else 0)
  | .error .tooLarge => some 0
  | .error _ => none

/-- The distance of tabs that the value of an option asks for. -/
def readTabs (inv : Invocation) (text : Bytes) : Except Halt Nat :=
  let refuse (remark : Bytes) : Except Halt Nat :=
    halt inv (ascii "invalid tab size: " ++ quoted text ++ remark) listFailure
  match countOf none "" text with
  | .ok n => if 2 * n ≤ largestWord then .ok n else refuse QuantityFlaw.tooLarge.remark
  | .error .tooLarge => refuse QuantityFlaw.tooLarge.remark
  | .error _ => refuse []

/-- Takes an option into account. -/
def Listing.take (inv : Invocation) (l : Listing) (f : Flag) : Except Halt Listing := do
  match f.key with
  | "a" => return { l with visibility := .all }
  | "A" => return { l with visibility := .almostAll }
  | "b" => return { l with chosenStyle := some .escaped }
  | "d" => return { l with itself := true }
  | "f" =>
    return { l with visibility := .all, ordering := some .unsorted, showsBlocks := false
                    coloured := false
                    layout := if l.layout = .long then .single else l.layout }
  | "q" => return { l with masks := true }
  | "show-control-chars" => return { l with masks := false }
  | "r" => return { l with reversed := true }
  | "R" => return { l with recursive := true }
  | "w" =>
    match lineWidth? f.text with
    | some n => return { l with chosenWidth := some n }
    | none => halt inv (ascii "invalid line width: " ++ quoted f.text) listFailure
  | "T" => return { l with chosenTabs := some (← readTabs inv f.text) }
  | "B" => return { l with ignored := l.ignored ++ [ascii "*~", ascii ".*~"] }
  | "I" => return { l with ignored := l.ignored ++ [f.text] }
  | "hide" => return { l with hidden := l.hidden ++ [f.text] }
  | "F" => return { l with marking := .classify }
  | "classify" =>
    let shows ← match f.value with
      | none => pure true
      | some v => readChoice inv "--classify" whenChoices 1 v
    return if shows then { l with marking := .classify } else l
  | "p" => return { l with marking := .slash }
  | "file-type" => return { l with marking := .fileType }
  | "indicator-style" =>
    return { l with marking := ← readChoice inv "--indicator-style" markingChoices 1 f.text }
  | "N" => return { l with chosenStyle := some .literal }
  | "Q" => return { l with chosenStyle := some .spelled }
  | "quoting-style" =>
    let style ← readChoice inv "--quoting-style" nameStyleChoices 1 f.text
    return { l with chosenStyle := some style }
  | "D" => return { l with tellsPlaces := true }
  | "format" =>
    return { l with layout := ← readChoice inv "--format" layoutChoices 1 f.text }
  | "sort" =>
    return { l with ordering := some (← readChoice inv "--sort" listOrderChoices 1 f.text) }
  | "color" =>
    let coloured ← match f.value with
      | none => pure true
      | some v => readChoice inv "--color" whenChoices 1 v
    return { l with coloured }
  | "hyperlink" =>
    let _ ← match f.value with
      | none => pure true
      | some v => readChoice inv "--hyperlink" whenChoices 1 v
    return l
  | "group-directories-first" => return { l with foldersFirst := true }
  | "zero" =>
    return { l with zeroEnded := true, masks := false, chosenStyle := some .literal
                    coloured := false
                    layout := if l.layout = .long then .long else .single }
  | "1" => return if l.layout = .long then l else { l with layout := .single }
  | "C" => return { l with layout := .columns }
  | "m" => return { l with layout := .commas }
  | "x" => return { l with layout := .rows }
  | "l" => return { l with layout := .long }
  | "S" => return { l with ordering := some .bySize }
  | "U" => return { l with ordering := some .unsorted }
  | "X" => return { l with ordering := some .byExtension }
  | "v" => return { l with ordering := some .byVersion }
  | "t" => return { l with ordering := some .byTime }
  | "c" => return { l with chosenTime := some .changed }
  | "u" => return { l with chosenTime := some .accessed }
  | "time" =>
    return { l with chosenTime := some (← readChoice inv "--time" timeKindChoices 1 f.text) }
  | "time-style" => return { l with timeStyle := some f.text }
  | "full-time" => return { l with layout := .long, timeStyle := some (ascii "full-iso") }
  | "g" => return { l with layout := .long, showsOwner := false }
  | "o" => return { l with layout := .long, showsGroup := false }
  | "G" => return { l with showsGroup := false }
  | "n" => return { l with layout := .long, byNumbers := true }
  | "author" => return { l with showsAuthor := true }
  | "i" => return { l with showsNumber := true }
  | "s" => return { l with showsBlocks := true }
  | "Z" => return { l with showsContext := true }
  | "h" => return { l with sizes := some .readable, blocks := some .readable }
  | "si" => return { l with sizes := some .thousands, blocks := some .thousands }
  | "k" => return { l with kilobytes := true }
  | "block-size" => l.takeBlockSize inv f.text
  | _ => return l

/-! ## Settings from elsewhere -/

/-- The words for ways of writing times, with the formats for times of the last half year and for
all others. -/
def timeStyles : List (String × String × String) :=
  [("full-iso", "%Y-%m-%d %H:%M:%S.%N %z", "%Y-%m-%d %H:%M:%S.%N %z"),
    ("long-iso", "%Y-%m-%d %H:%M", "%Y-%m-%d %H:%M"), ("iso", "%m-%d %H:%M", "%Y-%m-%d "),
    ("locale", "%b %e %H:%M", "%b %e  %Y")]

/-- Takes the way of writing times into account, which matters to long listings only. -/
def Listing.withTimeStyle (l : Listing) (inv : Invocation) : Except Halt Listing :=
  let text := (l.timeStyle <|> inv.env.lookup (ascii "TIME_STYLE")).getD (ascii "locale")
  let word := chars text
  if l.layout ≠ .long || (ascii "posix-").isPrefixOf text then .ok l
  else if word.head? = some '+' then
    match pieces (· == '\n') word.tail with
    | [one] => .ok { l with recentFormat := one, oldFormat := one }
    | [old, recent] => .ok { l with recentFormat := recent, oldFormat := old }
    | _ => halt inv (ascii "invalid time style format " ++ quoted text.tail) listFailure
  else
    let named := timeStyles.filter fun (name, _) => name.toList = word
    let known := if named.isEmpty
      then timeStyles.filter fun (name, _) => word.isPrefixOf name.toList else named
    match known with
    | [(_, recent, old)] => .ok { l with recentFormat := recent.toList, oldFormat := old.toList }
    | _ =>
      let what := if known.isEmpty then "invalid" else "ambiguous"
      .error <| .complaint (complain inv
          (ascii what ++ ascii " argument " ++ quoted text ++ ascii " for 'time style'")
        ++ ascii "Valid arguments are:\n"
        ++ timeStyles.flatMap (fun (name, _) => ascii s!"  - [posix-]{name}\n")
        ++ ascii "  - +FORMAT (e.g., +%H:%M) for a 'date'-style format\n" ++ hint inv) listFailure

/-- Takes the sizes of blocks that the environment asks for into account. -/
def Listing.withBlocks (l : Listing) (inv : Invocation) : Listing :=
  let value (name : String) : Option SizeFormat :=
    (inv.env.lookup (ascii name)).bind fun text => (SizeFormat.ofBlock text).toOption
  if l.blocks.isSome then l
  else
    let own := value "LS_BLOCK_SIZE" <|> value "BLOCK_SIZE"
    let posix := followsStandard inv
    let usual : SizeFormat := { unit := if posix then 512 else 1024 }
    { l with
        sizes := l.sizes <|> own
        blocks :=
          if l.kilobytes then some { unit := 1024 }
          else some ((own <|> value "BLOCKSIZE").getD usual) }

/-- Takes the width of a line and the distance of tabs from the environment, if names are laid out on
lines and nothing else was asked for. -/
def Listing.withMeasures (l : Listing) (inv : Invocation) : Listing × Bytes :=
  let shares := l.layout ≠ .single && l.layout ≠ .long
  let unusable (what name : String) (text : Bytes) : Bytes :=
    complain inv (ascii s!"ignoring invalid {what} in environment variable {name}: "
      ++ quoted text)
  let (width, err) : Option Nat × Bytes :=
    match l.chosenWidth, inv.env.lookup (ascii "COLUMNS") with
    | none, some text =>
      if text.isEmpty || !(shares || l.coloured) then (none, [])
      else
        match lineWidth? text with
        | some n => (some n, [])
        | none => (none, unusable "width" "COLUMNS" text)
    | w, _ => (w, [])
  let (tabs, more) : Option Nat × Bytes :=
    match l.chosenTabs, inv.env.lookup (ascii "TABSIZE") with
    | none, some text =>
      if !shares then (none, [])
      else
        match countOf none "" text with
        | .ok n => (some n, [])
        | .error _ => (none, unusable "tab size" "TABSIZE" text)
    | k, _ => (k, [])
  ({ l with chosenWidth := width, chosenTabs := tabs }, err ++ more)

/-- Takes the way of writing names from the environment, if nothing else was asked for. -/
def Listing.withStyle (l : Listing) (inv : Invocation) : Listing × Bytes :=
  match l.chosenStyle, inv.env.lookup (ascii "QUOTING_STYLE") with
  | none, some text =>
    match chosen nameStyleChoices text with
    | .ok style => ({ l with chosenStyle := some style }, [])
    | .error _ =>
      (l, complain inv (ascii "ignoring invalid value of environment variable QUOTING_STYLE: "
        ++ quoted text))
  | _, _ => (l, [])

/-- Takes the colours from the environment, if names are written in colours. -/
def Listing.withColours (l : Listing) (inv : Invocation) : Listing × Bytes :=
  let value (name : String) : Bytes := (inv.env.lookup (ascii name)).getD []
  let setting := value "LS_COLORS"
  if !l.coloured then (l, [])
  else if setting.isEmpty then
    let terminal := value "TERM"
    let isKnown := Palette.terminals.any fun t => nameMatches (ascii t) terminal
    if !(value "COLORTERM").isEmpty || isKnown then ({ l with palette := some .usual }, [])
    else (l, [])
  else
    match Palette.read setting with
    | .ok p => ({ l with palette := some p }, [])
    | .error label =>
      let about (cs : List Char) : Bytes :=
        complain inv (ascii "unrecognized prefix: " ++ quoted (octets cs))
      (l, label.elim [] about
        ++ complain inv (ascii "unparsable value for LS_COLORS environment variable"))

/-- Takes everything from the environment into account that counts for a listing; the answer goes
with what is to be said about it. -/
def Listing.settle (l : Listing) (inv : Invocation) : Except Halt (Listing × Bytes) := do
  let l := l.withBlocks inv
  let (l, measured) := l.withMeasures inv
  let (l, styled) := l.withStyle inv
  let err := measured ++ styled
  let l := { l with tellsPlaces := l.tellsPlaces && l.layout = Layout.long }
  let told (h : Halt) : Halt := h.mapErr (err ++ ·)
  if l.tellsPlaces && l.zeroEnded then
    throw (told (.complaint (complain inv (ascii "--dired and --zero are incompatible")) listFailure))
  let l ← (l.withTimeStyle inv).mapError told
  let (l, painted) := l.withColours inv
  return (l, err ++ painted)

end Relay.Userland
