import Relay.Userland.Manual.Lines
import Relay.Userland.Options
import Relay.Userland.OrderedRegexSyntax
import Relay.Userland.Quantity
import Relay.Userland.RegexSyntax
import Relay.Userland.Selecting.Colours

/-!
# Selecting lines

`grep` prints the lines of files that match a pattern.  The patterns are read once; every file then
becomes a list of lines of which some are selected, and of that list the lines with their context,
their number, or the name of the file is printed.
-/

namespace Relay.Userland

/-! ## Settings -/

inductive PatternKind where
  | basic
  | extended
  | fixed
  /-- Choices are tried in order. -/
  | ordered
  deriving DecidableEq

inductive NamedFiles where
  | selected
  /-- Those without one. -/
  | unselected
  deriving DecidableEq

/-- What is done with files that hold zeros. -/
inductive BinaryRule where
  | told
  | text
  | skipped
  deriving DecidableEq

/-- What is done with directories. -/
inductive FolderRule where
  | refused
  | skipped
  | searched
  deriving DecidableEq

/-- What `grep` is asked to do. -/
structure Selection where
  kind : Option PatternKind := none
  ignoreCase : Bool := false
  words : Bool := false
  lines : Bool := false
  inverted : Bool := false
  counts : Bool := false
  lists : Option NamedFiles := none
  quiet : Bool := false
  silent : Bool := false
  /-- Only what a pattern matches is printed. -/
  partsOnly : Bool := false
  numbered : Bool := false
  offsets : Bool := false
  tabbed : Bool := false
  coloured : Bool := false
  /-- The colours, if what is printed has colours. -/
  colours : Option MatchColours := none
  zeroNames : Bool := false
  zeroLines : Bool := false
  binary : BinaryRule := .told
  folders : FolderRule := .refused
  named : Option Bool := none
  label : Bytes := ascii "(standard input)"
  most : Option Nat := none
  before : Option Nat := none
  after : Option Nat := none
  /-- Digits of a context given as an option of its own. -/
  contextDigits : Bytes := []
  separator : Option Bytes := some (ascii "--")
  /-- Patterns of names: whether the files are searched or passed over. -/
  nameRules : List (Bool × Bytes) := []
  passedFolders : List Bytes := []
  patterns : Option (List Bytes) := none
  warnings : Bytes := []
  asksHelp : Bool := false
  asksVersion : Bool := false

/-- The exit code for trouble. -/
def grepFailure : Nat := 2

def grepOptions : List OptionRule :=
  let letter (c : Char) (name : String) := plainOption c [name]
  [letter 'G' "basic-regexp", letter 'E' "extended-regexp",
    { key := "F", letters := ['F'], names := ["fixed-regexp", "fixed-strings"] },
    letter 'P' "perl-regexp", valueOption 'A' ["after-context"], valueOption 'B' ["before-context"],
    valueOption 'C' ["context"], namedOption "group-separator" .always,
    namedOption "binary-files" .always, letter 'b' "byte-offset",
    { key := "color", names := ["color", "colour"], value := .maybe }, letter 'c' "count",
    valueOption 'D' ["devices"], valueOption 'd' ["directories"], namedOption "exclude" .always,
    namedOption "exclude-from" .always, namedOption "exclude-dir" .always, valueOption 'f' ["file"],
    letter 'l' "files-with-matches", letter 'L' "files-without-match",
    { key := "manual", names := ["help"] }, namedOption "include" .always,
    { key := "i", letters := ['i', 'y'], names := ["ignore-case"] },
    namedOption "no-ignore-case" .never, letter 'T' "initial-tab", namedOption "label" .always,
    namedOption "line-buffered" .never, letter 'n' "line-number", letter 'x' "line-regexp",
    valueOption 'm' ["max-count"], letter 'h' "no-filename",
    namedOption "no-group-separator" .never, letter 's' "no-messages", letter 'Z' "null",
    letter 'z' "null-data", letter 'o' "only-matching",
    { key := "q", letters := ['q'], names := ["quiet", "silent"] }, letter 'r' "recursive",
    letter 'R' "dereference-recursive", valueOption 'e' ["regexp"], letter 'v' "invert-match",
    letter 'a' "text", letter 'U' "binary", letter 'u' "unix-byte-offsets", letter 'V' "version",
    letter 'H' "with-filename", letter 'w' "word-regexp", valueOption 'X' [], plainOption 'I' []]
    ++ letterOptions "0123456789"

/-- The usage line, which stands in place of a pointer to the help text. -/
def grepUsage (inv : Invocation) : Bytes :=
  let name := ((pieces (· == Path.slash) inv.title).getLast?).getD []
  ascii "Usage: " ++ name ++ ascii " [OPTION]... PATTERNS [FILE]...\nTry '" ++ name
    ++ ascii " --help' for more information.\n"

def readContext (inv : Invocation) (text : Bytes) : Except Halt Nat :=
  match quantityOf "" 0 largestWord text with
  | .ok n => .ok n
  | .error .noNumber =>
    if intOf? text = some 0 then .ok 0
    else halt inv (text ++ ascii ": invalid context length argument") grepFailure
  | .error _ => .ok largestWord

/-- The patterns of a text, one on each line. -/
def patternsOf (text : Bytes) : List Bytes := pieces (· == Text.lineFeed) text

def Selection.addPatterns (s : Selection) (ps : List Bytes) : Selection :=
  { s with patterns := some (s.patterns.getD [] ++ ps) }

def Selection.choose (s : Selection) (inv : Invocation) (kind : PatternKind) :
    Except Halt Selection :=
  if s.kind.all (· = kind) then .ok { s with kind := some kind }
  else halt inv (ascii "conflicting matchers specified") grepFailure

/-- The words for what is done with directories. -/
def folderChoices : List (List String × FolderRule) :=
  [(["read"], .refused), (["recurse"], .searched), (["skip"], .skipped)]

/-- Takes an option into account. -/
def Selection.take (inv : Invocation) (t : FileTree) (s : Selection) (f : Flag) :
    Except Halt Selection := do
  match f.key with
  | "G" => s.choose inv .basic
  | "E" => s.choose inv .extended
  | "P" => s.choose inv .ordered
  | "F" => s.choose inv .fixed
  | "A" => return { s with after := some (← readContext inv f.text) }
  | "B" => return { s with before := some (← readContext inv f.text) }
  | "C" =>
    let n ← readContext inv f.text
    return { s with before := some n, after := some n }
  | "group-separator" => return { s with separator := some f.text }
  | "no-group-separator" => return { s with separator := none }
  | "binary-files" =>
    if f.text = ascii "binary" then return { s with binary := .told }
    else if f.text = ascii "text" then return { s with binary := .text }
    else if f.text = ascii "without-match" then return { s with binary := .skipped }
    else halt inv (ascii "unknown binary-files type") grepFailure
  | "a" => return { s with binary := .text }
  | "I" => return { s with binary := .skipped }
  | "b" => return { s with offsets := true }
  | "color" =>
    match f.value.map fun v => String.ofList (chars v) with
    | none => return { s with coloured := false }
    | some word =>
      if ["always", "yes", "force"].contains word then return { s with coloured := true }
      else if ["never", "no", "none", "auto", "tty", "if-tty"].contains word then
        return { s with coloured := false }
      else return { s with asksHelp := true }
  | "manual" => return { s with asksHelp := true }
  | "V" => return { s with asksVersion := true }
  | "c" => return { s with counts := true }
  | "D" =>
    if f.text = ascii "read" || f.text = ascii "skip" then return s
    else halt inv (ascii "unknown devices method") grepFailure
  | "d" =>
    let rule ← readChoice inv "--directories" folderChoices 1 f.text
    return { s with folders := rule }
  | "exclude" => return { s with nameRules := s.nameRules ++ [(false, f.text)] }
  | "include" => return { s with nameRules := s.nameRules ++ [(true, f.text)] }
  | "exclude-dir" => return { s with passedFolders := s.passedFolders ++ [f.text] }
  | "exclude-from" =>
    match readOperand inv t f.text with
    | .ok b => return { s with nameRules := s.nameRules ++ (bareLines b).map (false, ·) }
    | .error e => halt inv (f.text ++ ascii ": " ++ ascii e.text) grepFailure
  | "e" => return s.addPatterns (patternsOf f.text)
  | "f" =>
    match readOperand inv t f.text with
    | .ok b => return s.addPatterns (bareLines b)
    | .error e => halt inv (f.text ++ ascii ": " ++ ascii e.text) grepFailure
  | "l" => return { s with lists := some .selected }
  | "L" => return { s with lists := some .unselected }
  | "i" => return { s with ignoreCase := true }
  | "no-ignore-case" => return { s with ignoreCase := false }
  | "T" => return { s with tabbed := true }
  | "label" => return { s with label := f.text }
  | "n" => return { s with numbered := true }
  | "x" => return { s with lines := true }
  | "w" => return { s with words := true }
  | "m" =>
    match quantityOf "" 0 largestWord f.text with
    | .ok n => return { s with most := some n }
    | .error .noNumber =>
      if let some n := intOf? f.text then return { s with most := if n = 0 then some 0 else none }
      else halt inv (ascii "invalid max count") grepFailure
    | .error _ => return { s with most := none }
  | "h" => return { s with named := some false }
  | "H" => return { s with named := some true }
  | "s" => return { s with silent := true }
  | "Z" => return { s with zeroNames := true }
  | "z" => return { s with zeroLines := true }
  | "o" => return { s with partsOnly := true }
  | "q" => return { s with quiet := true }
  | "r" => return { s with folders := .searched }
  | "R" => return { s with folders := .searched }
  | "v" => return { s with inverted := true }
  | "u" =>
    let warning := complain inv (ascii "warning: --unix-byte-offsets (-u) is obsolete")
    return { s with warnings := s.warnings ++ warning }
  | "X" =>
    match String.ofList (chars f.text) with
    | "grep" => s.choose inv .basic
    | "egrep" => s.choose inv .extended
    | "fgrep" => s.choose inv .fixed
    | "awk" => s.choose inv .extended
    | "gawk" => s.choose inv .extended
    | "posixawk" => s.choose inv .extended
    | "perl" => s.choose inv .ordered
    | _ => halt inv (ascii "invalid matcher " ++ f.text) grepFailure
  | key =>
    return if key.all Char.isDigit then
      { s with contextDigits := s.contextDigits ++ ascii key } else s

/-- Whether it is clear without a look at any line that none of them is selected. -/
def Selection.isHopeless (s : Selection) (patterns : List Bytes) : Bool :=
  s.most = some 0
    || (patterns.isEmpty && !s.inverted)
    || (!patterns.isEmpty && patterns.all (·.isEmpty) && s.inverted && !s.lines && !s.words)

/-- The lengths of the contexts before and behind selected lines. -/
def Selection.contexts (s : Selection) : Option Nat × Option Nat :=
  let both := natOf? s.contextDigits
  (s.before <|> both, s.after <|> both)

/-! ## Matching -/

/-- Patterns that are ready to use. -/
inductive Finder where
  /-- The longest match of any of several patterns is looked for. -/
  | longest (patterns : List Regex)
  | ordered (pattern : OrderedRegex)

def Finder.isIn (f : Finder) (line : Bytes) : Bool :=
  match f with
  | .longest ps => ps.any (·.isIn line)
  | .ordered p => (p.search (.atStart line)).isSome

/-- The leftmost match from a place on: where it starts and where it ends. -/
def Finder.search (f : Finder) (s : Place) : Option (Place × Place) :=
  match f with
  | .longest [] => none
  | .longest (p :: ps) => (ps.foldr Regex.either p).search s
  | .ordered p => p.search s

/-- How lines are selected. -/
structure Matcher where
  finder : Finder
  inverted : Bool

def Matcher.selects (m : Matcher) (line : Bytes) : Bool := m.finder.isIn line != m.inverted

/-- The parts of a line from a place on that are found, with their offsets, from left to right;
empty ones are left out.  At most `n` matches are looked at. -/
def matchesOf (f : Finder) : Nat → Place → List (Nat × Bytes)
  | 0, _ => []
  | n + 1, s =>
    match f.search s with
    | none => []
    | some (start, stop) =>
      if start.index = stop.index then
        match stop.next? with
        | some s => matchesOf f n s
        | none => []
      else (start.index, octets (start.since stop)) :: matchesOf f n { stop with groups := [] }

/-- The pattern whose choices are tried in order; it has to be a single one. -/
def Selection.orderedFinder (s : Selection) (inv : Invocation) (patterns : List Bytes) :
    Except Halt Finder := do
  match patterns with
  | [] => return .longest []
  | [p] =>
    let style : OrderedRegex.Style := { ignoreCase := s.ignoreCase }
    let cs := if s.words && !s.lines
      then "(?<!\\w)(?:".toList ++ chars p ++ ")(?!\\w)".toList else chars p
    match OrderedRegex.parse style cs with
    | .ok p => return .ordered (if s.lines then p.asLine style else p)
    | .error flaw => halt inv (ascii flaw.message) grepFailure
  | _ => halt inv (ascii "the -P option only supports a single pattern") grepFailure

/-- Reads the patterns; the answer also holds warnings. -/
def Selection.matcher (s : Selection) (inv : Invocation) (patterns : List Bytes) :
    Except Halt (Matcher × Bytes) := do
  let kind := s.kind.getD .basic
  let inverted := s.inverted
  if kind = .ordered then return ({ finder := ← s.orderedFinder inv patterns, inverted }, [])
  let d : Regex.Dialect :=
    { extended := kind = .extended, ignoreCase := s.ignoreCase, looseClosing := kind = .extended
      bareClasses := followsStandard inv }
  let read (p : Bytes) : Except Regex.Flaw Regex.Parsed :=
    if kind = .fixed then .ok { pattern := Regex.fixed d (chars p) } else Regex.parse d (chars p)
  match patterns.mapM read with
  | .error flaw => halt inv (ascii flaw.message) grepFailure
  | .ok ps =>
    let warnings := ps.flatMap (·.warnings)
    let ps := ps.map (·.pattern)
    let ps := if s.lines then ps.map Regex.asLine
      else if s.words then ps.map fun p =>
        Regex.follow (.between fun a _ => !a.any Regex.isWordChar)
          (.follow p (.between fun _ b => !b.any Regex.isWordChar))
      else ps
    return ({ finder := .longest ps, inverted },
      warnings.flatMap fun w => complain inv (ascii "warning: " ++ ascii w))

/-! ## Printing -/

structure SourceLine where
  text : Bytes
  number : Nat
  offset : Nat
  selected : Bool

def sourceLines (m : Matcher) (ending : UInt8) (b : Bytes) : List SourceLine :=
  let ps := pieces (· == ending) b
  let ls := if (ps.getLastD []).isEmpty then ps.dropLast else ps
  (ls.foldl (fun (done, number, offset) l =>
    ({ text := l, number, offset, selected := m.selects l : SourceLine } :: done, number + 1,
      offset + l.length + 1)) (([] : List SourceLine), 1, 0)).1.reverse

structure LinePrinter where
  selection : Selection
  matcher : Matcher
  /-- The name that is printed in front of lines. -/
  name : Option Bytes

/-- What stands in front of a line or a part of it, with the sign that tells selected lines from
their context. -/
def LinePrinter.head (p : LinePrinter) (sign : String) (number offset : Nat) (isEmpty : Bool) :
    Bytes :=
  let s := p.selection
  let mark := tinted s.colours .separator (ascii sign)
  let digits (n : Nat) : Bytes := if s.tabbed then padLeft 2 (decimal n) else decimal n
  let name := match p.name with
    | some n => tinted s.colours .fileName n ++ (if s.zeroNames then [0] else mark)
    | none => []
  let shown := p.name.isSome || s.numbered || s.offsets
  name ++ (if s.numbered then tinted s.colours .lineNumber (digits number) ++ mark else [])
    ++ (if s.offsets then tinted s.colours .offset (digits offset) ++ mark else [])
    ++ (if s.tabbed && shown && !isEmpty then [9] else [])

def LinePrinter.line (p : LinePrinter) (l : SourceLine) : Bytes :=
  let s := p.selection
  let ending : UInt8 := if s.zeroLines then 0 else Text.lineFeed
  let matching := l.selected != s.inverted
  let colour := (s.colours.map (·.ofMatch l.selected)).getD []
  let parts := if matching && (s.partsOnly || !colour.isEmpty) then
      matchesOf p.matcher.finder (l.text.length + 1) (.atStart l.text)
    else []
  let painted (b : Bytes) : Bytes := match s.colours with
    | some c => c.start colour ++ b ++ c.stop colour
    | none => b
  if s.partsOnly then
    let sign := if s.inverted then "-" else ":"
    parts.flatMap fun (k, b) =>
      p.head sign l.number (l.offset + k) false ++ painted b ++ [ending]
  else
    let lineColour := (s.colours.map (·.ofLine l.selected s.inverted)).getD []
    let start := (s.colours.map (·.start lineColour)).getD []
    let stop := (s.colours.map (·.stop lineColour)).getD []
    let (text, done) := parts.foldl (fun (text, done) (k, b) =>
      (text ++ start ++ (l.text.drop done).take (k - done) ++ painted b, k + b.length))
      (([] : Bytes), 0)
    let rest := l.text.drop done
    let tail := if rest.getLast? = some 13 then rest.dropLast else rest
    p.head (if l.selected then ":" else "-") l.number l.offset l.text.isEmpty ++ text
      ++ (if tail.isEmpty then rest else start ++ tail ++ stop ++ rest.drop tail.length) ++ [ending]

/-- The lines that are printed: those that are selected, of which there are at most so many, and
those near enough to them. -/
def withContext (before after : Nat) (most : Option Nat) (ls : List SourceLine) :
    List SourceLine :=
  let chosen := ls.filter (·.selected)
  let chosen := match most with
    | some n => chosen.take n
    | none => chosen
  let numbers := chosen.map (·.number)
  let last := numbers.getLastD 0
  if before = 0 && after = 0 then chosen
  else
    ls.filterMap fun l =>
      let near := numbers.any fun n => l.number ≤ n + after && n ≤ l.number + before
      if !near then none
      else some { l with selected := l.selected && l.number ≤ last }

/-- Prints lines with a separator between those that are not neighbours; the flag tells that
something was printed before. -/
def LinePrinter.lines (p : LinePrinter) (used : Bool) (ls : List SourceLine) : Bytes :=
  let s := p.selection
  let grouped := s.contexts.1.isSome || s.contexts.2.isSome
  (ls.foldl (fun (out, last, used) l =>
    let apart := grouped && used && last != some (l.number - 1)
    let gap := match s.separator with
      | some b =>
        if apart then tinted s.colours .separator b ++ [Text.lineFeed] else []
      | none => []
    (out ++ gap ++ p.line l, some l.number, true)) (([] : Bytes), (none : Option Nat), used)).1

/-! ## Files -/

/-- A file to be searched, or a complaint. -/
abbrev SearchItem := (Bytes × Bytes × Bool) ⊕ Bytes

/-- Whether a file is searched; the first kind of rule tells what is done without one that fits. -/
def Selection.admits (s : Selection) (name : Bytes) : Bool :=
  let last := ((pieces (· == Path.slash) name).getLast?).getD []
  match (s.nameRules.reverse.find? fun (_, p) => nameMatches p name || nameMatches p last) with
  | some (admitted, _) => admitted
  | none => s.nameRules.head?.all fun (admitted, _) => !admitted

/-- Whether a directory is passed over. -/
def Selection.passes (s : Selection) (name : Bytes) : Bool :=
  s.passedFolders.any (nameMatches · name)

/-- The files below a directory; at most `n` levels. -/
def Selection.filesBelow (s : Selection) (t : FileTree) : Nat → Bytes → Location → List SearchItem
  | 0, _, _ => []
  | n + 1, front, place =>
    (t.names place).flatMap fun name =>
      let path := front ++ name
      match t.entry? (place ++ [name]) with
      | some .directory =>
        if s.passes name then []
        else filesBelow s t n (path ++ [Path.slash]) (place ++ [name])
      | some (.regular k) => if s.admits path then [.inl (path, t.content k, true)] else []
      | some (.program _) =>
        if s.admits path then [.inl (path, FileTree.programImage, true)] else []
      | _ => []

/-- The files that an operand stands for. -/
def Selection.filesOf (s : Selection) (inv : Invocation) (t : FileTree) (name : Bytes) :
    List SearchItem :=
  let complaintAbout (label : Bytes) (e : Errno) : List SearchItem :=
    [.inr (complain inv (label ++ ascii ": " ++ ascii e.text))]
  let complaint := complaintAbout name
  if name = dash then
    match inv.origin with
    | .unreadable e => complaintAbout s.label e ++ [.inl (s.label, [], false)]
    | _ => [.inl (s.label, inv.stdin, false)]
  else if takesInput inv name then [.inl (name, inv.stdin, false)]
  else
    match t.find inv.cwd name with
    | .ok (place, .directory) =>
      match if s.passes name then .skipped else s.folders with
      | .refused => complaint .isDirectory ++ [.inl (name, [], false)]
      | .skipped => []
      | .searched =>
        let slash := if name.getLast? = some Path.slash then [] else [Path.slash]
        s.filesBelow t t.entries.length (name ++ slash) place
    | .ok _ =>
      if !s.admits name then []
      else
        match readOperand inv t name with
        | .ok b => [.inl (name, b, false)]
        | .error e => complaint e
    | .error e => complaint e

/-- What has been found so far. -/
structure Findings where
  told : List Print := []
  /-- Lines were printed. -/
  used : Bool := false
  failed : Bool := false
  found : Bool := false
  /-- Nothing more needs to be searched. -/
  settled : Bool := false
  /-- How many bytes of the input were needed, if not all of it was. -/
  needed : Option Nat := none

def Findings.print (f : Findings) (b : Bytes) : Findings :=
  if b.isEmpty then f else { f with told := f.told ++ [.out b], used := true }

/-- Prints a complaint. -/
def Findings.object (f : Findings) (b : Bytes) : Findings := { f with told := f.told ++ [.err b] }

/-- How many bytes of the input are needed, as far as they are known, if nothing behind them is
looked at; the flag tells that further input may come. -/
def Selection.needs (s : Selection) (more : Bool) (ls chosen : List SourceLine) : Option Nat :=
  match s.most, chosen.getLast? with
  | some n, some l =>
    let behind := (s.contexts.2.getD 0)
    let isKnown := !more || l.number + behind ≤ ls.length || s.counts || s.lists.isSome
    if chosen.length = n && isKnown then some (l.offset + l.text.length + 1) else none
  | _, _ => none

/-- Searches one file.  In a file that is binary because it holds NUL characters these end lines. -/
def Selection.search (s : Selection) (inv : Invocation) (t : FileTree) (m : Matcher)
    (named : Option Bool) (f : Findings) (item : SearchItem) : Findings :=
  match item with
  | .inr complaint =>
    { (if s.silent then f else f.object complaint) with failed := true }
  | .inl (name, b, below) =>
    let ending : UInt8 := if s.zeroLines then 0 else Text.lineFeed
    let isStdin := name = s.label || takesInput inv name
    let b := if isStdin && inv.more then (b.reverse.dropWhile (· != ending)).reverse else b
    let shownName := if named.getD below then some name else none
    let isBinary := !s.zeroLines && s.binary ≠ .text && b.contains 0
    let ls := if !isBinary then sourceLines m ending b
      else if s.binary = .skipped then []
      else sourceLines m ending (b.map fun c => if c = 0 then ending else c)
    let chosen := ls.filter (·.selected)
    let chosen := match s.most with
      | some n => chosen.take n
      | none => chosen
    let f := { f with found := f.found || !chosen.isEmpty
                      needed := if isStdin then s.needs inv.more ls chosen else f.needed }
    let nameLine : Bytes := tinted s.colours .fileName name ++ [if s.zeroNames then 0 else Text.lineFeed]
    if s.quiet then { f with settled := !chosen.isEmpty }
    else if name ≠ s.label && isOutputFile name then
      { f.object (complain inv (name ++ ascii ": input file is also the output")) with
          failed := true }
    else
      let counted := if s.counts then
          (match shownName with
            | some n => tinted s.colours .fileName n
              ++ (if s.zeroNames then [0] else tinted s.colours .separator (ascii ":"))
            | none => []) ++ decimal chosen.length ++ [Text.lineFeed]
        else []
      match s.lists with
      | some .selected => if chosen.isEmpty then f else f.print nameLine
      | some .unselected => if chosen.isEmpty then f.print nameLine else f
      | none =>
        if s.counts then f.print counted
        else if isBinary then
          if chosen.isEmpty then f
          else f.object (complain inv (name ++ ascii ": binary file matches"))
        else
          let p : LinePrinter := { selection := s, matcher := m, name := shownName }
          let (before, after) := s.contexts
          let printed := withContext (before.getD 0) (after.getD 0) s.most ls
          f.print (p.lines f.used printed)
where
  /-- Whether a file is the one that the output goes to. -/
  isOutputFile (name : Bytes) : Bool :=
    match inv.outFile, t.find inv.cwd name with
    | some n, .ok (_, .regular k) =>
      n = k && s.lists.isNone && !s.counts && s.most.all (1 < ·) && !(t.content k).isEmpty
    | _, _ => false

/-- Selects lines by patterns. -/
def grep : Tool := guarded Manual.grep fun inv t => do
  let start : Selection := {}
  let warn (s : Selection) (h : Halt) : Halt := h.mapErr (s.warnings ++ ·)
  let read := readCallAloud grepOptions anywhere grepFailure warn (Selection.take inv t)
  let (s, operands) ← (read start inv) |>.mapError fun h =>
      let advice := hint inv
      h.mapErr fun err =>
        if advice.isSuffixOf err then err.take (err.length - advice.length) ++ grepUsage inv
        else err
  if s.asksVersion then throw .version
  if s.asksHelp then throw .help
  let (patterns, names) ←
    match s.patterns, operands with
    | some ps, names => pure (ps, names)
    | none, p :: names => pure (patternsOf p, names)
    | none, [] => throw (.complaint (s.warnings ++ grepUsage inv) grepFailure)
  let (colours, oldWay) := MatchColours.ofEnvironment inv
  let s := if s.coloured
    then { s with colours := some colours, warnings := s.warnings ++ oldWay } else s
  if s.isHopeless patterns && s.lists ≠ some .unselected then
    return { files := t, err := s.warnings, code := 1, unread := inv.stdin }
  let (m, warnings) ← (s.matcher inv patterns).mapError (·.mapErr (s.warnings ++ ·))
  let readsInput := names.isEmpty && s.folders ≠ .searched
  let items :=
    match names, s.folders with
    | [], .searched => s.filesBelow t t.entries.length [] inv.cwd
    | [], _ => s.filesOf inv t dash
    | names, _ => (operandCalls inv (reachable inv names)).flatMap fun (inv, name) =>
      s.filesOf inv t name
  let named := match s.named with
    | some b => some b
    | none => if 1 < names.length then some true
      else if s.folders = .searched then none else some false
  let f := items.foldl (fun f item => if f.settled then f else s.search inv t m named f item)
    ({} : Findings)
  let usesInput := readsInput || names.any (takesInput inv)
  let lists := s.counts || s.lists.isSome
  let isCertain := f.settled || f.needed.isSome
    || (s.lists.isSome && f.found && inv.more && (readsInput || names.length = 1))
  let warned := s.warnings ++ warnings
  let told := .err warned :: f.told
  return { files := t, told
           unread := if !usesInput then inv.stdin
             else
               match inv.origin, f.needed with
               | .file _ _, some n => inv.stdin.drop n
               | _, _ => []
           finished := usesInput && isCertain
           settled := if lists || s.quiet then 0
             else warned.length + wholeBlocks (total (f.told.map (·.bytes.length)))
           code := if f.failed && !(s.quiet && f.found) then grepFailure
             else if f.found then 0 else 1 }

end Relay.Userland
