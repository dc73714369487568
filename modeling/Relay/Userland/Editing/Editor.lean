import Relay.Userland.Editing.Explaining
import Relay.Userland.Editing.Flaw

/-!
# Editing lines by a script

An `Editor` is the state between two commands: the line in hand, the line kept aside, the lines to
come and what was printed.  A command changes the editor and tells where to go on; a cycle starts
with reading a line and ends with printing it.  Where a command asks for the output of a program the
editor stops, and goes on with what is given to it.
-/

namespace Relay.Userland.Edit

/-! ## The editor -/

/-- The exit code for wrong calls. -/
def usageFailure : Nat := 1

/-- The exit code for files that cannot be read. -/
def inputFailure : Nat := 2

/-- The exit code for trouble. -/
def panicFailure : Nat := 4

structure InputLine where
  text : Bytes
  /-- The line has an end. -/
  ended : Bool

/-- What opening a file of the input leads to. -/
inductive Opening where
  | lines (ls : List InputLine)
  | input
  /-- It is passed over with a complaint. -/
  | missing (complaint : Bytes)
  /-- It is opened, but reading it fails. -/
  | unreadable (message : Bytes)
  /-- The work ends. -/
  | refused (message : Bytes)

/-- How far the range of a command has come. -/
inductive Span where
  | ready
  /-- Some line was the first one; the line with the number, or the first one behind it, is the last
  one, if that is known. -/
  | active (last : Option Nat)
  | over

/-- The pattern that was used last. -/
structure LatestPattern where
  regex : Regex
  /-- It was only asked whether it matches. -/
  isBare : Bool

/-- What is printed behind a line. -/
inductive Appended where
  | text (b : Bytes)
  | file (path : Bytes)

/-- A file that is written to: its path, its descriptor, and what is gathered before it is
written. -/
structure Handle where
  path : Bytes
  descriptor : Nat
  pending : Bytes := []

/-- A file that is read line by line: its path, its lines and those that are left. -/
structure LineReader where
  path : Bytes
  lines : List InputLine
  left : List InputLine

/-- What does not change while a script runs. -/
structure Setting where
  program : Array Command
  /-- The place in words that complaints about the running script name. -/
  place : Bytes := []
  /-- A replacement cannot refer to groups that the pattern lacks. -/
  checksReferences : Bool := true
  quiet : Bool := false
  /-- Every file has a last line. -/
  separate : Bool := false
  /-- Files are changed in place, and kept under a name that is made with this suffix. -/
  inPlace : Option Bytes := none
  ending : UInt8 := Text.lineFeed
  /-- Nothing is gathered before it is written. -/
  unbuffered : Bool := false
  /-- The width of lines made visible. -/
  width : Nat := 70
  cwd : Location := []
  opening : FileTree → Bytes → Opening
  /-- What opening the input once more by its path gives, if that is a file. -/
  reopened : Option Bytes := none
  /-- Further lines of the input may come behind those that are known. -/
  more : Bool := false
  /-- A line to which the next one cannot be added is printed. -/
  keepsLast : Bool := true
  /-- What is written to the output does not wait for what is printed. -/
  writesAside : Bool := false
  /-- Everything that is done is explained. -/
  explains : Bool := false

structure Editor where
  files : FileTree
  line : Bytes := []
  ended : Bool := true
  kept : Bytes := []
  keptEnded : Bool := true
  number : Nat := 0
  /-- What is left of the input, and whether anything was read from it. -/
  input : List InputLine := []
  isTouched : Bool := false
  /-- The name of the file that was opened last, whether it is still open, whether it is the input,
  and its further lines if it is not. -/
  name : Bytes := dash
  isOpen : Bool := false
  isInput : Bool := false
  queue : List InputLine := []
  /-- The next line was looked at. -/
  peeked : Bool := false
  /-- The names of the files of the input that are not open yet. -/
  sources : List Bytes := []
  /-- A file could not be opened. -/
  isBad : Bool := false
  appended : List Appended := []
  /-- How far the ranges of commands have come. -/
  ranges : List (Nat × Span) := []
  replaced : Bool := false
  lastPattern : Option LatestPattern := none
  readers : List LineReader := []
  handles : List Handle := []
  /-- The targets whose last line lacks its end. -/
  lacking : List Target := []
  /-- What was printed, the last part first. -/
  out : List Bytes := []
  lacksEnd : Bool := false
  /-- What was written to the output itself aside from what was printed, the last part first. -/
  direct : List Bytes := []
  err : List Bytes := []
  /-- Why the work cannot go on. -/
  trouble : Option Bytes := none
  /-- How many blocks are open in explanations. -/
  depth : Int := 0
  /-- What comes next depends on lines that are not known. -/
  starved : Bool := false

/-- What the output of a program is wanted for. -/
inductive Purpose where
  | printing
  | replacing
  /-- It replaces the line, which is the result of a substitution. -/
  | substituting (c : Substitution)

/-- Where to go on after a command. -/
inductive Move where
  | next
  | jump (index : Nat)
  /-- The cycle ends, and its line is printed. -/
  | finish
  /-- The cycle ends, and nothing is printed. -/
  | drop
  /-- The cycle ends as if it had not been there. -/
  | vanish
  /-- The cycle starts again without reading a line. -/
  | again
  | quit (code : Nat) (prints : Bool)
  /-- It goes on at an index with the output of a shell command. -/
  | run (command : Bytes) (purpose : Purpose) (index : Nat)
  | fail (message : Bytes) (code : Nat)

namespace Editor

/-! ## Printing -/

/-- Prints a text, which may lack its end; a line that lacked its end before gets it now. -/
def print (e : Editor) (s : Setting) (b : Bytes) (ended : Bool) : Editor :=
  let text := (if e.lacksEnd then [s.ending] else []) ++ b ++ (if ended then [s.ending] else [])
  { e with out := text :: e.out, lacksEnd := !ended }

def printRaw (e : Editor) (s : Setting) (b : Bytes) : Editor :=
  { e.print s b false with lacksEnd := false }

/-- Prints a text of a script, whose last line feed is the end of its line. -/
def printText (e : Editor) (s : Setting) (b : Bytes) : Editor :=
  if b.getLast? = some Text.lineFeed then e.print s b.dropLast true else e.printRaw s b

/-- Adds to what is gathered for a file, and writes what does not fit into a block any longer. -/
def gather (e : Editor) (s : Setting) (path text : Bytes) : Editor :=
  match e.handles.find? (·.path = path) with
  | none => e
  | some h =>
    let pending := h.pending ++ text
    let n := if s.unbuffered then pending.length else wholeBlocks (pending.length - 1)
    let h := { h with pending := pending.drop n }
    { e with files := if n = 0 then e.files else (e.files.write h.descriptor (pending.take n)).2
             handles := e.handles.map fun h' => if h'.path = path then h else h' }

/-- Writes a line to a target, on which a line that lacked its end before gets it now. -/
def write (e : Editor) (s : Setting) (target : Target) (b : Bytes) (ended : Bool) : Editor :=
  let text := (if e.lacking.contains target then [s.ending] else []) ++ b
    ++ (if ended then [s.ending] else [])
  let others := e.lacking.filter (· ≠ target)
  let e := { e with lacking := if ended then others else target :: others }
  match target with
  | .output =>
    if s.writesAside then { e with direct := text :: e.direct } else { e with out := text :: e.out }
  | .errors => { e with err := text :: e.err }
  | .input =>
    let items := if b.length < 2 then ascii "1 item" else decimal b.length ++ ascii " items"
    { e with trouble := ascii "couldn't write " ++ items ++ ascii " to stdin: "
                          ++ ascii Errno.badDescriptor.text }
  | .file path => e.gather s path text

/-- Says something in an explanation, whatever was printed before. -/
def say (e : Editor) (s : Setting) (b : Bytes) : Editor :=
  let line := b ++ [Text.lineFeed]
  if !s.explains then e
  else if s.inPlace.isSome then { e with direct := line :: e.direct }
  else { e with out := line :: e.out }

/-- Says what the line in hand is. -/
def sayLine (e : Editor) (s : Setting) : Editor :=
  e.say s (ascii "PATTERN: " ++ explainedLine e.line)

/-- Says what is kept aside. -/
def sayKept (e : Editor) (s : Setting) : Editor :=
  e.say s (ascii "HOLD:    " ++ explainedLine e.kept)

/-- Says which command comes next. -/
def sayCommand (e : Editor) (s : Setting) (c : Command) : Editor :=
  if !s.explains then e
  else
    let (here, further) := depthsAt e.depth c
    { e.say s (ascii "COMMAND: " ++ (explainedCommand here c).dropLast) with depth := further }

/-- Says what an action made of the line and of what is kept aside. -/
def sayResult (e : Editor) (s : Setting) (a : Action) (move : Move) : Editor :=
  match a, move with
  | .substitute _, .next => e.sayLine s
  | .transliterate _ _, _ => e.sayLine s
  | .next, .next => e.sayLine s
  | .join, .next => e.sayLine s
  | .recall true, _ => e.sayLine s
  | .clear, _ => e.sayLine s
  | .recall false, _ => e.sayKept s
  | .keep _, _ => e.sayKept s
  | .exchange, _ => (e.sayLine s).sayKept s
  | .deleteFirst, .again => e.sayLine s
  | _, _ => e

/-! ## Reading -/

def bytesOf (s : Setting) (l : InputLine) : Bytes := l.text ++ if l.ended then [s.ending] else []

def linesOf (ending : UInt8) (b : Bytes) : List InputLine :=
  let ps := pieces (· == ending) b
  let ended : List InputLine := ps.dropLast.map fun text => { text, ended := true }
  match ps.getLastD [] with
  | [] => ended
  | text => ended ++ [{ text, ended := false }]

/-- The work cannot go on because a directory cannot be read. -/
def cannotRead (e : Editor) (name : Bytes) (reason : String) : Editor :=
  { e with trouble := ascii "read error on " ++ name ++ ascii ": " ++ ascii reason }

/-- What is left of the input if it is read under its path.  A pipe that was read before has nothing
left: what was not used of it was read all the same. -/
def drain (e : Editor) (s : Setting) : Bytes × Editor :=
  match s.reopened with
  | some b => (b, e)
  | none =>
    if e.isTouched then ([], e)
    else
      (e.input.flatMap (bytesOf s),
        { e with input := [], isTouched := true, starved := e.starved || s.more })

/-- Prints what stands behind the line. -/
def flush (e : Editor) (s : Setting) : Editor :=
  let e' := e.appended.foldl (fun (e : Editor) a =>
    match a, e.trouble with
    | _, some _ => e
    | .text b, _ => e.printRaw s b
    | .file path, _ =>
      if path = Target.input.path then
        let (b, e) := e.drain s
        e.printRaw s b
      else
        match e.files.read s.cwd path with
        | .ok (.bytes b) => e.printRaw s b
        | .error .isDirectory => (e.printRaw s []).cannotRead path Errno.isDirectory.text
        | _ => e.printRaw s []) e
  { e' with appended := [] }

/-- The further lines of the open file. -/
def ahead (e : Editor) : List InputLine := if e.isInput then e.input else e.queue

/-- Whether the further lines of the open file are not known. -/
def isBlind (e : Editor) (s : Setting) : Bool := s.more && e.isInput

/-- The name under which a file is kept before it is changed in place. -/
def backupName (suffix name : Bytes) : Bytes :=
  let base := ((pieces (· == Path.slash) name).getLast?).getD []
  let folder := name.take (name.length - base.length)
  if suffix.contains 42 then
    let made := suffix.flatMap fun b => if b == 42 then base else [b]
    if made.contains Path.slash then made else folder ++ made
  else name ++ suffix

/-- Writes a whole file. -/
def replaceFile (t : FileTree) (cwd : Location) (name b : Bytes) : Except Errno FileTree := do
  let (descriptor, t) ← t.openWrite cwd name .truncate
  return ((t.write descriptor b).2).close descriptor

/-- Closes the open file, and stores what was printed for it if it is changed in place. -/
def close (e : Editor) (s : Setting) : Editor :=
  match s.inPlace, e.isOpen with
  | some suffix, true =>
    let e := { e with isOpen := false }
    let old := match e.files.read s.cwd e.name with
      | .ok (.bytes b) => b
      | _ => []
    let stored : Except Errno FileTree := do
      let t ← if suffix.isEmpty then pure e.files
        else replaceFile e.files s.cwd (backupName suffix e.name) old
      replaceFile t s.cwd e.name e.out.reverse.flatten
    match stored with
    | .ok files => { e with files, out := [], lacksEnd := false }
    | .error flaw =>
      { e with trouble := ascii "cannot rename " ++ e.name ++ ascii ": " ++ ascii flaw.text }
  | _, _ => { e with isOpen := false }

/-- Opens a file, which stands before others.  If it cannot be read that is trouble, unless its lines
are not asked for. -/
def openFile (e : Editor) (s : Setting) (name : Bytes) (others : List Bytes) (reads : Bool) :
    Editor :=
  let e := { e with name, sources := others, isInput := false, queue := [] }
  match s.opening e.files name with
  | .lines ls => { e with isOpen := true, queue := ls }
  | .input => { e with isOpen := true, isInput := true, isTouched := true }
  | .missing complaint => { e with isBad := true, err := complaint :: e.err }
  | .unreadable message => if reads then { e with trouble := some message } else e
  | .refused message => { e with trouble := some message }

/-- Opens files until there is a line in one. -/
def lookAhead (s : Setting) : List Bytes → Editor → Editor
  | [], e => { e with isOpen := false }
  | name :: others, e =>
    let e := e.openFile s name others false
    if e.ahead.isEmpty then lookAhead s others e else e

/-- Whether the line in hand is the last one; this may depend on lines that are not known. -/
def isLast (e : Editor) (s : Setting) : Bool × Editor :=
  let e := if e.ahead.isEmpty && !s.separate then lookAhead s e.sources e else e
  if e.ahead.isEmpty then (true, { e with starved := e.starved || e.isBlind s })
  else (false, { e with peeked := true })

/-- How far the ranges are before the first line.  One that starts before it is active. -/
def firstRanges (program : Array Command) : List (Nat × Span) :=
  program.toList.zipIdx.filterMap fun (c, index) =>
    match c.first with
    | some (.line 0) => some (index, .active none)
    | _ => none

/-- Goes on to the next file, and further until there is a line in one.  If files are separate all
starts anew. -/
def advance (s : Setting) : List Bytes → Editor → Editor
  | [], e => e.close s
  | name :: others, e =>
    let e := e.close s
    let e := if !s.separate then e
      else
        { e with number := 0, ranges := firstRanges s.program, kept := []
                 readers := e.readers.map fun r => { r with left := r.lines } }
    if e.trouble.isSome then e
    else
      let e := e.openFile s name others true
      if e.trouble.isSome || !e.ahead.isEmpty then e else advance s others e

/-- Reads the next line, alone or behind the line in hand; answers whether there was one. -/
def read (e : Editor) (s : Setting) (adds : Bool) : Bool × Editor :=
  let e := e.flush s
  let e := if e.trouble.isNone && e.ahead.isEmpty then advance s e.sources e else e
  match e.trouble, e.ahead with
  | none, l :: rest =>
    let e := if e.isInput then { e with input := rest } else { e with queue := rest }
    (true, { e with line := if adds then e.line ++ s.ending :: l.text else l.text
                    ended := l.ended, number := e.number + 1, peeked := false
                    replaced := false })
  | _, _ => (false, e)

/-! ## Addresses -/

/-- A complaint about the running script. -/
def mistake (s : Setting) (flaw : ScriptFlaw) : Move :=
  .fail (s.place ++ flaw.message) usageFailure

/-- The pattern that is meant by another one, which may stand for the last one. -/
def meant (e : Editor) (p : Pattern) : Option LatestPattern :=
  match p.regex with
  | some regex => some { regex, isBare := true }
  | none => e.lastPattern

/-- Whether a pattern matches the line in hand; the pattern is remembered. -/
def matchLine (e : Editor) (p : Pattern) : Option (Bool × Editor) :=
  (e.meant p).map fun p => (p.regex.isIn e.line, { e with lastPattern := some p })

/-- Whether the line in hand is one of every so many, from some line on. -/
def isStep (e : Editor) (first step : Nat) : Bool :=
  first ≤ e.number && (e.number - first) % step = 0

/-- Whether an address names the line in hand; nothing if it needs a pattern and there is none. -/
def isAt (e : Editor) (s : Setting) (a : Address) : Option (Bool × Editor) :=
  match a with
  | .every => some (true, e)
  | .line n => some (e.number = n, e)
  | .step first step => some (e.isStep first step, e)
  | .last => some (e.isLast s)
  | .pattern p => e.matchLine p
  | .plus _ => some (false, e)
  | .multiple _ => some (false, e)

/-- How far the range of a command is. -/
def span (e : Editor) (index : Nat) : Span := (e.ranges.lookup index).getD .ready

/-- Notes how far the range of a command is. -/
def withSpan (e : Editor) (index : Nat) (span : Span) : Editor :=
  { e with ranges := (index, span) :: e.ranges.filter (·.1 ≠ index) }

/-- Whether the range of a command goes on behind the line in hand. -/
def isWithin (e : Editor) (index : Nat) : Bool :=
  match e.span index with
  | .active _ => true
  | _ => false

/-- Whether a range starts with the line in hand.  A line number that was passed by while nobody
looked does as well, but only once. -/
def starts (e : Editor) (s : Setting) (index : Nat) (a : Address) : Option (Bool × Editor) :=
  match a, e.span index with
  | .line _, .over => some (false, e)
  | .line n, _ => some (n ≤ e.number, e)
  | a, _ => e.isAt s a

/-- Starts the range of a command that ends with an address; answers whether the line in hand counts.
It does not if it is behind both of two line numbers.  A pattern is only looked for in the lines that
follow. -/
def enter (e : Editor) (s : Setting) (index : Nat) (a b : Address) : Bool × Editor :=
  let upTo (n : Nat) : Bool × Editor := (true, e.withSpan index (.active (some n)))
  let upToSome (e : Editor) : Bool × Editor := (true, e.withSpan index (.active none))
  let single (e : Editor) : Bool × Editor := (true, e.withSpan index .over)
  match b with
  | .line n =>
    if e.number < n then upTo n
    else
      let counts := match a with
        | .line first => e.number = first || e.number = n
        | _ => true
      (counts, e.withSpan index .over)
  | .step first step =>
    if e.isStep first step then single e else upToSome e
  | .plus n => if n = 0 then single e else upTo (e.number + n)
  | .multiple n => if n = 0 then single e else upTo ((e.number / n + 1) * n)
  | .last =>
    let (isLast, e) := e.isLast s
    if isLast then single e else upToSome e
  | _ => upToSome e

/-- Whether the addresses of a command name the line in hand. -/
def selects (e : Editor) (s : Setting) (index : Nat) (c : Command) : Option (Bool × Editor) :=
  match c.first, c.last with
  | none, _ => some (true, e)
  | some a, none => e.isAt s a
  | some a, some b =>
    let goOn (ends : Bool) (e : Editor) : Editor := if ends then e.withSpan index .over else e
    match e.span index, b with
    | .active _, .line n => some (e.number ≤ n, goOn (n ≤ e.number) e)
    | .active (some n), _ => some (true, goOn (n ≤ e.number) e)
    | .active none, _ => do
      let (ends, e) ← e.isAt s b
      return (true, goOn ends e)
    | _, _ => do
      let (starts, e) ← e.starts s index a
      return if starts then e.enter s index a b else (false, e)

/-! ## Substitution -/

def shift (m : LetterMode) (c : Char) : Char :=
  match m with
  | .asIs => c
  | .upper => c.toUpper
  | .lower => c.toLower

/-- A text whose first letter may be changed in another way than the others. -/
def shifted (mode : LetterMode) (once : Option LetterMode) : List Char → List Char
  | [] => []
  | c :: cs => shift (once.getD mode) c :: cs.map (shift mode)

/-- The replacement of a match.  A change of one letter that finds none, because a group matched
nothing, is left for the next part, unless that part brings its own. -/
def fillIn (whole : List Char) (match? : Nat → Option (List Char)) :
    Option LetterMode → List Segment → List Char
  | _, [] => []
  | left, p :: rest =>
    let once := p.once <|> left
    let text := shifted p.mode once p.text
    let once := if p.text.isEmpty then once else none
    match p.group with
    | none => text ++ fillIn whole match? none rest
    | some n =>
      let found := if n = 0 then whole else (match? n).getD []
      let left := if found.isEmpty && p.once.isSome then once else none
      text ++ shifted p.mode once found ++ fillIn whole match? left rest

/-- Replaces the `nth` match and, if asked to, all later ones; answers the new text from a place on
and whether anything was replaced.  An empty match right behind another one does not count. -/
def replaceFrom (p : Regex) (segments : List Segment) (all : Bool) :
    Nat → Nat → Bool → Place → List Char × Bool
  | 0, _, _, s => (s.after, false)
  | fuel + 1, nth, afterMatch, s =>
    match p.search s with
    | none => (s.after, false)
    | some (start, stop) =>
      let skipped := s.since start
      let whole := start.since stop
      let emptyAgain := whole.isEmpty && afterMatch && start.index = s.index
      let counted := if emptyAgain then nth else nth - 1
      let replaces := !emptyAgain && nth ≤ 1
      let text (n : Nat) : Option (List Char) := (stop.capture? n).map (·.text)
      let shown := if replaces then fillIn whole text none segments else whole
      if replaces && !all then (skipped ++ shown ++ stop.after, true)
      else
        let stop := { stop with groups := [] }
        if whole.isEmpty then
          match stop.next? with
          | none => (skipped ++ shown, replaces)
          | some further =>
            let (rest, more) := replaceFrom p segments all fuel counted false further
            (skipped ++ shown ++ stop.after.take 1 ++ rest, replaces || more)
        else
          let (rest, more) := replaceFrom p segments all fuel counted true stop
          (skipped ++ shown ++ rest, replaces || more)

/-- Says what the first match of a pattern is and what its groups matched, up to one that matched
nothing. -/
def sayMatch (e : Editor) (s : Setting) (p : Regex) : Editor :=
  if !s.explains then e
  else
    match p.search (.atStart e.line) with
    | none => e
    | some (start, stop) =>
      let captures := (List.range p.groupCount).map fun k => stop.capture? (k + 1)
      let whole : Capture := ⟨0, start.index, start.since stop⟩
      let found := whole :: (captures.takeWhile (·.isSome)).filterMap id
      found.foldl (fun e c =>
        let place := s!"  regex[{c.group}] = {c.start}-{c.start + c.text.length} '"
        e.say s (ascii place ++ octets c.text ++ ascii "'"))
        (e.say s (ascii "MATCHED REGEX REGISTERS"))

/-- Replaces matches in the line in hand; answers whether there were any. -/
def replace (e : Editor) (s : Setting) (c : Substitution) : Except ScriptFlaw (Bool × Editor) := do
  match e.meant c.pattern with
  | none => throw .noPattern
  | some latest =>
    let p := latest.regex
    let number := largestReference c.segments
    if s.checksReferences && latest.isBare && p.groupCount < number then
      throw (.badReference number)
    let e := e.sayMatch s p
    let (cs, replaced) :=
      replaceFrom p c.segments c.all (e.line.length + 2) (c.nth.getD 1) false (.atStart e.line)
    return (replaced, { e with
      line := octets cs, lastPattern := some { regex := p, isBare := false }
      replaced := e.replaced || replaced })

/-- Prints and writes the result of a substitution, if it asks for that. -/
def passOn (e : Editor) (s : Setting) (c : Substitution) : Editor :=
  let e := if c.printed then e.print s e.line e.ended else e
  match c.target with
  | some target => e.write s target e.line e.ended
  | none => e

/-- Goes on with the output of a program. -/
def receive (e : Editor) (s : Setting) (purpose : Purpose) (output : Bytes) : Editor :=
  let line := if output.getLast? = some s.ending then output.dropLast else output
  match purpose with
  | .printing => e.printRaw s output
  | .replacing => { e with line, ended := true }
  | .substituting c => ({ e with line }.passOn s c).sayLine s

/-! ## Commands -/

/-- A line made visible, cut to a width. -/
def listed (width : Nat) (ending : UInt8) (b : Bytes) : Bytes :=
  let spell (x : UInt8) : Bytes :=
    if x == 92 then [92, 92] else if isPrinted x then [x] else escapedByte x
  (b.foldl (fun (done, used) x =>
    let text := spell x
    if 0 < width && width - 1 < used + text.length then
      (done ++ [92, ending] ++ text, text.length)
    else (done ++ text, used + text.length)) (([] : Bytes), 0)).1 ++ [36]

/-- The first line of a text, and what follows it. -/
def splitLine (ending : UInt8) (b : Bytes) : Bytes × Option Bytes :=
  let first := b.takeWhile (· != ending)
  (first, if first.length < b.length then some (b.drop (first.length + 1)) else none)

/-- Where a block that starts at an index ends. -/
def blockEnd (program : Array Command) : Nat → Nat → Nat → Nat
  | 0, i, _ => i
  | n + 1, i, depth =>
    match program[i]?.map Command.action with
    | none => i
    | some .openBlock => blockEnd program n (i + 1) (depth + 1)
    | some .closeBlock => if depth = 0 then i else blockEnd program n (i + 1) (depth - 1)
    | some _ => blockEnd program n (i + 1) depth

def jumpTarget (program : Array Command) (label : Option (List Char)) : Nat :=
  match label with
  | none => program.size
  | some name => (program.findIdx? fun c => c.isLabel name).getD program.size

/-- Reads the next line of a file that is read line by line. -/
def readLineOf (e : Editor) (s : Setting) (path : Bytes) : Option Bytes × Editor :=
  if path = Target.input.path then
    match e.input with
    | [] => (none, { e with isTouched := true, starved := e.starved || s.more })
    | l :: rest => (some (bytesOf s l), { e with isTouched := true, input := rest })
  else if path = Target.output.path then
    (none, e.cannotRead (ascii "stdout") Errno.badDescriptor.text)
  else if path = Target.errors.path then
    (none, e.cannotRead (ascii "stderr") Errno.badDescriptor.text)
  else
    let goOn (r : LineReader) : Option Bytes × Editor :=
      let others := e.readers.filter (·.path ≠ path)
      ((r.left.head?).map (bytesOf s),
        { e with readers := { r with left := r.left.tail } :: others })
    match e.readers.find? (·.path = path), e.files.read s.cwd path with
    | some r, _ => goOn r
    | none, .ok (.bytes b) =>
      let lines := linesOf s.ending b
      goOn { path, lines, left := lines }
    | none, .error .isDirectory => (none, e.cannotRead path Errno.isDirectory.text)
    | none, _ => (none, e)

def act (e : Editor) (s : Setting) (index : Nat) (a : Action) : Editor × Move :=
  match a with
  | .delete => (e, .drop)
  | .deleteFirst =>
    match splitLine s.ending e.line with
    | (_, none) => (e, .vanish)
    | (_, some rest) => ({ e with line := rest }, .again)
  | .print => (e.print s e.line e.ended, .next)
  | .printFirst =>
    let (line, rest) := splitLine s.ending e.line
    (e.print s line (rest.isSome || e.ended), .next)
  | .quit code => (e, .quit (code.getD 0) true)
  | .abandon code => (e, .quit (code.getD 0) false)
  | .number => (e.print s (decimal e.number) true, .next)
  | .list width => (e.print s (listed (width.getD s.width) s.ending e.line) true, .next)
  | .fileName => (e.print s e.name true, .next)
  | .clear => ({ e with line := [] }, .next)
  | .substitute c =>
    match e.replace s c with
    | .error flaw => (e, mistake s flaw)
    | .ok (false, e) => (e, .next)
    | .ok (true, e) =>
      if c.evaluated then (e, .run e.line (.substituting c) (index + 1))
      else (e.passOn s c, .next)
  | .transliterate source target =>
    ({ e with line := octets ((chars e.line).map fun c =>
        match source.idxOf? c with
        | some k => target.getD k c
        | none => c) }, .next)
  | .insert text => (e.printText s text, .next)
  | .append text => ({ e with appended := e.appended ++ [.text text] }, .next)
  | .change text =>
    (if e.isWithin index then e else e.printText s text, .drop)
  | .run command =>
    if command.isEmpty then (e, .run e.line .replacing (index + 1))
    else (e, .run command.dropLast .printing (index + 1))
  | .keep adds =>
    if adds then
      ({ e with kept := e.kept ++ s.ending :: e.line, keptEnded := e.ended }, .next)
    else ({ e with kept := e.line, keptEnded := e.ended }, .next)
  | .recall adds =>
    if adds then
      ({ e with line := e.line ++ s.ending :: e.kept, ended := e.keptEnded }, .next)
    else ({ e with line := e.kept, ended := e.keptEnded }, .next)
  | .exchange =>
    ({ e with line := e.kept, kept := e.line, ended := e.keptEnded, keptEnded := e.ended }, .next)
  | .next =>
    let (last, e) := e.isLast s
    let e := if s.quiet then e else e.print s e.line e.ended
    if last then (e, .drop) else ((e.read s false).2, .next)
  | .join =>
    let (last, e) := e.isLast s
    if last then (e, if s.keepsLast then .finish else .drop)
    else ((e.read s true).2, .next)
  | .readFile path => ({ e with appended := e.appended ++ [.file path] }, .next)
  | .readLine path =>
    let (line, e) := e.readLineOf s path
    (match line with
      | some l => { e with appended := e.appended ++ [.text l] }
      | none => e, .next)
  | .write target => (e.write s target e.line e.ended, .next)
  | .writeFirst target =>
    let (line, rest) := splitLine s.ending e.line
    (e.write s target line (rest.isSome || e.ended), .next)
  | .jump rule label =>
    let goes := match rule with
      | .always => true
      | .replaced => e.replaced
      | .notReplaced => !e.replaced
    let e := match rule with
      | .always => e
      | _ => { e with replaced := false }
    (e, if goes then .jump (jumpTarget s.program label) else .next)
  | .label _ => (e, .next)
  | .openBlock => (e, .next)
  | .closeBlock => (e, .next)
  | .retired _ => (e, .fail (ascii "INTERNAL ERROR: Bad cmd L") panicFailure)

/-- Does the commands from an index on, at most `n` of them. -/
def perform (s : Setting) : Nat → Nat → Editor → Editor × Move
  | 0, _, e => (e, .finish)
  | n + 1, index, e =>
    match s.program[index]? with
    | none => (e, .finish)
    | some c =>
      match (e.sayCommand s c).selects s index c with
      | none => (e.sayCommand s c, mistake s .noPattern)
      | some (selected, e) =>
        if selected = c.negated then
          match c.action with
          | .openBlock => perform s n (blockEnd s.program s.program.size (index + 1) 0) e
          | _ => perform s n (index + 1) e
        else
          let (e, move) := e.act s index c.action
          let e := e.sayResult s c.action move
          match if e.trouble.isSome then .finish else move with
          | .next => perform s n (index + 1) e
          | .jump target => perform s n target e
          | move => (e, move)

/-- How many commands a cycle does at most, and how many cycles there are at most. -/
def stepLimit : Nat := 10000000

/-! ## Cycles -/

inductive Start where
  | reading
  /-- With the line in hand. -/
  | again
  /-- In the midst of the commands. -/
  | within (index : Nat)

/-- How far an editor gets. -/
inductive Outcome where
  | over (code : Nat)
  | failed (message : Bytes) (code : Nat)
  /-- It goes on with the output of a shell command. -/
  | asks (command : Bytes) (purpose : Purpose) (index : Nat)

/-- Starts a cycle; answers where its commands begin, unless there is no line for it. -/
def begin (e : Editor) (s : Setting) : Start → Option Nat × Editor
  | .reading =>
    match e.read s false with
    | (false, e) => (none, e)
    | (true, e) =>
      let name := if e.name = dash then ascii "STDIN" else e.name
      let e := e.say s (ascii "INPUT:   '" ++ name ++ ascii "' line " ++ decimal e.number)
      (some 0, e.sayLine s)
  | .again => (some 0, e)
  | .within index => (some index, e)

def endCycle (e : Editor) (s : Setting) (prints : Bool) : Editor :=
  let e := e.say s (ascii "END-OF-CYCLE:")
  if prints && !s.quiet then e.print s e.line e.ended else e

/-- How far an editor got, unless there was trouble. -/
def finished (e : Editor) (code : Nat) : Editor × Outcome :=
  match e.trouble with
  | some message => (e, .failed message panicFailure)
  | none => (e, .over code)

/-- The end of the work, with an exit code. -/
def leave (e : Editor) (s : Setting) (code : Nat) : Editor × Outcome :=
  (if e.trouble.isSome then e else e.close s).finished code

/-- Runs cycles, at most `n` of them, until the input ends or a program has to be run.  A cycle that
depends on lines that are not known is not begun. -/
def cycles (s : Setting) : Nat → Start → Editor → Editor × Outcome
  | 0, _, e => (e, .over 0)
  | n + 1, start, e =>
    match e.begin s start with
    | (none, e) =>
      if e.isBlind s && e.trouble.isNone then ({ e with starved := true }, .over 0)
      else e.finished 0
    | (some index, begun) =>
      let (e', move) := perform s stepLimit index begun
      if e'.starved then ({ e with starved := true }, .over 0)
      else if e'.trouble.isSome then e'.finished 0
      else
        let e := e'
        match move with
        | .quit code true =>
          let e := if s.quiet then e else e.print s e.line e.ended
          ((e.printRaw s []).flush s).leave s code
        | .quit code false => e.leave s code
        | .fail message code => (e, .failed message code)
        | .run command purpose index => (e, .asks command purpose index)
        | .again => cycles s n .again e
        | .vanish => cycles s n .reading e
        | .drop => cycles s n .reading (e.endCycle s false)
        | _ => cycles s n .reading (e.endCycle s true)

end Editor

end Relay.Userland.Edit
