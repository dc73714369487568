import Relay.Userland.Running
import Relay.Userland.Manual.Lines
import Relay.Userland.Options
import Relay.Userland.Quantity

/-!
# Whole files and their ends

`cat`, `head`, `tail` and `wc`.
-/

namespace Relay.Userland

/-! ## Whole files -/

/-- Numbers lines from `n` on; if asked to, empty lines get no number. -/
def numberLines (skipEmpty : Bool) : Nat → List Bytes → List Bytes
  | _, [] => []
  | n, l :: ls =>
    if skipEmpty && (l == [Text.lineFeed] || l == ascii "$\n" || l.isEmpty) then
      l :: numberLines skipEmpty n ls
    else (padLeft 6 (decimal n) ++ 9 :: l) :: numberLines skipEmpty (n + 1) ls

/-- Leaves one of several empty lines in a row. -/
def squeezeEmpty : List Bytes → List Bytes
  | a :: b :: ls =>
    if a = [Text.lineFeed] ∧ b = [Text.lineFeed] then squeezeEmpty (b :: ls)
    else a :: squeezeEmpty (b :: ls)
  | ls => ls

/-- Marks the end of a line; a carriage return before it is made visible. -/
def markEnd (l : Bytes) : Bytes :=
  if l.getLast? = some Text.lineFeed then
    let body := l.dropLast
    (if body.getLast? = some 13 then body.dropLast ++ ascii "^M" else body) ++ ascii "$\n"
  else l

/-- A byte below 128, made visible unless it is printed. -/
def visibleLow (n : Nat) : Bytes :=
  if n < 32 then [94, UInt8.ofNat (n + 64)] else if n = 127 then ascii "^?" else [UInt8.ofNat n]

/-- A byte made visible; tabs and line feeds stay. -/
def visible (b : UInt8) : Bytes :=
  if b == 9 || b == Text.lineFeed then [b]
  else if b.toNat < 128 then visibleLow b.toNat
  else ascii "M-" ++ visibleLow (b.toNat - 128)

def catOptions : List OptionRule :=
  [plainOption 'b' ["number-nonblank"], plainOption 'n' ["number"],
    plainOption 's' ["squeeze-blank"], plainOption 'v' ["show-nonprinting"],
    plainOption 'E' ["show-ends"], plainOption 'T' ["show-tabs"], plainOption 'A' ["show-all"]]
    ++ letterOptions "etu" ++ selfDescription

/-- Whether an operand is the regular file that the output goes to, and there is something to read
in it. -/
def isOutput (inv : Invocation) (t : FileTree) (name : Bytes) : Bool :=
  if name = dash then
    match inv.outFile, inv.origin with
    | some n, .file m _ => n = m && !inv.stdin.isEmpty
    | _, _ => false
  else
    match inv.outFile, t.find inv.cwd name with
    | some n, .ok (_, .regular m) => n = m && !(t.content n).isEmpty
    | _, _ => false

/-- How `cat` changes what it prints. -/
structure CatFormat where
  numbers : Bool
  /-- Empty lines get no number. -/
  skipsEmpty : Bool
  squeezes : Bool
  showsEnds : Bool
  showsTabs : Bool
  showsOthers : Bool

/-- The format that options ask for. -/
def CatFormat.of (o : Flags) : CatFormat :=
  { numbers := o.has "n" || o.has "b", skipsEmpty := o.has "b", squeezes := o.has "s"
    showsEnds := o.has "E" || o.has "A" || o.has "e"
    showsTabs := o.has "T" || o.has "A" || o.has "t"
    showsOthers := o.has "v" || o.has "A" || o.has "e" || o.has "t" }

/-- Whether bytes are printed as they are. -/
def CatFormat.isPlain (f : CatFormat) : Bool :=
  !(f.numbers || f.squeezes || f.showsEnds || f.showsTabs || f.showsOthers)

def CatFormat.apply (f : CatFormat) (b : Bytes) : Bytes :=
  if f.isPlain then b
  else
    let ls := fullLines b
    let ls := if f.squeezes then squeezeEmpty ls else ls
    let ls := if f.showsOthers then ls.map fun l => l.flatMap visible else ls
    let ls := if f.showsTabs then ls.map fun l => l.flatMap fun b => if b == 9 then ascii "^I"
        else [b]
      else ls
    let ls := if f.showsEnds then ls.map markEnd else ls
    let ls := if f.numbers then numberLines f.skipsEmpty 1 ls else ls
    ls.flatten

def completeLines (b : Bytes) : Bytes := (b.reverse.dropWhile (· != Text.lineFeed)).reverse

/-- What `cat` prints of the bytes and complaints that it comes by in turn: `before` are the bytes
that came first. -/
def CatFormat.printAll (f : CatFormat) : Bytes → List Print → List Print
  | _, [] => []
  | before, .err b :: rest => .err b :: f.printAll before rest
  | before, .out b :: rest =>
    if f.isPlain then .out b :: f.printAll before rest
    else
      let all := before ++ b
      .out ((f.apply all).drop (f.apply before).length) :: f.printAll all rest

/-- Prints files one after another. -/
def cat : Tool := guarded Manual.cat fun inv t => do
  let (o, operands) ← readFlags catOptions 1 inv
  if inv.others.lookup 1 = some none then
    halt inv (ascii "standard output: " ++ ascii Errno.badDescriptor.text) 1
  let format := CatFormat.of o
  let names := orDash operands
  let known (b : Bytes) : Bytes := if inv.more && !format.isPlain then completeLines b else b
  let contents := readAll inv t (reachable inv names)
  let finite := contents.takeWhile fun part => !isEndless [part]
  let parts := finite.map fun (name, content) =>
    if isOutput inv t name then
      Print.err (complain inv (shown name ++ ascii ": input file is output file"))
    else
      match content with
      | .ok (.bytes b) => .out (if takesInput inv name then known b else b)
      | .ok .zeros => .out []
      | .error e => .err (complainOf inv name e)
  let failed := parts.any fun p => match p with
    | .err _ => true
    | .out _ => false
  let usesInput := names.any (takesInput inv)
  let closing := closingComplaint inv usesInput "closing standard input"
  let told := format.printAll [] parts
  return { files := t, told, err := closing, code := if failed || !closing.isEmpty then 1 else 0
           unread := if usesInput then [] else inv.stdin
           settled := total (told.map (·.bytes.length))
           endless := isEndless contents
           further := if isEndless contents then fun _ => some (format.apply zeroPart)
             else fun _ => none }

/-! ## The ends of files -/

/-- Which part of a file is printed. -/
inductive Portion where
  | first (n : Nat)
  | butLast (n : Nat)
  | last (n : Nat)
  /-- From the `n`-th on, counted from one. -/
  | from (n : Nat)

def Portion.of {α : Type} (p : Portion) (l : List α) : List α :=
  match p with
  | .first n => l.take n
  | .butLast n => l.take (l.length - n)
  | .last n => l.drop (l.length - n)
  | .from n => l.drop (n - 1)

/-- Whether nothing needs to be read. -/
def Portion.isNone : Portion → Bool
  | .first 0 => true
  | .last 0 => true
  | _ => false

def Portion.isAtEnd : Portion → Bool
  | .last _ => true
  | .from _ => true
  | _ => false

/-- What is printed of each file. -/
structure Cutting where
  portion : Portion
  /-- The portion counts bytes, not lines. -/
  byBytes : Bool := false
  /-- Lines end at NUL bytes. -/
  zeroEnded : Bool := false
  /-- Names are printed in front of files; if nothing is said, if there are several. -/
  named : Option Bool := none

/-- The lines of some bytes with the byte that ends them, which the last one may lack. -/
def endedLines (ending : UInt8) (b : Bytes) : List Bytes :=
  let ps := pieces (· == ending) b
  let rest := ps.getLastD []
  ps.dropLast.map (· ++ [ending]) ++ (if rest.isEmpty then [] else [rest])

/-- The part of some bytes that is printed. -/
def Cutting.of (c : Cutting) (b : Bytes) : Bytes :=
  if c.byBytes then c.portion.of b
  else (c.portion.of (endedLines (if c.zeroEnded then 0 else Text.lineFeed) b)).flatten

/-- What has been printed of some files. -/
structure Shown where
  told : List Print := []
  /-- The file whose name was printed last. -/
  heading : Option Bytes := none
  /-- A complaint was printed. -/
  failed : Bool := false

def Shown.print (s : Shown) (b : Bytes) : Shown := { s with told := s.told ++ [.out b] }

/-- Prints a complaint. -/
def Shown.object (s : Shown) (b : Bytes) : Shown :=
  { s with told := s.told ++ [.err b], failed := true }

/-- Prints a file's name in front of what it holds, if names are printed. -/
def Shown.head (s : Shown) (named : Bool) (name : Bytes) : Shown :=
  if !named then s
  else
    let label := if name = dash then ascii "standard input" else name
    let s := s.print (ascii (if s.heading.isNone then "==> " else "\n==> ") ++ label ++ ascii " <==\n")
    { s with heading := some name }

def Shown.portion (s : Shown) (c : Cutting) (named : Bool) (inv : Invocation) (name : Bytes) :
    Except Errno Content → Shown
  | .ok (.bytes b) => (s.head named name).print (c.of b)
  | .ok .zeros =>
    let part := match c.byBytes, c.portion with
      | true, .first n => List.replicate n 0
      | _, _ => c.of (List.replicate endlessPart 0)
    (s.head named name).print part
  | .error e =>
    let refused (what : String) (s : Shown) : Shown :=
      s.object (complain inv (ascii what ++ quotedName (inputLabel name) ++ ascii ": " ++ ascii e.text))
    if e = .badDescriptor && name = dash && c.portion.isAtEnd then
      refused "cannot fstat " (s.head named name)
    else if e = .isDirectory || name = dash then
      let s := s.head named name
      if c.portion.isNone then s else refused "error reading " s
    else
      s.object (complain inv
        (ascii "cannot open " ++ quotedName name ++ ascii " for reading: " ++ ascii e.text))

/-- How many bytes are read of a pipe at once. -/
def blockSize : Nat := 8192

/-- What is left of the input after its first portion was printed.  A file is left right behind it;
a pipe is read in blocks, unless bytes are counted. -/
def Cutting.rest (c : Cutting) (inv : Invocation) : Bytes :=
  let printed := (c.of inv.stdin).length
  match inv.origin, c.portion with
  | .file _ _, .first _ => inv.stdin.drop printed
  | .file _ _, .butLast _ => inv.stdin.drop printed
  | _, .first n =>
    if c.byBytes then inv.stdin.drop n
    else
      let ending := if c.zeroEnded then 0 else Text.lineFeed
      if inv.stdin.count ending < n then []
      else inv.stdin.drop ((printed + blockSize - 1) / blockSize * blockSize)
  | _, _ => []

/-- Whether input is known of which the portion is certain. -/
def Cutting.isCertain (c : Cutting) (inv : Invocation) : Bool :=
  match c.portion with
  | .first n =>
    if c.byBytes then n ≤ inv.stdin.length
    else n ≤ inv.stdin.count (if c.zeroEnded then 0 else Text.lineFeed)
  | _ => false

/-- Prints a portion of some files; answers what is left of the input. -/
def showPortions (c : Cutting) (named : Bool) (t : FileTree) :
    Invocation → Shown → List Bytes → Shown × Bytes
  | inv, s, [] => (s, inv.stdin)
  | inv, s, name :: rest =>
    let s := s.portion c named inv name (contentOf inv t name)
    let inv := if takesInput inv name then afterInput inv (c.rest inv) else inv
    showPortions c named t inv s rest

/-- Whether names are printed in front of some files. -/
def Cutting.isNamed (c : Cutting) (names : List Bytes) : Bool :=
  c.named.getD (1 < names.length)

def countLetters : String := "bkKmMGTPEZY0"

/-- The options of `head` and `tail`. -/
def portionOptions : List OptionRule :=
  [valueOption 'c' ["bytes"], valueOption 'n' ["lines"], plainOption 'q' ["quiet", "silent"],
    plainOption 'v' ["verbose"], plainOption 'z' ["zero-terminated"]]
    ++ letterOptions "0123456789" ++ selfDescription

/-- What an option says about names and line ends. -/
def Cutting.take (c : Cutting) (f : Flag) : Cutting :=
  match f.key with
  | "q" => { c with named := some false }
  | "v" => { c with named := some true }
  | "z" => { c with zeroEnded := true }
  | _ => c

/-- Whether the key of an option is a digit. -/
def Flag.isDigit (f : Flag) : Bool := f.key.toList.all Char.isDigit

def headCount (inv : Invocation) (byBytes : Bool) (text : Bytes) (c : Cutting) :
    Except Halt Cutting := do
  let what := if byBytes then "invalid number of bytes" else "invalid number of lines"
  let cuts := text.head? = some 45
  let n ← readQuantity inv countLetters what (if cuts then text.tail else text)
  return { c with byBytes, portion := if cuts then .butLast n else .first n }

def headOption (inv : Invocation) (c : Cutting) (f : Flag) : Except Halt Cutting :=
  match f.key with
  | "c" => headCount inv true f.text c
  | "n" => headCount inv false f.text c
  | _ =>
    if f.isDigit then misuse inv (ascii s!"invalid trailing option -- {f.key}") 1
    else .ok (c.take f)

/-- The letters behind a count that stands as an option of its own: they tell its unit, and may be
options themselves.  The answer is the cutting, with the letter that multiplies. -/
def trailingLetters (inv : Invocation) (c : Cutting) (unit : List Char) :
    List Char → Except Halt (Cutting × List Char)
  | [] => .ok (c, unit)
  | x :: xs =>
    match x with
    | 'c' => trailingLetters inv { c with byBytes := true } [] xs
    | 'b' | 'k' | 'm' => trailingLetters inv { c with byBytes := true } [x] xs
    | 'l' => trailingLetters inv { c with byBytes := false } unit xs
    | 'q' | 'v' | 'z' => trailingLetters inv (c.take { key := x.toString }) unit xs
    | _ => misuse inv (ascii "invalid trailing option -- " ++ octets [x]) 1

/-- A count that stands as the first option of `head`, with letters behind it. -/
def headFirst (inv : Invocation) (c : Cutting) : Except Halt (Cutting × List Bytes) :=
  match inv.args with
  | a :: rest =>
    let cs := (chars a).tail
    let digits := cs.takeWhile Char.isDigit
    if a.head? = some 45 && !digits.isEmpty then do
      let (c, unit) ← trailingLetters inv c [] (cs.drop digits.length)
      return (← headCount inv c.byBytes (octets (digits ++ unit)) c, rest)
    else .ok (c, inv.args)
  | [] => .ok (c, [])

/-- Prints the beginning of files. -/
def head : Tool := guarded Manual.head fun inv t => do
  let (c, args) ← headFirst inv { portion := .first 10 }
  let (c, operands) ← readCall portionOptions anywhere 1 (headOption inv) c { inv with args }
  let names := orDash operands
  let (s, unread) := showPortions c (c.isNamed names) t inv {} names
  let usesInput := names.any (takesInput inv)
  let closing := closingComplaint inv usesInput "-"
  return { files := t, told := s.told, err := closing, unread
           code := if s.failed || !closing.isEmpty then 1 else 0
           finished := usesInput && c.isCertain inv }

/-! ## The last lines -/

structure TailCall where
  cutting : Cutting := { portion := .last 10 }
  /-- The count is counted from the start. -/
  fromStart : Bool := false
  count : Nat := 10
  /-- More is printed as files grow. -/
  follows : Bool := false
  retries : Bool := false
  watches : Bool := false

def tailOptions : List OptionRule :=
  [valueOption 'c' ["bytes"],
    { key := "f", letters := ['f'], names := ["follow"], value := .maybe },
    valueOption 'n' ["lines"], namedOption "max-unchanged-stats" .always,
    namedOption "pid" .always, plainOption 'q' ["quiet"], namedOption "retry" .never,
    { key := "q", names := ["silent"] }, valueOption 's' ["sleep-interval"],
    plainOption 'v' ["verbose"], plainOption 'z' ["zero-terminated"]]
    ++ letterOptions "F0123456789" ++ selfDescription

def tailOption (inv : Invocation) (c : TailCall) (f : Flag) : Except Halt TailCall := do
  let counted (byBytes : Bool) (what : String) : Except Halt TailCall := do
    let text := f.text
    let n ← readQuantity inv countLetters what (if text.head? = some 45 then text.tail else text)
    return { c with count := n, fromStart := c.fromStart || text.head? = some 43
                    cutting := { c.cutting with byBytes } }
  match f.key with
  | "c" => counted true "invalid number of bytes"
  | "n" => counted false "invalid number of lines"
  | "F" => return { c with follows := true, retries := true }
  | "f" => return { c with follows := true }
  | "retry" => return { c with retries := true }
  | "pid" => do
    let _ ← readQuantity inv "" "invalid PID" f.text 0 (Nat.pow 2 31 - 1)
    return { c with watches := true }
  | "max-unchanged-stats" => do
    let _ ← readQuantity inv "" "invalid maximum number of unchanged stats between opens" f.text
    return c
  | "s" =>
    if (intervalOf? f.text).isNone then
      halt inv (ascii "invalid number of seconds: " ++ quoted f.text) 1
    else return c
  | _ =>
    if f.isDigit then halt inv (ascii s!"option used in invalid context -- {f.key}") 1
    else return { c with cutting := c.cutting.take f }

/-- A count that stands as the first argument of `tail`: after a plus sign it is counted from the
start.  It must be followed by one operand at most. -/
def tailFirst (inv : Invocation) : Except Halt (TailCall × List Bytes) :=
  let others : Except Halt (TailCall × List Bytes) := .ok ({}, inv.args)
  match inv.args with
  | [] => others
  | a :: rest =>
    let fits := match rest with
      | [] => true
      | [b] => b.head? != some 45 || b.length = 1 || b = ascii "--"
      | [b, _] => b = ascii "--"
      | _ => false
    let cs := (chars a).tail
    let digits := cs.takeWhile Char.isDigit
    let (unit, more) := match cs.drop digits.length with
      | 'b' :: more => ((some 512 : Option Nat), more)
      | 'c' :: more => (some 1, more)
      | 'l' :: more => (none, more)
      | more => (none, more)
    let plus := a.head? = some 43
    let needsMore := a = dash || a = ascii "-c"
    if !fits || !(plus || a.head? = some 45) || (!plus && needsMore) || !(more = [] || more = ['f'])
    then others
    else
      let n := (natOf? (octets digits)).getD 10
      if largestWord < n then
        halt inv (ascii "invalid number: " ++ quoted a ++ QuantityFlaw.outOfRange.remark) 1
      else
        let count := n * unit.getD 1
        .ok ({ cutting := { portion := .last 10, byBytes := unit.isSome }, fromStart := plus, count
               follows := more = ['f'] }, rest)

/-- A file that is followed: its name and how much of it was seen. -/
structure Followed where
  name : Bytes
  seen : Nat

/-- How many microseconds `tail` rests before it looks again. -/
def followInterval : Nat := 1000000

/-- What files have grown by, and what is known of them then. -/
def growth (named : Bool) (inv : Invocation) (t : FileTree) (heading : Option Bytes)
    (fs : List Followed) : Shown × List Followed :=
  let step := fun (st : Shown × List Followed) (f : Followed) =>
    let (s, done) := st
    let content := match t.read inv.cwd f.name with
      | .ok (.bytes b) => b
      | _ => []
    if content.length < f.seen then
      let s := s.object (complain inv (f.name ++ ascii ": file truncated"))
      (s.print content, done ++ [{ f with seen := content.length }])
    else if content.length = f.seen then (s, done ++ [f])
    else
      let s := if s.heading = some f.name then s else s.head named f.name
      (s.print (content.drop f.seen), done ++ [{ f with seen := content.length }])
  fs.foldl step ({ heading }, [])

/-- Prints what files have grown by, again and again, at most `n` times. -/
def followFiles (named : Bool) (g : Engagement) :
    Nat → Option Bytes → List Followed → Thread
  | 0, _, _ => .ended (.exited 1)
  | n + 1, heading, fs => .rest followInterval <| .look fun y =>
    let (s, fs) := growth named g.inv y.files heading fs
    g.printAll (fun _ => followFiles named g n s.heading fs) s.told none

/-- What `tail` prints at first, and the files that it follows then, if it was asked to. -/
structure TailStart where
  report : Report
  named : Bool
  heading : Option Bytes
  followed : Option (List Followed)

def startTail (inv : Invocation) (t : FileTree) : Except Halt TailStart := do
  let (c, args) ← tailFirst inv
  let (c, operands) ← readCall tailOptions anywhere 1 (tailOption inv) c { inv with args }
  let warning (condition : Bool) (text : String) : Bytes :=
    if condition then complain inv (ascii ("warning: " ++ text)) else []
  let warned := warning (c.retries && !c.follows)
      "--retry ignored; --retry is useful only when following"
    ++ warning (c.watches && !c.follows) "PID ignored; --pid=PID is useful only when following"
  if c.count = 0 && !c.fromStart && !c.follows then
    return ⟨{ files := t, told := [.err warned], unread := inv.stdin }, false, none, none⟩
  let names := orDash operands
  let cutting :=
    { c.cutting with portion := if c.fromStart then .from c.count else .last c.count }
  let named := cutting.isNamed names
  let (s, unread) := showPortions cutting named t inv { told := [.err warned] } names
  let usesInput := names.any (takesInput inv)
  let closing := closingComplaint inv usesInput "-"
  let code := if s.failed || !closing.isEmpty then 1 else 0
  let followed := names.filterMap fun name =>
    match t.read inv.cwd name with
    | .ok (.bytes b) => some ⟨name, b.length⟩
    | _ => if name = dash && inv.origin = .device then some ⟨name, 0⟩ else none
  let report : Report := { files := t, told := s.told, err := closing, code, unread }
  if !c.follows || names = [dash] && inv.origin != .device then
    return ⟨report, named, s.heading, none⟩
  else if followed.isEmpty then
    let err := closing ++ complain inv (ascii "no files remaining")
    return ⟨{ report with err, code := 1 }, named, s.heading, none⟩
  else return ⟨report, named, s.heading, some followed⟩

/-- Prints the end of files. -/
def tailOnce : Tool := guarded Manual.tail fun inv t => do return (← startTail inv t).report

/-- Prints the end of files, and, if asked to, what they grow by. -/
def tail (inv : Invocation) (number : Nat) : Thread := .look fun y =>
  match startTail (equip y number inv) y.files with
  | .ok ⟨report, named, heading, some followed⟩ =>
    let g : Engagement := ⟨ascii "tail", inv, number⟩
    g.printAll (fun _ => followFiles named g partLimit heading followed) report.prints none
  | _ => ofTool (ascii "tail") tailOnce inv number

/-! ## Counting -/

/-- What separates words: the blank characters of ASCII. -/
def isWordSpace (b : UInt8) : Bool := b == 32 || (9 ≤ b.toNat && b.toNat ≤ 13)

/-- Characters that can be seen. -/
def isVisible (b : UInt8) : Bool := 33 ≤ b.toNat && b.toNat ≤ 126

/-- The number of words: runs without blanks that hold something visible. -/
def wordCount (b : Bytes) : Nat := ((pieces isWordSpace b).filter (·.any isVisible)).length

/-- The width of the widest line: tabs go on to the next multiple of eight. -/
def widestLine (b : Bytes) : Nat :=
  let (widest, current) := b.foldl (fun (widest, current) x =>
    match x.toNat with
    | 10 | 13 | 12 => (max widest current, 0)
    | 9 => (widest, current + (8 - current % 8))
    | n => (widest, if 32 ≤ n && n ≤ 126 then current + 1 else current)) (0, 0)
  max widest current

/-- Lines, words, bytes and the width of the widest line. -/
structure Counts where
  lines : Nat := 0
  words : Nat := 0
  bytes : Nat := 0
  width : Nat := 0

def Counts.of (b : Bytes) : Counts := ⟨b.count Text.lineFeed, wordCount b, b.length, widestLine b⟩

/-- The counts of two files taken together. -/
def Counts.add (a b : Counts) : Counts :=
  ⟨a.lines + b.lines, a.words + b.words, a.bytes + b.bytes, max a.width b.width⟩

def wcOptions : List OptionRule :=
  [plainOption 'c' ["bytes"], plainOption 'm' ["chars"], plainOption 'l' ["lines"],
    plainOption 'w' ["words"], namedOption "files0-from" .always,
    plainOption 'L' ["max-line-length"]] ++ selfDescription

/-- The size of a regular file that an operand names; `none` if it is no regular file. -/
def regularSize? (inv : Invocation) (t : FileTree) (name : Bytes) : Option Nat :=
  if name = dash then
    match inv.origin with
    | .file _ size => some size
    | _ => none
  else
    match t.find inv.cwd name with
    | .ok (_, .regular n) => some (t.content n).length
    | .ok (_, .program _) => some (FileTree.programImage.length)
    | _ => none

/-- How wide the columns of `wc` are: as wide as the size of all files, but at least seven if one of
them is no regular file. -/
def countWidth (inv : Invocation) (t : FileTree) (names : List Bytes) : Nat :=
  let isOpen := inv.origin ≠ .unreadable .badDescriptor
  let existing := names.filter fun name =>
    if name = dash then isOpen else (t.find inv.cwd name).toBool
  let size := total (existing.filterMap (regularSize? inv t))
  let least := if existing.all fun name => (regularSize? inv t name).isSome then 1 else 7
  max least (decimal size).length

/-- The names that a file lists, if one is asked for. -/
def wcNames (inv : Invocation) (t : FileTree) (operands : List Bytes) :
    Option Bytes → Except Halt (List Bytes)
  | none => .ok (orDash operands)
  | some list =>
    match operands with
    | extra :: _ =>
      .error <| .complaint (complain inv (ascii "extra operand " ++ quoted extra)
        ++ ascii "file operands cannot be combined with --files0-from\n" ++ hint inv) 1
    | [] =>
      match readOperand inv t list with
      | .ok b => .ok (listedNames b)
      | .error .isDirectory =>
        halt inv (shown list ++ ascii ": read error: " ++ ascii Errno.isDirectory.text) 1
      | .error e =>
        halt inv (ascii "cannot open " ++ quotedName list ++ ascii " for reading: "
          ++ ascii e.text) 1

/-- What is wrong with the name of a file itself, be it an operand or the one with some number in a
list. -/
def wcNameFlaw (list : Option Bytes) (number : Nat) (name : Bytes) : Option Bytes :=
  let isEmpty := ascii "invalid zero-length file name"
  if name.isEmpty then
    some (list.elim isEmpty fun list => shown list ++ ascii ":" ++ decimal number ++ ascii ": "
      ++ isEmpty)
  else if name = dash && list = some dash then
    some (ascii "when reading file names from stdin, no file name of '-' allowed")
  else none

/-- Counts lines, words and bytes of files. -/
def wc : Tool := guarded Manual.wc fun inv t => do
  let (o, operands) ← readFlags wcOptions 1 inv
  let list := o.value? "files0-from"
  let names ← wcNames inv t operands list
  let named := list.isSome || !operands.isEmpty
  let inv := if list.any (takesInput inv) then afterInput inv [] else inv
  let columns := ["l", "w", "m", "c", "L"].filter o.has
  let columns := if columns.isEmpty then ["l", "w", "c"] else columns
  let select (c : Counts) : List Nat := columns.map fun key =>
    match key with
    | "l" => c.lines
    | "w" => c.words
    | "L" => c.width
    | _ => c.bytes
  let listIsOpenEnded := list.any fun list => (regularSize? inv t list).isNone
  let width := if columns.length = 1 && names.length = 1 || listIsOpenEnded then 1
    else countWidth inv t names
  let row (c : Counts) (name : Option Bytes) : Bytes :=
    [32].intercalate ((select c).map fun n => padLeft width (decimal n))
      ++ (name.map (32 :: ·)).getD [] ++ [Text.lineFeed]
  let contents := readAll inv t names
  if isEndless contents then return { files := t, endless := true }
  let counted := contents.zipIdx.map fun ((name, content), i) =>
    let one (c : Counts) : Print := .out (row c (if named then some name else none))
    let (counts, complaint) : Option Counts × Option Bytes :=
      match wcNameFlaw list (i + 1) name, content with
      | some flaw, _ => (none, some (complain inv flaw))
      | none, .ok (.bytes b) => (some (Counts.of b), none)
      | none, .ok .zeros => (none, none)
      | none, .error e =>
        (if e = Errno.isDirectory || name = dash then some {} else none,
          some (complainOf inv (if named then name else inputLabel name) e))
    (counts, (complaint.map Print.err).toList ++ (counts.map one).toList, complaint.isSome)
  let usesInput := names.any (takesInput inv)
  let closing := closingComplaint inv usesInput "-"
  let sums := counted.foldl (fun s (c, _) => s.add (c.getD {})) {}
  let failed := counted.any fun (_, _, failed) => failed
  let last := if 1 < names.length then [Print.out (row sums (some (ascii "total")))] else []
  return { files := t, told := counted.flatMap (fun (_, prints, _) => prints) ++ last, err := closing
           code := if failed || !closing.isEmpty then 1 else 0
           unread := if usesInput then [] else inv.stdin }

end Relay.Userland
