import Relay.Process.System

/-!
# Tools

A tool is a program that runs to its end at once: a function from what it was called with and from
the files to what it printed, its exit code and the files afterwards.  This module holds what tools
share: bytes as characters, wording complaints, and reading operands.
-/

namespace Relay

/-- What a program is called with: the name it goes by, its arguments, its environment, its working
directory, its input, and what is known of its input and output. -/
structure Invocation where
  title : Bytes := []
  args : List Bytes
  env : List (Bytes × Bytes) := []
  cwd : Location := []
  stdin : Bytes := []
  origin : InputOrigin := .pipe
  /-- The number of the regular file that the output goes to. -/
  outFile : Option Nat := none
  /-- The descriptors that lead elsewhere than usual: to an open file, or nowhere. -/
  others : List (Nat × Option Nat) := []
  /-- The input is not at its end: what is known of it is its start. -/
  more : Bool := false

/-- A part of what a tool prints. -/
inductive Print where
  | out (b : Bytes)
  | err (b : Bytes)
  deriving DecidableEq, Repr

namespace Print

def bytes : Print → Bytes
  | .out b => b
  | .err b => b

def withBytes : Print → Bytes → Print
  | .out _, b => .out b
  | .err _, b => .err b

/-- What is printed within the first so many bytes. -/
def take : Nat → List Print → List Print
  | _, [] => []
  | n, p :: ps =>
    let length := p.bytes.length
    if length ≤ n then p :: take (n - length) ps else [p.withBytes (p.bytes.take n)]

/-- What is printed behind the first so many bytes. -/
def drop : Nat → List Print → List Print
  | _, [] => []
  | 0, ps => ps
  | n, p :: ps =>
    let length := p.bytes.length
    if length ≤ n then drop (n - length) ps else p.withBytes (p.bytes.drop n) :: ps

end Print

/-- What a tool leaves behind. -/
structure Report where
  files : FileTree
  /-- What is printed first, part by part. -/
  told : List Print := []
  /-- What is printed on the standard output after everything else. -/
  out : Bytes := []
  /-- What is printed on the error output before that. -/
  err : Bytes := []
  code : Nat := 0
  /-- The input that was not read. -/
  unread : Bytes := []
  /-- Further input would change nothing. -/
  finished : Bool := false
  /-- How many bytes of what is printed are certain although further input may come. -/
  settled : Nat := 0
  /-- What is printed behind everything else, in parts. -/
  further : Nat → Option Bytes := fun _ => none
  /-- What is read has no end, so that the program has none either. -/
  endless : Bool := false

/-- How many bytes are printed on the standard output. -/
def Print.outLength (ps : List Print) : Nat :=
  ps.foldl (fun n p => match p with
    | .out b => n + b.length
    | .err _ => n) 0

/-- How many of so many bytes are printed at once by a tool that gathers what it prints. -/
def wholeBlocks (n : Nat) : Nat := n / 4096 * 4096

/-- What is printed, in turn. -/
def Report.prints (r : Report) : List Print := r.told ++ [.err r.err, .out r.out]

/-- A program that runs to its end at once. -/
abbrev Tool := Invocation → FileTree → Report

namespace Userland

/-! ## Bytes as characters -/

def chars (b : Bytes) : List Char := b.map fun x => Char.ofNat x.toNat

def octets (cs : List Char) : Bytes := cs.map fun c => UInt8.ofNat c.toNat

def ascii (s : String) : Bytes := octets s.toList

/-- The sum of numbers. -/
def total (ns : List Nat) : Nat := ns.foldl (· + ·) 0

def decimal (n : Nat) : Bytes := ascii (toString n)

def padLeft (width : Nat) (b : Bytes) : Bytes := List.replicate (width - b.length) 32 ++ b

def padRight (width : Nat) (b : Bytes) : Bytes := b ++ List.replicate (width - b.length) 32

/-- Whether a call asks for what the standard says where a program usually goes its own way. -/
def followsStandard (inv : Invocation) : Bool :=
  (inv.env.lookup (ascii "POSIXLY_CORRECT")).isSome

/-- The lines of some bytes, each with its line feed, which the last one may lack. -/
def fullLines (b : Bytes) : List Bytes :=
  let (finished, rest) := Text.cutLines b
  finished.map (· ++ [Text.lineFeed]) ++ (if rest.isEmpty then [] else [rest])

def bareLines (b : Bytes) : List Bytes :=
  let (finished, rest) := Text.cutLines b
  finished ++ (if rest.isEmpty then [] else [rest])

/-- Lines, each followed by a line feed. -/
def unlines (ls : List Bytes) : Bytes := ls.flatMap (· ++ [Text.lineFeed])

/-- The number that some decimal digits write. -/
def natOf? (b : Bytes) : Option Nat :=
  if b.isEmpty || !(chars b).all Char.isDigit then none
  else some (b.foldl (fun n x => n * 10 + (x.toNat - 48)) 0)

/-- The number that some digits with an optional sign write. -/
def intOf? (b : Bytes) : Option Int :=
  match chars b with
  | '-' :: _ => (natOf? b.tail).map fun n => -(n : Int)
  | '+' :: _ => (natOf? b.tail).map Int.ofNat
  | _ => (natOf? b).map Int.ofNat

/-! ## Complaints -/

def isPrinted (b : UInt8) : Bool := 32 ≤ b.toNat && b.toNat ≤ 126

/-- A byte that is not printed, as an escape. -/
def escapedByte (b : UInt8) : Bytes :=
  match b.toNat with
  | 7 => ascii "\\a"
  | 8 => ascii "\\b"
  | 9 => ascii "\\t"
  | 10 => ascii "\\n"
  | 11 => ascii "\\v"
  | 12 => ascii "\\f"
  | 13 => ascii "\\r"
  | n =>
    let ds := octets (Nat.toDigits 8 n)
    ascii "\\" ++ List.replicate (3 - ds.length) 48 ++ ds

/-- A text between apostrophes; an apostrophe, a backslash and what is not printed are escaped. -/
def quoted (text : Bytes) : Bytes :=
  let one (b : UInt8) : Bytes :=
    if b == 39 || b == 92 then [92, b] else if isPrinted b then [b] else escapedByte b
  ascii "'" ++ text.flatMap one ++ ascii "'"

/-- Characters that mean the same inside of either kind of quotes; some do so as the first one
only. -/
def isCommon (isFirst : Bool) (c : Char) : Bool :=
  c.isAlphanum || " %+,-./:]_@'".toList.contains c || (isFirst && (c == '#' || c == '~'))

/-- Characters that a name can show without quotes; some cannot be the first one, and some not the
only one. -/
def isPlain (isFirst isOnly : Bool) (c : Char) : Bool :=
  c.isAlphanum || "%+,-./:]_@".toList.contains c || (!isFirst && (c == '#' || c == '~'))
    || (!isOnly && (c == '\x7b' || c == '\x7d'))

/-- The rest of a name in quotes.  Runs of bytes that are not printed stand as escapes between
quotes of their own; the flag tells that such a run is open. -/
def quoteRest : Bool → Bytes → Bytes
  | _, [] => ascii "'"
  | escaping, b :: bs =>
    if b == 39 then ascii "'\\''" ++ quoteRest false bs
    else if isPrinted b then (if escaping then ascii "''" else []) ++ b :: quoteRest false bs
    else (if escaping then [] else ascii "'$'") ++ escapedByte b ++ quoteRest true bs

/-- A name in quotes, written so that a shell reads it back. -/
def quotedName (name : Bytes) : Bytes :=
  let cs := chars name
  if cs.contains '\'' && (isCommon true (cs.headD ' ')) && cs.tail.all (isCommon false) then
    ascii "\"" ++ name ++ ascii "\""
  else ascii "'" ++ quoteRest false name

/-- A word, in quotes if a shell would not read it as it is. -/
def shellWord (word : Bytes) : Bytes :=
  match chars word with
  | [] => quotedName word
  | c :: cs =>
    if isPlain true cs.isEmpty c && cs.all (isPlain false false) then word else quotedName word

/-- A name, in quotes if it holds unusual characters, or a colon, which could be taken for the end
of the name. -/
def shown (name : Bytes) : Bytes :=
  if name.contains 58 then quotedName name else shellWord name

/-- A complaint: one line on the error output that starts with the name the program goes by. -/
def complain (inv : Invocation) (message : Bytes) : Bytes :=
  inv.title ++ ascii ": " ++ message ++ [Text.lineFeed]

/-- A complaint about a file: its name, in quotes if need be, and the reason. -/
def complainOf (inv : Invocation) (name : Bytes) (e : Errno) : Bytes :=
  complain inv (shown name ++ ascii ": " ++ ascii e.text)

/-- The line that points to the help text. -/
def hint (inv : Invocation) : Bytes :=
  ascii "Try '" ++ inv.title ++ ascii " --help' for more information.\n"

/-! ## Operands -/

/-- The operand that stands for the input. -/
def dash : Bytes := [45]

/-- The descriptor that a path stands for, whatever it leads to for whoever opens it. -/
def pathDescriptor? (path : Bytes) : Option Nat :=
  match String.ofList (chars path) with
  | "/dev/stdin" => some 0
  | "/dev/stdout" => some 1
  | "/dev/stderr" => some 2
  | _ =>
    ["/dev/fd/", "/proc/self/fd/"].findSome? fun folder =>
      if (ascii folder).isPrefixOf path then natOf? (path.drop folder.length) else none

/-- Whether an operand stands for the input: a dash or a path that stands for its descriptor. -/
def isInput (name : Bytes) : Bool := name = dash || pathDescriptor? name = some 0

/-- Whether an operand stands for the input and reading it takes the input away: a path that stands
for a file is opened once more instead. -/
def takesInput (inv : Invocation) (name : Bytes) : Bool :=
  name = dash || pathDescriptor? name = some 0 &&
    match inv.origin with
    | .file _ _ => false
    | _ => true

/-- What an operand holds for a reader: a file, or the input. -/
def contentOf (inv : Invocation) (t : FileTree) (name : Bytes) : Except Errno Content :=
  if isInput name then
    match inv.origin with
    | .unreadable e => .error e
    | .endless => .ok .zeros
    | .file number _ =>
      .ok (.bytes (if name = dash then inv.stdin else t.content number))
    | _ => .ok (.bytes inv.stdin)
  else
    match (pathDescriptor? name).bind fun n => inv.others.lookup n with
    | some (some f) => t.whole f
    | _ => t.read inv.cwd name

/-- The input as complaints name it, and any other operand. -/
def inputLabel (name : Bytes) : Bytes := if name = dash then ascii "standard input" else name

/-- The complaint about an input that was used and cannot be closed, because it is not open. -/
def closingComplaint (inv : Invocation) (used : Bool) (what : String) : Bytes :=
  if used && inv.origin = .unreadable .badDescriptor then
    complain inv (ascii what ++ ascii ": " ++ ascii Errno.badDescriptor.text)
  else []

/-- A whole file, or the input for a dash.  A file without end is cut off. -/
def readOperand (inv : Invocation) (t : FileTree) (name : Bytes) : Except Errno Bytes := do
  match ← contentOf inv t name with
  | .bytes b => return b
  | .zeros => return List.replicate endlessPart 0

def afterInput (inv : Invocation) (left : Bytes) : Invocation :=
  match inv.origin with
  | .unreadable _ => inv
  | .endless => inv
  | _ => { inv with stdin := left }

/-- What operands hold, each for itself; the input is used up by the first that takes it. -/
def readAll (inv : Invocation) (t : FileTree) : List Bytes → List (Bytes × Except Errno Content)
  | [] => []
  | name :: rest =>
    let after := if takesInput inv name then afterInput inv [] else inv
    (name, contentOf inv t name) :: readAll after t rest

/-- Whether one of several operands has no end. -/
def isEndless (contents : List (Bytes × Except Errno Content)) : Bool :=
  contents.any fun (_, content) => match content with
    | .ok .zeros => true
    | _ => false

/-- A part of the zeros that a device gives without end. -/
def zeroPart : Bytes := List.replicate 4096 0

/-- Operands, each with the call as it is when the operand is read. -/
def operandCalls (inv : Invocation) : List Bytes → List (Invocation × Bytes)
  | [] => []
  | name :: rest =>
    (inv, name) :: operandCalls (if takesInput inv name then afterInput inv [] else inv) rest

/-- The operands up to the first that takes the input, as long as the input is not at its end; all
operands otherwise. -/
def reachable (inv : Invocation) (names : List Bytes) : List Bytes :=
  if !inv.more then names
  else
    let before := names.takeWhile fun name => !takesInput inv name
    before ++ (names.drop before.length).take 1

/-- The operands of a call, or a dash if there are none. -/
def orDash (names : List Bytes) : List Bytes := if names.isEmpty then [dash] else names

/-- The names that a file lists, each of them ended by a zero, which the last one may lack. -/
def listedNames (b : Bytes) : List Bytes :=
  let names := pieces (· == 0) b
  if names.getLast? = some [] then names.dropLast else names

/-- Writes a report's output to a file instead.  There is something to say if the file cannot be
opened, and if it does not take the output. -/
def writeTo (inv : Invocation) (name : Bytes) (code : Nat) (unopened unwritten : Errno → Bytes)
    (r : Report) : Report :=
  let failed (message : Bytes) (r : Report) : Report := { r with err := r.err ++ message, code }
  match r.files.openWrite inv.cwd name .truncate with
  | .ok (descriptor, t) =>
    let (result, t) := t.write descriptor r.out
    let r := { r with files := t.close descriptor, out := [] }
    match result with
    | .ok () => r
    | .error e => failed (unwritten e) r
  | .error e => failed (complain inv (unopened e)) { r with out := [] }

end Userland

end Relay
