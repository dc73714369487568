import Relay.Userland.Editing.Editor
import Relay.Userland.Editing.Reading
import Relay.Userland.Manual.Lines
import Relay.Userland.Running

/-!
# Calls of the line editor

`sed` runs a script on every line of its files.  A part of the script is read as soon as the option
comes that gives it, so what the options before it say is all that counts for it.
-/

namespace Relay.Userland.Edit

/-! ## Calls -/

/-- A part of a script: its text, the number of scripts up to it that were given as arguments, and
the file that it stems from. -/
structure ScriptPart where
  text : List Char
  number : Nat
  file : Option Bytes := none

structure SedCall where
  quiet : Bool := false
  extended : Bool := false
  separate : Bool := false
  inPlace : Option Bytes := none
  zeroEnded : Bool := false
  unbuffered : Bool := false
  explains : Bool := false
  sandboxed : Bool := false
  latitude : Latitude := .full
  width : Nat := 70
  /-- The script so far, with the places in words where blocks were opened. -/
  script : Option (Draft Bytes) := none
  /-- How many parts of the script were given as arguments. -/
  arguments : Nat := 0
  /-- The place in words that complaints about the running script name. -/
  place : Bytes := []
  /-- The files, and those that the script so far writes to. -/
  files : FileTree
  handles : List Handle := []

/-- The call before any of its options. -/
def SedCall.initial (inv : Invocation) (files : FileTree) : SedCall :=
  let columns := ((inv.env.lookup (ascii "COLS")).bind natOf?).getD 0
  { files, latitude := if followsStandard inv then .careful else .full
    width := if 1 < columns then columns - 1 else 70 }

/-- The options of `sed`, in the order in which they are named where a beginning of a name could mean
several. -/
def sedOptions : List OptionRule :=
  [plainOption 'b' ["binary"],
    { key := "E", letters := ['E', 'r'], names := ["regexp-extended"] },
    namedOption "debug" .never, valueOption 'e' ["expression"], valueOption 'f' ["file"],
    { key := "i", letters := ['i'], names := ["in-place"], value := .maybe },
    valueOption 'l' ["line-length"],
    { key := "z", letters := ['z'], names := ["null-data", "zero-terminated"] },
    plainOption 'n' ["quiet"], namedOption "posix" .never, { key := "n", names := ["silent"] },
    namedOption "sandbox" .never, plainOption 's' ["separate"], plainOption 'u' ["unbuffered"]]
    ++ selfDescription.reverse ++ [namedOption "follow-symlinks" .never]

/-! ## Scripts -/

/-- A place in a part of a script in words, where so many characters were read; the number that is
shown may be another one. -/
def ScriptPart.place (p : ScriptPart) (consumed : Nat) (shown : Nat) : Bytes :=
  match p.file with
  | some name =>
    let line := ((p.text.take consumed).filter (· == '\n')).length + 1
    ascii "file " ++ name ++ ascii s!" line {line}: "
  | none => ascii s!"-e expression #{p.number}, char {shown}: "

def SedCall.rules (c : SedCall) (inv : Invocation) : ScriptRules :=
  { latitude := c.latitude, sandboxed := c.sandboxed
    dialect :=
      { extended := c.extended, editing := true, ending := if c.zeroEnded then '\x00' else '\n'
        plain := c.latitude = .none, looseClosing := c.latitude ≠ .full
        bareClasses := followsStandard inv } }

/-- Why a call is given up, with what it did to files before. -/
def SedCall.owe (c : SedCall) (h : Halt) : Halt :=
  .leaving (c.handles.foldl (fun t h => t.close h.descriptor) c.files) h

def cannotOpen {α : Type} (inv : Invocation) (name : Bytes) (e : Errno) : Except Halt α :=
  halt inv (ascii "couldn't open file " ++ name ++ ascii ": " ++ ascii e.text) panicFailure

/-- Opens the files that the script writes to, each of them once. -/
def SedCall.openTargets (inv : Invocation) (c : SedCall) (paths : List Bytes) :
    Except Halt SedCall :=
  paths.foldlM (fun c path =>
    if c.handles.any (·.path = path) then .ok c
    else
      match c.files.openWrite inv.cwd path .truncate with
      | .ok (descriptor, files) =>
        .ok { c with files, handles := c.handles ++ [{ path, descriptor }] }
      | .error e => (cannotOpen inv path e).mapError c.owe)
    c

/-- Reads a part of the script.  The files that it writes to are opened even if it cannot be read to
its end. -/
def SedCall.addPart (c : SedCall) (inv : Invocation) (text : Bytes) (file : Option Bytes) :
    Except Halt SedCall := do
  let arguments := if file.isNone then c.arguments + 1 else c.arguments
  let p : ScriptPart := { text := chars text, number := arguments, file }
  let length := p.text.length
  let silences := c.script.isNone && ['#', 'n'].isPrefixOf p.text
  let draft := c.script.getD {}
  match draft.readPart (c.rules inv) (fun left => p.place (length - left + 1) 0) p.text with
  | .error b =>
    let c ← c.openTargets inv b.targets
    let consumed := length - b.left
    let flaw : Except Halt SedCall := match b.flaw with
      | .pattern .bareClass => halt inv (ascii Regex.Flaw.bareClass.message) panicFailure
      | flaw => halt inv (p.place consumed consumed ++ flaw.message) usageFailure
    flaw.mapError c.owe
  | .ok script =>
    let place := match p.file with
      | some _ => p.place length 0
      | none => p.place 0 0
    { c with script := some script, arguments, place, quiet := c.quiet || silences }.openTargets inv
      script.targets

/-- The whole script. -/
def SedCall.program (c : SedCall) (inv : Invocation) : Except Halt (Array Command) := do
  let draft := (c.script.getD {}).endText
  match draft.blocks with
  | place :: _ => halt inv (place ++ ScriptFlaw.openBlock.message) usageFailure
  | [] => pure ()
  let leadsNowhere (name : List Char) : Bool := !draft.commands.any (·.isLabel name)
  match (draft.commands.filterMap Command.destination?).find? leadsNowhere with
  | some name => halt inv (ascii "can't find label for jump to " ++ named name) panicFailure
  | none => return draft.commands.reverse.toArray

/-- Takes an option into account. -/
def SedCall.take (inv : Invocation) (c : SedCall) (f : Flag) : Except Halt SedCall := do
  match f.key with
  | "n" => return { c with quiet := true }
  | "E" => return { c with extended := true }
  | "s" => return { c with separate := true }
  | "i" => return { c with separate := true, inPlace := some f.text }
  | "z" => return { c with zeroEnded := true }
  | "u" => return { c with unbuffered := true }
  | "debug" => return { c with explains := true }
  | "sandbox" => return { c with sandboxed := true }
  | "posix" => return { c with latitude := .none }
  | "l" => return { c with width := (natOf? ((f.text).takeWhile fun b => 48 ≤ b && b ≤ 57)).getD 0 }
  | "e" => c.addPart inv f.text none
  | "f" =>
    match readOperand inv c.files f.text with
    | .ok b => c.addPart inv b (some f.text)
    | .error .isDirectory => c.addPart inv [] (some f.text)
    | .error e => cannotOpen inv f.text e
  | _ => return c

/-! ## Files -/

/-- What opening a file leads to.  Only regular files are changed in place. -/
def openingOf (inv : Invocation) (ending : UInt8) (inPlace : Bool) (t : FileTree) (name : Bytes) :
    Opening :=
  let special := match t.find inv.cwd name with
    | .ok (_, .directory) => true
    | .ok (_, .device _) => true
    | _ => false
  if inPlace && special then
    .refused (ascii "couldn't edit " ++ name ++ ascii ": not a regular file")
  else
    match if inPlace && name = dash then .error .noEntry else readOperand inv t name with
    | .ok b => if takesInput inv name then .input else .lines (Editor.linesOf ending b)
    | .error e =>
      let isStdin := name = dash && !inPlace
      let reason := name ++ ascii ": " ++ ascii e.text
      if isStdin then .unreadable (ascii "read error on stdin: " ++ ascii e.text)
      else if e = .isDirectory then .unreadable (ascii "read error on " ++ reason)
      else .missing (complain inv (ascii "can't read " ++ reason))

/-! ## Work -/

/-- The file that the input is, as a whole. -/
def wholeInput (inv : Invocation) (t : FileTree) : Option Bytes :=
  match inv.origin, readOperand inv t Target.input.path with
  | .file _ _, .ok b => some b
  | _, _ => none

def readsInputPath (c : Command) : Bool :=
  match c.action with
  | .readFile path => path = Target.input.path
  | .readLine path => path = Target.input.path
  | _ => false

/-- What is known when the work begins: the call, what does not change, the editor before its first
line, whether the input is read, and whether an operand is the reason. -/
structure Work where
  call : SedCall
  setting : Setting
  editor : Editor
  readsInput : Bool
  takesInput : Bool

/-- A complaint about a call that is to end with the usage instead of the advice to look for it. -/
def withUsage (inv : Invocation) (t : FileTree) (h : Halt) : Halt :=
  let advice := hint inv
  h.mapErr fun err =>
    if advice.isSuffixOf err then
      err.take (err.length - advice.length) ++ Manual.sed.usage t inv.title
    else err

/-- Reads a call and its script, and looks at its files. -/
def prepare (inv : Invocation) (t : FileTree) : Except Halt Work := do
  let start := SedCall.initial inv t
  let read :=
    readCallAloud sedOptions anywhere usageFailure SedCall.owe (SedCall.take inv) start inv
  let (c, operands) ← read.mapError (withUsage inv t)
  let (c, names) ←
    match c.script, operands with
    | none, [] => throw (.complaint (Manual.sed.usage t inv.title) usageFailure)
    | none, script :: names => pure (← c.addPart inv script none, names)
    | some _, names => pure (c, names)
  let program ← (c.program inv).mapError c.owe
  if c.inPlace.isSome && names.isEmpty then
    (halt inv (ascii "no input files") panicFailure).mapError c.owe
  let ending : UInt8 := if c.zeroEnded then 0 else Text.lineFeed
  let names := orDash names
  let takesAny := names.any (takesInput inv)
  let readsInput := takesAny || program.any readsInputPath
  let more := inv.more && readsInput
  let known := (readOperand inv c.files dash).toOption.getD []
  let known := if more then (known.reverse.dropWhile (· != ending)).reverse else known
  let setting : Setting :=
    { program, place := c.place, checksReferences := c.latitude = .full, quiet := c.quiet
      separate := c.separate, inPlace := c.inPlace, ending, width := c.width, cwd := inv.cwd
      opening := openingOf inv ending c.inPlace.isSome, reopened := wholeInput inv c.files, more, unbuffered := c.unbuffered
      keepsLast := c.latitude = .full, explains := c.explains
      writesAside := c.inPlace.isSome || c.latitude ≠ .full }
  let input := if readsInput then Editor.linesOf ending known else []
  let start : Editor :=
    { files := c.files, input, sources := reachable inv names, handles := c.handles
      ranges := Editor.firstRanges program }
  let heading := ascii "SED PROGRAM:\n" ++ explainedProgram 1 program.toList
  return { call := c, setting, editor := start.say setting heading.dropLast, readsInput
           takesInput := takesAny }

/-- The input that is left over.  A file is read no further than needed, a pipe as far as it goes;
an input that is read without a buffer is read no further either, but if its next line was looked at
the first byte of that is lost. -/
def Work.unread (w : Work) (inv : Invocation) (e : Editor) : Bytes :=
  let left := e.input.flatMap (Editor.bytesOf w.setting)
  let isFile := match inv.origin with
    | .file _ _ => true
    | _ => false
  if !w.readsInput || !e.isTouched then inv.stdin
  else if e.starved then []
  else if w.call.unbuffered && w.takesInput then
    left.drop (if e.peeked && e.isInput then 1 else 0)
  else if isFile then left
  else []

/-- What an editor leaves behind. -/
def Work.report (w : Work) (inv : Invocation) (e : Editor) (outcome : Editor.Outcome) : Report :=
  let direct := e.direct.reverse.flatten
  let out := if w.call.inPlace.isSome then direct else direct ++ e.out.reverse.flatten
  let (flaw, files) := e.handles.foldl (fun (flaw, t) h =>
    match t.write h.descriptor h.pending with
    | (.ok (), t) => (flaw, t.close h.descriptor)
    | (.error e, t) => (flaw <|> some e, t.close h.descriptor)) ((none : Option Errno), e.files)
  let unread := w.unread inv e
  let err := e.err.reverse.flatten
  let sure := if w.call.unbuffered then out.length else wholeBlocks out.length
  let done (code : Nat) : Report :=
    { files, out, err, code := if e.isBad then inputFailure else code, unread
      finished := w.readsInput && !e.starved, settled := err.length + sure }
  let failed (message : Bytes) (code : Nat) : Report :=
    { files, out, unread, code, err := err ++ complain inv message }
  match flaw, outcome with
  | some e, .over _ =>
    failed (ascii "couldn't flush <unknown>: " ++ ascii e.text) panicFailure
  | _, .over code => done code
  | _, .asks _ _ _ => done 0
  | _, .failed message code => failed message code

/-- Edits the lines of files by a script that runs no other programs. -/
def sed : Tool := guarded Manual.sed fun inv t => do
  let w ← prepare inv t
  let (e, outcome) := Editor.cycles w.setting Editor.stepLimit .reading w.editor
  return w.report inv e outcome

/-- Goes on with the work of an editor, and runs the programs that it asks for, at most `n`. -/
def Work.carryOn (w : Work) (launch : Launcher) (g : Engagement) :
    Nat → Editor.Start → Editor → Thread
  | 0, _, _ => .ended (.exited panicFailure)
  | n + 1, start, e =>
    match Editor.cycles w.setting Editor.stepLimit start e with
    | (e, .asks command purpose index) =>
      let due := if w.call.unbuffered then e.out.reverse.flatten else []
      let rest := { e with err := [], out := if w.call.unbuffered then [] else e.out }
      let goOn (_ : Option Errno) : Thread := g.outputOf launch command fun output =>
        .look fun s =>
          let e := { rest with files := s.files }.receive w.setting purpose output
          w.carryOn launch g n (.within index) e
      .change (fun s => { s with files := e.files }) <|
        g.printAll goOn [.err e.err.reverse.flatten, .out due] none
    | (e, outcome) =>
      let r := w.report g.inv e outcome
      .look fun s => g.conclude { s with files := r.files } r 0

/-- Edits the lines of files by a script.  If that runs other programs the input is read to its end
before the work begins. -/
def edit (launch : Launcher) (inv : Invocation) (number : Nat) : Thread :=
  .look fun s =>
    let g : Engagement := ⟨ascii "sed", inv, number⟩
    let work (s : System) (stdin : Bytes) : Except Halt Work :=
      prepare { equip s number inv with stdin, more := false } s.files
    match work s [] with
    | .error _ => ofTool g.program sed inv number
    | .ok w =>
      if !w.setting.program.any Command.runs then ofTool g.program sed inv number
      else
        let begin (stdin : Bytes) : Thread := .look fun s =>
          match work s stdin with
          | .ok w => w.carryOn launch g partLimit .reading w.editor
          | .error h => g.giveUp Manual.sed h
        if w.readsInput then readToEnd (fun s => s.channel? number 0) begin partLimit []
        else begin []

end Relay.Userland.Edit
