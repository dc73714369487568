import Relay.Shell.Condition
import Relay.Shell.Expansion
import Relay.Shell.Signals
import Relay.Userland.Formatting

/-!
# Commands of the shell itself

Commands that the shell carries out without a program: they print, change the shell's own state, or
end it.
-/

namespace Relay.Shell

open Userland

namespace Job

/-! ## Reading lines -/

/-- A line up to its line feed, in which a backslash protects the next character; the flags tell
whether a character was protected, the last answer whether the line feed was found. -/
def takeLine (raw : Bool) : Nat → List Char → List (Char × Bool) × List Char × Bool
  | 0, cs => ([], cs, false)
  | _, [] => ([], [], false)
  | n + 1, c :: cs =>
    if c == '\n' then ([], cs, true)
    else if c == '\\' && !raw then
      match cs with
      | '\n' :: rest => takeLine raw n rest
      | d :: rest =>
        let (line, rest, found) := takeLine raw n rest
        ((d, true) :: line, rest, found)
      | [] => ([], [], false)
    else
      let (line, rest, found) := takeLine raw n cs
      ((c, false) :: line, rest, found)

/-- A character that does not separate fields, or what separates them. -/
inductive Mark where
  | other
  | gap
  | separator
  deriving DecidableEq

/-- How many of some characters belong to the last field, without what separates it from nothing.
Gaps at its end are no part of it, and neither is a lone separator behind its only word. -/
def lastFieldLength (marks : List Mark) : Nat :=
  let run := (marks.reverse.takeWhile (· ≠ .other)).length
  let body := marks.take (marks.length - run)
  if (marks.count .separator) ≤ 1 && body.all (· = .other) then body.length
  else marks.length - (marks.reverse.takeWhile (· = .gap)).length

/-- The start of a line up to the unprotected character of some number, with the protected ones
before that. -/
def takeOpen : Nat → List (Char × Bool) → List (Char × Bool)
  | _, [] => []
  | n, (c, true) :: line => (c, true) :: takeOpen n line
  | 0, (_, false) :: _ => []
  | n + 1, (c, false) :: line => (c, false) :: takeOpen n line

/-- Binds names to the fields of a line; the last name gets all that is left. -/
def bindFields (separators : List Char) : List Bytes → List (Char × Bool) → Job Unit
  | [], _ => return ()
  | name :: names, line => do
    let markOf := fun (c : Char) =>
      if !separators.contains c then Mark.other else if isBlank c then .gap else .separator
    let isGap := fun (p : Char × Bool) => !p.2 && markOf p.1 = .gap
    let isSeparator := fun (p : Char × Bool) => !p.2 && separators.contains p.1
    let line := line.dropWhile isGap
    let text (ps : List (Char × Bool)) : Bytes := octets (ps.map (·.1))
    if names.isEmpty then
      let marks := (line.filter (!·.2)).map fun p => markOf p.1
      let length := lastFieldLength marks
      assign name (text (if length = marks.length then line else takeOpen length line))
    else
      let field := line.takeWhile fun p => !isSeparator p
      assign name (text field)
      let rest := (line.drop field.length).dropWhile isGap
      let rest := match rest with
        | p :: more => if isSeparator p then more else rest
        | [] => []
      bindFields separators names rest

/-- The bytes up to the first line feed, and that one. -/
def firstLine (b : Bytes) : Bytes :=
  let line := b.takeWhile (· != Text.lineFeed)
  if line.length < b.length then line ++ [Text.lineFeed] else line

/-- Reads a line, which can go on behind a line feed that is protected; the answer tells whether its
end was found.  At most `n` parts are read behind the bytes that were read so far. -/
def readLine (raw : Bool) (c : Option Channel) : Nat → Bytes → Job (List (Char × Bool) × Bool)
  | 0, _ => return ([], false)
  | n + 1, before => do
    let (b, more) ← take c firstLine
    let b := before ++ b
    let (line, _, found) := takeLine raw b.length (chars b)
    if found || !more then return (line, found) else readLine raw c n b

def readVariables (args : List Bytes) : Job Unit := do
  let (options, names) ← takeOptions "p:r" args
  if names.isEmpty then fault (ascii "arg count")
  else
    let raw := options.any (·.1 == 'r')
    let (line, found) ← readLine raw (← channel? 0) partLimit []
    bindFields (← separators) names line
    setStatus (if found then 0 else 1)

/-! ## Directories -/

/-- Enters a directory, whose path may be shown. -/
def enter (showsPath : Bool) (target path : Bytes) : Job Unit := do
  let s ← state
  match (← files).findDirectory s.cwd path with
  | .error _ => fault (ascii "can't cd to " ++ target)
  | .ok l =>
    assign (ascii "OLDPWD") (Path.ofLocation s.cwd)
    assign (ascii "PWD") (Path.ofLocation l)
    exportVariable (ascii "PWD")
    exportVariable (ascii "OLDPWD")
    change fun s => { s with cwd := l }
    if showsPath then print (Path.ofLocation l ++ [Text.lineFeed]) else setStatus 0

/-- Whether a path starts with a slash or with a component of one or two dots. -/
def isAnchored (path : Bytes) : Bool :=
  let first := path.takeWhile (· != Path.slash)
  path.head? = some Path.slash || first = Path.here || first = Path.up

/-- Changes the working directory.  Paths that are not anchored are looked for in a list of
directories first. -/
def changeDirectory (args : List Bytes) : Job Unit := do
  let (_, operands) ← takeOptions "LP" args
  let goesBack := operands.head? = some dash
  let target ← match operands with
    | [] => pure ((← valueOf? (ascii "HOME")).getD [])
    | a :: _ => if goesBack then pure ((← valueOf? (ascii "OLDPWD")).getD []) else pure a
  if isAnchored target then enter goesBack target target
  else
    let path := if target.isEmpty then Path.here else target
    let folders := match ← valueOf? (ascii "CDPATH") with
      | some list => (pieces (· == ':') (chars list)).map octets
      | none => []
    let s ← state
    let t ← files
    let candidates := folders.map fun folder =>
      (!folder.isEmpty, if folder.isEmpty then path else folder ++ [Path.slash] ++ path)
    match candidates.find? fun (_, p) => (t.findDirectory s.cwd p).toBool with
    | some (showsPath, p) => enter (goesBack || showsPath) target p
    | none => enter goesBack target path

def printDirectory (args : List Bytes) : Job Unit := do
  let _ ← takeOptions "LP" args
  print (Path.ofLocation (← state).cwd ++ [Text.lineFeed])

/-! ## Tests -/

/-- Sets the code to the value of a test. -/
def test (args : List Bytes) : Job Unit := do
  let s ← state
  let y ← system
  let descriptors := (y.table s.self).map fun (d, c) =>
    (d, match c with
      | .file _ => true
      | _ => false)
  match Condition.decide { files := y.files, cwd := s.cwd, descriptors } args with
  | .ok value => setStatus (if value then 0 else 1)
  | .error message => fault message

/-- A test between brackets. -/
def bracket (args : List Bytes) : Job Unit :=
  if args.getLast? = some (ascii "]") then test args.dropLast else fault (ascii "missing ]")

/-! ## The shell's own state -/

/-- The code that an argument asks for. -/
def codeOf (args : List Bytes) : Job Nat := do
  match args with
  | [] => return (← state).status
  | a :: _ => numberOf a

/-- Ends the shell. -/
def exit (args : List Bytes) : Job Unit := do
  leave (.exits (← codeOf args))

/-- Leaves a function or a script. -/
def giveBack (args : List Bytes) : Job Unit := do
  leave (.returns (← codeOf args))

/-- Sets the positional parameters. -/
def setParameters (parameters : List Bytes) : Job Unit := change fun s =>
  { s with parameters, optionPlace := (1, none) }

/-- Drops the first positional parameters. -/
def shift (args : List Bytes) : Job Unit := do
  let n ← match args with
    | [] => pure 1
    | a :: _ => numberOf a
  let parameters := (← state).parameters
  if parameters.length < n then fault (ascii "can't shift that many")
  else
    setParameters (parameters.drop n)
    setStatus 0

/-- What is said about a terminal that is asked for. -/
def noTerminal : String := "can't access tty; job control turned off"

/-- Changes switches and sets the positional parameters, or lists all variables. -/
def set (args : List Bytes) : Job Unit := do
  if args.isEmpty then listVariables "" (·.value.isSome)
  else
    let s ← state
    let fuel := args.length
    match SwitchCall.read false fuel { switches := s.switches } args with
    | .error option => fault (ascii "Illegal option " ++ option)
    | .ok call =>
      print call.listing
      if call.switches.has "monitor" then complain (ascii noTerminal)
      change fun s => { s with switches := call.switches.turn false "monitor" }
      if call.ended || !call.operands.isEmpty then setParameters call.operands
      setStatus 0

/-- Leaves as many loops as an argument names, or as there are. -/
def leaveLoops (kind : Nat → Leave) (args : List Bytes) : Job Unit := do
  let n ← match args with
    | [] => pure 1
    | a :: _ => numberOf a
  if n = 0 then fault (ascii "Illegal number: " ++ args.headD [])
  setStatus 0
  let loops := (← state).loops
  if 0 < loops then leave (kind (min loops n))

/-! ## Permissions and limits -/

def permissionLetters (n : Nat) : List Char :=
  (if n.testBit 2 then ['r'] else []) ++ (if n.testBit 1 then ['w'] else [])
    ++ (if n.testBit 0 then ['x'] else [])

/-- The classes of users that letters name, as one bit for each class. -/
def classesOf (cs : List Char) : Nat :=
  cs.foldl (fun n c => n ||| (if c == 'u' then 0o100 else if c == 'g' then 0o10
    else if c == 'o' then 1 else 0o111)) 0

/-- Changes permissions as a text says: clauses with classes of users, a sign and permissions.  At
most `n` clauses are read; answers nothing if the text is wrong. -/
def changePermissions? (old : Nat) : Nat → Nat → Nat → List Char → Option Nat
  | 0, _, now, _ => some now
  | _, _, now, [] => some now
  | n + 1, before, now, cs =>
    let named := cs.takeWhile ("augo".toList.contains ·)
    let classes := before ||| classesOf named
    let classes := if classes = 0 then 0o111 else classes
    match cs.drop named.length with
    | [] => some now
    | sign :: rest =>
      if !"=+-".toList.contains sign then none
      else
        let letters := rest.takeWhile ("rwxugoXs".toList.contains ·)
        let bits := letters.foldl (fun k c => k ||| (match c with
          | 'r' => 4
          | 'w' => 2
          | 'x' => 1
          | 'u' => old / 64
          | 'g' => old / 8
          | 'o' => old
          | 'X' => if old &&& 0o111 = 0 then 0 else 1
          | _ => 0)) 0
        let chosen := bits % 8 * classes
        let all := 7 * classes
        let now := match sign with
          | '-' => now - (now &&& chosen)
          | '=' => (now - (now &&& all)) ||| chosen
          | _ => now ||| chosen
        match rest.drop letters.length with
        | ',' :: rest => changePermissions? old n 0 now rest
        | [] => some now
        | c :: rest =>
          if "=+-".toList.contains c then changePermissions? old n classes now (c :: rest) else none

/-- Shows or changes the bits that new files lack. -/
def umask (args : List Bytes) : Job Unit := do
  let (options, operands) ← takeOptions "S" args
  let self := (← state).self
  let mask := (((← system).process? self).map (·.mask)).getD 0
  match operands with
  | [] =>
    if options.isEmpty then
      let digits := Nat.toDigits 8 mask
      print (octets (List.replicate (4 - digits.length) '0' ++ digits) ++ [Text.lineFeed])
    else
      let part (divisor : Nat) : Bytes := octets (permissionLetters ((511 - mask) / divisor % 8))
      print (ascii "u=" ++ part 64 ++ ascii ",g=" ++ part 8 ++ ascii ",o=" ++ part 1
        ++ [Text.lineFeed])
  | a :: _ =>
    if a.head?.any fun b => (Char.ofNat b.toNat).isDigit then
      if (chars a).all isOctal then
        let n := (chars a).foldl (fun n c => n * 8 + (c.toNat - 48)) 0
        onProcess fun y self => y.setMask self (n % 512)
        setStatus 0
      else fault (ascii "Illegal number: " ++ a)
    else
      match changePermissions? (511 - mask) (a.length + 1) 0 (511 - mask) (chars a) with
      | some now =>
        onProcess fun y self => y.setMask self (511 - now)
        setStatus 0
      | none => fault (ascii "Illegal mode: " ++ a)

/-- Shows or sets a limit of the system.  Limits come with the letters that ask for them; the usual
ones and the greatest ones, which are marked, are set together unless one of them is asked for. -/
def ulimit (args : List Bytes) : Job Unit := do
  let (options, operands) ← takeOptions "HSatfdscmlpnvwr" args
  let whichever := options.filter fun (c, _) => c == 'H' || c == 'S'
  let highest := (whichever.getLast?.map (·.1)) == some 'H'
  let asked := (options.filter fun (c, _) => c != 'H' && c != 'S').getLast?
  let letter := (asked.map (·.1)).getD 'f'
  let usual : Char → Bytes := fun c => match c with
    | 's' => ascii "8192"
    | 'n' => ascii "1048576"
    | 'r' => ascii "0"
    | _ => ascii "unlimited"
  match operands with
  | [] =>
    let limit := ((← state).limits.lookup (letter, highest)).getD (usual letter)
    print (limit ++ [Text.lineFeed])
  | a :: rest =>
    if !rest.isEmpty || options.any (·.1 == 'a') then fault (ascii "too many arguments")
    if a ≠ ascii "unlimited" && (natOf? a).isNone && !a.isEmpty then fault (ascii "bad number")
    let value := if a = ascii "unlimited" then a else decimal ((natOf? a).getD 0)
    let kinds := if whichever.isEmpty then [false, true] else [highest]
    change fun s => { s with limits := kinds.map (fun k => ((letter, k), value)) ++ s.limits }
    setStatus 0

/-! ## Printing by a format -/

def complainAll : List Bytes → Job Unit
  | [] => return ()
  | message :: rest => do
    complain message
    complainAll rest

def printf (args : List Bytes) : Job Unit := do
  let (_, args) ← takeOptions "" args
  match args with
  | [] => fault (ascii "usage: printf format [arg ...]")
  | format :: args =>
    let p := printFormat shellPrintfRules format args
    print p.out
    complainAll p.complaints
    if p.code ≠ 0 then setStatus p.code

/-! ## Aliases -/

/-- An alias as the command that makes it. -/
def aliasText (entry : Bytes × Bytes) : Bytes :=
  entry.1 ++ ascii "=" ++ singleQuoted entry.2 ++ [Text.lineFeed]

/-- Makes aliases, or shows them. -/
def makeAliases (code : Nat) : List Bytes → Job Unit
  | [] => setStatus code
  | a :: rest => do
    let aliases := (← state).aliases
    let (name, text) := splitBinding (a.drop 1)
    match a.take 1 ++ name, text with
    | name, some text =>
      let known := aliases.any (·.1 = name)
      let aliases :=
        if known then aliases.map fun e => if e.1 = name then (name, text) else e
        else aliases ++ [(name, text)]
      change fun s => { s with aliases }
      makeAliases code rest
    | name, none =>
      match aliases.lookup name with
      | some text =>
        print (aliasText (name, text))
        makeAliases code rest
      | none =>
        let _ ← write 2 (ascii "alias: " ++ name ++ ascii " not found\n")
        makeAliases 1 rest

/-- Makes aliases, or lists all. -/
def setAliases (args : List Bytes) : Job Unit := do
  if args.isEmpty then
    let ordered := (← state).aliases.mergeSort fun a b =>
      bucket bucketCount a.1 ≤ bucket bucketCount b.1
    print (ordered.flatMap aliasText)
  else makeAliases 0 args

def forgetAliases (code : Nat) : List Bytes → Job Unit
  | [] => setStatus code
  | name :: rest => do
    if (← state).aliases.any (·.1 = name) then
      change fun s => { s with aliases := s.aliases.filter (·.1 ≠ name) }
      forgetAliases code rest
    else
      let _ ← write 2 (ascii "unalias: " ++ name ++ ascii " not found\n")
      forgetAliases 1 rest

/-- Forgets aliases.  What stands behind the option for all is not looked at. -/
def dropAliases (args : List Bytes) : Job Unit := do
  if (args.headD []).take 2 = ascii "-a" then
    change fun s => { s with aliases := [] }
    setStatus 0
  else
    let (_, names) ← takeOptions "a" args
    forgetAliases 0 names

end Job

/-- A command that the shell carries out itself. -/
structure Builtin where
  run : List Bytes → Job Unit
  /-- Assignments before the command stay, and a mistake ends the shell. -/
  isSpecial : Bool := false

/-- The commands that the shell carries out itself. -/
def builtin? (name : Bytes) : Option Builtin :=
  match String.ofList (chars name) with
  | ":" => some ⟨fun _ => Job.setStatus 0, true⟩
  | "true" => some ⟨fun _ => Job.setStatus 0, false⟩
  | "false" => some ⟨fun _ => Job.setStatus 1, false⟩
  | "echo" => some ⟨fun args => Job.print (shellEcho args), false⟩
  | "printf" => some ⟨Job.printf, false⟩
  | "read" => some ⟨Job.readVariables, false⟩
  | "kill" => some ⟨Job.kill, false⟩
  | "cd" => some ⟨Job.changeDirectory, false⟩
  | "chdir" => some ⟨Job.changeDirectory, false⟩
  | "pwd" => some ⟨Job.printDirectory, false⟩
  | "test" => some ⟨Job.test, false⟩
  | "[" => some ⟨Job.bracket, false⟩
  | "umask" => some ⟨Job.umask, false⟩
  | "ulimit" => some ⟨Job.ulimit, false⟩
  | "getopts" => some ⟨Job.nextOption, false⟩
  | "alias" => some ⟨Job.setAliases, false⟩
  | "unalias" => some ⟨Job.dropAliases, false⟩
  | "jobs" => some ⟨Job.jobs, false⟩
  | "fg" => some ⟨Job.resume, false⟩
  | "bg" => some ⟨Job.resume, false⟩
  | "local" => some ⟨Job.hide, true⟩
  | "times" => some ⟨fun _ => Job.print (ascii noTime), true⟩
  | "trap" => some ⟨Job.trap, true⟩
  | "exit" => some ⟨Job.exit, true⟩
  | "export" => some ⟨Job.exportAll, true⟩
  | "readonly" => some ⟨Job.fixAll, true⟩
  | "unset" => some ⟨Job.unsetAll, true⟩
  | "shift" => some ⟨Job.shift, true⟩
  | "set" => some ⟨Job.set, true⟩
  | "return" => some ⟨Job.giveBack, true⟩
  | "break" => some ⟨fun args => Job.leaveLoops .breaks args, true⟩
  | "continue" => some ⟨fun args => Job.leaveLoops .continues args, true⟩
  | _ => none
where
  /-- The times of a shell and of its programs, which take none. -/
  noTime : String := "0m0.000000s 0m0.000000s\n0m0.000000s 0m0.000000s\n"

end Relay.Shell
