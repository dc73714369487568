import Relay.Shell.Builtins
import Relay.Shell.Reader
import Relay.Userland.Search

/-!
# Running shell commands

Commands run one after another, but for the stages of a pipeline and the commands that the shell
does not wait for, which are processes of their own.  Programs run in processes of their own as
well, unless nothing follows them.  `main` is the shell as a program.
-/

namespace Relay.Shell

open Userland

namespace Job

/-! ## Programs -/

/-- What is said about a command that is not found. -/
def notFound (name : Bytes) : Bytes := name ++ ascii ": not found"

/-- Finds a program by the search path; a name without a slash is remembered with its path. -/
def searchProgram (name : Bytes) : Job (Except Errno Bytes) := do
  let s ← state
  let path := (← valueOf? (ascii "PATH")).getD []
  match locateProgram (← files) s.cwd path name with
  | .error e => return .error e
  | .ok (place, program) =>
    if !name.contains Path.slash then
      change fun s =>
        { s with remembered := s.remembered.filter (·.1 ≠ name) ++ [(name, place)] }
    return .ok program

/-- The microseconds that a simple command takes. -/
def stepTime : Nat := 20

def becomeProgram {α : Type} (launch : Launcher) (program name : Bytes) (args : List Bytes) :
    Job α := do
  let s ← state
  let inv : Invocation := { title := name, args, env := ← environment, cwd := s.cwd }
  become <| .change (·.beginProgram s.self) <| .rest startTime (launch program inv s.self)

/-- Finds a program; if there is none, complains and answers a code. -/
def requireProgram (name : Bytes) : Job (Except Nat Bytes) := do
  if name.isEmpty then
    complain (ascii ": Permission denied")
    return .error 126
  match ← searchProgram name with
  | .error e =>
    if e = .noEntry || e = .notDirectory then
      complain (notFound name)
      return .error 127
    else
      complain (name ++ ascii ": " ++ ascii e.text)
      return .error 126
  | .ok program => return .ok program

/-- Waits for the end of a process and answers its code; an end by a signal is reported. -/
def awaitCode (number : Nat) : Job Nat := do
  let ending ← awaitEnd number
  match ending with
  | .killed _ => reportSignal ending.code
  | .exited _ => pure ()
  return ending.code

/-- Waits for the ends of processes and takes the code of the last one. -/
def awaitAll : List Nat → Job Unit
  | [] => return ()
  | number :: rest => do
    setStatus (← awaitCode number)
    awaitAll rest

/-- Does a computation in a subshell and takes its code. -/
def inSubshell (body : Job Unit) : Job Unit := do
  awaitAll [← fork body]
  noteEnds

/-- Finds a program and runs it, in the shell's own process if nothing follows.  A program that is
looked for and cannot be run counts as not found. -/
def runProgram (launch : Launcher) (name : Bytes) (args : List Bytes) : Job Unit := do
  match ← requireProgram name with
  | .error code => setStatus (if name.contains Path.slash then code else 127)
  | .ok program =>
    let s ← state
    if s.isLast && s.handlers.isEmpty then becomeProgram launch program name args
    else
      onProcess fun y self => y.hold self []
      inSubshell (becomeProgram launch program name args)

/-! ## Redirections -/

/-- Why a file cannot be opened, as the shell says it. -/
def openFailure (e : Errno) (missing : String) : Bytes :=
  ascii (if e = .noEntry || e = .notDirectory then missing else e.text)

/-- Whether a path leads to a file that the shell was told to keep. -/
def isKept (s : State) (t : FileTree) (direction : Direction) (path : Bytes) : Bool :=
  s.switches.has "noclobber" && direction = .output &&
    match t.find s.cwd path with
    | .ok (_, .regular _) => true
    | .ok (_, .program _) => true
    | _ => false

/-- Opens a path; answers where it leads. -/
def openPath (direction : Direction) (path : Bytes) : Job (Except Errno Channel) := do
  let s ← state
  let opened (f : FileTree → Except Errno (Nat × FileTree)) : Job (Except Errno Channel) :=
    onSystem fun y =>
      match f y.files with
      | .ok (d, t) => (.ok (.file d), { y with files := t })
      | .error e => (.error e, y)
  match pathDescriptor? path with
  | some n =>
    match ← channel? n with
    | none => return .error .noEntry
    | some (.file f) => opened fun t => t.reopen f direction.mode?
    | some c => return .ok c
  | none =>
    if isKept s (← files) direction path then return .error .fileExists
    else
      match direction.mode? with
      | some mode => opened fun t => t.openWrite s.cwd path mode
      | none => opened fun t => t.openRead s.cwd path

/-- How redirections change a descriptor: for good, or until they are taken back. -/
abbrev Connecting := Nat → Option Channel → Job Unit

/-- Changes a descriptor until the latest group of changes is taken back. -/
def redirect : Connecting := fun descriptor target =>
  onProcess fun y self => y.redirect self descriptor target

/-- Opens one redirection; answers whether that worked. -/
def openRedirection (printed : Command → Job Bytes) (connecting : Connecting) :
    Redirection → Job Bool
  | .mk descriptor direction word => do
    let target ← expandText printed word
    match direction with
    | .text =>
      let number ← onSystem fun y => y.addPipe (Pipe.holding target)
      connecting descriptor (some (.source number))
      return true
    | .copy =>
      if target = dash then
        connecting descriptor none
        return true
      else
        match (if target.length = 1 then natOf? target else none) with
        | none =>
          change fun s => { s with line := s.lineRead }
          fault (ascii "Syntax error: Bad fd number")
        | some n =>
          match ← channel? n with
          | some c =>
            connecting descriptor (some c)
            return true
          | none =>
            complain (target ++ ascii ": Bad file descriptor")
            return false
    | _ =>
      match ← openPath direction target with
      | .ok c =>
        connecting descriptor (some c)
        return true
      | .error e =>
        let (verb, missing) := if direction = .input then ("cannot open ", "No such file")
          else ("cannot create ", "Directory nonexistent")
        complain (ascii verb ++ target ++ ascii ": " ++ openFailure e missing)
        return false

def openRedirections (printed : Command → Job Bytes) (connecting : Connecting) :
    List Redirection → Job Bool
  | [] => return true
  | r :: rs => do
    if ← openRedirection printed connecting r then openRedirections printed connecting rs
    else return false

/-- Does a computation with redirections; answers nothing if one of them fails. -/
def withRedirections (printed : Command → Job Bytes) (rs : List Redirection) (body : Job Unit) :
    Job (Option Unit) := do
  if rs.isEmpty then return some (← body)
  onProcess System.beginGroup
  match ← caught (openRedirections printed redirect rs) with
  | .error l =>
    onProcess System.endGroup
    leave l
  | .ok false =>
    onProcess System.endGroup
    setStatus 2
    return none
  | .ok true =>
    let r ← caught body
    onProcess System.endGroup
    match r with
    | .ok () => return some ()
    | .error l => leave l

/-! ## Subshells -/

/-- Does a computation in a subshell for what it prints.  Its code counts for a simple command that
names nothing to run. -/
def outputOf (body : Job Unit) : Job Bytes := do
  let number ← addPipe
  let source := Channel.source number
  let sink := Channel.sink number
  let child ← fork do
    change fun s => { s with tested := false }
    connect 1 (some sink)
    letGo [source, sink]
    body
  letGo [sink]
  let b ← takeAll (some source) partLimit []
  letGo [source]
  let code ← awaitCode child
  change fun s => { s with substituted := code }
  return b

/-! ## Variables of one command -/

/-- Sets bindings, exported ones if asked to; answers them as they are written. -/
def assignAll (printed : Command → Job Bytes) (exporting : Bool) :
    List (List Char × Word) → Job (List Bytes)
  | [] => return []
  | (name, word) :: rest => do
    let value ← expandText printed word
    assign (octets name) value
    if exporting then exportVariable (octets name)
    return (octets name ++ ascii "=" ++ value) :: (← assignAll printed exporting rest)

/-- Does a computation with bindings that are set for it alone. -/
def withAssignments (printed : Command → Job Bytes) (bindings : List (List Char × Word))
    (body : List Bytes → Job Unit) : Job Unit := do
  if bindings.isEmpty then body []
  else
    let old := (← state).bindings
    let written ← assignAll printed true bindings
    let r ← caught (body written)
    let names := bindings.map fun (name, _) => octets name
    change fun s =>
      { s with bindings := names.foldl (fun vs name =>
          restored name (old.find? (·.name = name)) vs) s.bindings }
    match r with
    | .ok () => return ()
    | .error l => leave l

/-- A text that is expanded like one between quotes. -/
def quotedWord (text : Bytes) : Word :=
  let cs := chars text
  match readPieces (20 * cs.length + 100) .text { rest := cs } with
  | .ok (word, _) => word
  | .error _ => cs.map (.char · true)

/-- Shows a command before it runs, if the shell was told so; a text that is expanded stands in
front of it.  It is shown where complaints went before the command's redirections. -/
def trace (printed : Command → Job Bytes) (errors : Option Channel) (written : List Bytes) :
    Job Unit := do
  let s ← state
  if s.switches.traced then
    let text := (← valueOf? (ascii "PS4")).getD []
    let lead ← during (fun s => { s with switches := s.switches.turn false "xtrace" })
      (fun old s => { s with switches := old.switches }) (expandText printed (quotedWord text))
    let _ ← writeTo errors (lead ++ [32].intercalate written ++ [Text.lineFeed])

/-- How a part of a loop ends. -/
inductive PartEnd where
  | done
  | nextRound
  | left
  deriving DecidableEq

/-- Does a part of a loop.  Where that leaves several loops, `settle` comes before the others are
left. -/
def partOfLoop (settle part : Job Unit) : Job PartEnd := do
  match ← caught part with
  | .ok () => return .done
  | .error (.breaks n) =>
    if n ≤ 1 then return .left
    settle
    leave (.breaks (n - 1))
  | .error (.continues n) =>
    if n ≤ 1 then return .nextRound
    settle
    leave (.continues (n - 1))
  | .error l => leave l

/-- Turns the code of the last command into its opposite. -/
def negateStatus : Job Unit := change fun s => { s with status := if s.status = 0 then 1 else 0 }

/-! ## Commands by name -/

def runningCommands : List String := ["exec", "eval", ".", "command", "type", "wait", "hash"]

/-- Those commands of the shell itself that assignments before them outlast and whose mistakes end
the shell. -/
def isSpecialName (name : Bytes) : Bool :=
  specialCommands.contains (String.ofList (chars name))

/-- What a name stands for as a command: the name or path itself, and its description. -/
def describe (name : Bytes) : Job (Option (Bytes × Bytes)) := do
  let s ← state
  let text := String.ofList (chars name)
  if reserved.contains text then return some (name, name ++ ascii " is a shell keyword")
  else
    match s.aliases.lookup name, s.remembered.lookup name with
    | some other, _ =>
      return some ((ascii "alias " ++ aliasText (name, other)).dropLast,
        name ++ ascii " is an alias for " ++ other)
    | none, some place => return some (place, name ++ ascii " is a tracked alias for " ++ place)
    | none, none =>
      if isSpecialName name then return some (name, name ++ ascii " is a special shell builtin")
      else if s.functions.any (·.1 = name) then
        return some (name, name ++ ascii " is a shell function")
      else if runningCommands.contains text || (builtin? name).isSome then
        return some (name, name ++ ascii " is a shell builtin")
      else if name.contains Path.slash then
        if ((← files).find s.cwd name).toBool then return some (name, name ++ ascii " is " ++ name)
        else return none
      else
        match ← searchProgram name with
        | .ok _ =>
          let place := ((← state).remembered.lookup name).getD name
          return some (place, name ++ ascii " is " ++ place)
        | .error _ => return none

/-- Prints descriptions of commands, or, briefly, their names and paths. -/
def describeAll (brief : Bool) (code : Nat) : List Bytes → Job Unit
  | [] => setStatus code
  | name :: rest => do
    match ← describe name with
    | some (itself, text) =>
      print ((if brief then itself else text) ++ [Text.lineFeed])
      describeAll brief code rest
    | none =>
      if !brief then print (notFound name ++ [Text.lineFeed])
      describeAll brief 127 rest

/-- Finds programs by their names for later, or lists those that were found. -/
def hash (args : List Bytes) : Job Unit := do
  let (options, names) ← takeOptions "r" args
  let found := (← state).remembered
  if !options.isEmpty then
    change fun s => { s with remembered := [] }
    setStatus 0
  else if names.isEmpty then
    let ordered := found.mergeSort fun a b => bucket 31 a.1 ≤ bucket 31 b.1
    print (unlines (ordered.map (·.2)))
  else findAll 0 names
where
  findAll (code : Nat) : List Bytes → Job Unit
    | [] => setStatus code
    | name :: rest => do
      let isOwn := isSpecialName name || runningCommands.contains (String.ofList (chars name))
        || (builtin? name).isSome || (← state).functions.any (·.1 = name)
        || name.contains Path.slash
      if isOwn then findAll code rest
      else
        match ← requireProgram name with
        | .ok _ => findAll code rest
        | .error _ => findAll 1 rest

/-- A script that is read from a file; NUL characters are passed over. -/
def scriptOf (b : Bytes) : Source := { rest := chars (b.filter (· != 0)) }

def readScript (path : Bytes) : Job Bytes := do
  let s ← state
  match (← files).read s.cwd path with
  | .ok (.bytes b) => return b
  | .ok .zeros => return []
  | .error .isDirectory => return []
  | .error e =>
    fault (ascii "cannot open " ++ path ++ ascii ": " ++ openFailure e "No such file")

/-- The path of a script that a command names: a path, or a name on the search path. -/
def scriptPath (name : Bytes) : Job Bytes := do
  if name.contains Path.slash then return name
  else
    let s ← state
    let t ← files
    let folders := pieces (· == 58) ((← valueOf? (ascii "PATH")).getD [])
    let candidates := folders.map fun folder =>
      if folder.isEmpty then name else folder ++ [Path.slash] ++ name
    let isScript (path : Bytes) : Bool :=
      match t.find s.cwd path with
      | .ok (_, .regular _) => true
      | .ok (_, .program _) => true
      | _ => false
    match candidates.find? isScript with
    | some path => return path
    | none => fault (notFound name)

/-- Waits for commands in the background; answers a signal that arrived before they were over. -/
def awaitEntrusted (es : List Entrusted) : Job (Option Nat) := do
  let s ← state
  let es := es.filter fun e => !s.finished.any (·.1 = e.number)
  let areOver (y : System) : Bool := es.all fun e => (codeIn y e).isSome
  let arrived (y : System) : List Nat := ((y.process? s.self).map (·.arrived)).getD []
  await fun y => areOver y || !(arrived y).isEmpty
  let y ← system
  noteEnds
  return if areOver y then none else (arrived y).head?

/-- The code of the last of some commands in the background, which are waited for; an argument names
one by its number or by its place in the list. -/
def codeOfLast (code : Nat) : List Bytes → Job Nat
  | [] => return code
  | a :: rest => do
    let number ← if a.head? = some 37 then do pure (← entrustedOf a).number else numberOf a
    let known := (← state).finished.any (·.1 = number)
    let es := (← state).entrusted.filter (·.number = number)
    match ← awaitEntrusted es with
    | some signal => return 128 + signal
    | none =>
      change fun s =>
        { s with entrusted := s.entrusted.map fun e =>
            if e.number = number then { e with awaited := true } else e }
      let code := ((← state).finished.lookup number).getD 127
      if !known then reportSignal code
      codeOfLast code rest

/-- What a stage of a pipeline does: it reads what the stage before printed, prints for the next
one, and lets go of all other ends of pipes. -/
def asStage (input output : Option Channel) (others : List Channel) (body : Job Unit) :
    Job Unit := do
  match input with
  | some c => connect 0 (some c)
  | none => pure ()
  match output with
  | some c => connect 1 (some c)
  | none => pure ()
  letGo others
  body

/-- Starts the stages of a pipeline, of which the first reads some channel if it is given; answers
the numbers of their processes. -/
def startStages (prepared : Job Unit) : Option Channel → List (Job Unit) → Job (List Nat)
  | _, [] => return []
  | input, [stage] => do
    let number ← fork (asStage input none input.toList (prepared >>= fun _ => stage))
    letGo input.toList
    return [number]
  | input, stage :: rest => do
    let pipe ← addPipe
    let source := Channel.source pipe
    let sink := Channel.sink pipe
    let held := input.toList ++ [source, sink]
    let number ← fork (asStage input (some sink) held (prepared >>= fun _ => stage))
    letGo (sink :: input.toList)
    return number :: (← startStages (pure ()) (some source) rest)

/-- Makes a process that nobody waits for deaf to interruptions. -/
def deafen : Job Unit := do
  change fun s => { s with ignored := [2, 3] ++ s.ignored }
  onProcess fun y self => y.onProcess self fun p => { p with deaf := [2, 3] ++ p.deaf }

/-- Gives a process that nobody waits for an input that holds nothing. -/
def withoutInput : Job Unit := do
  let null : OpenFile := { entry := .device .null, reads := true, writes := false }
  let descriptor ← onSystem fun y =>
    let (d, files) := y.files.addOpen null
    (d, { y with files })
  connect 0 (some (.file descriptor))

mutual

def run (launch : Launcher) : Nat → Command → Job Unit
  | 0, _ => leave (.exits 2)
  | n + 1, c => do
    if (← state).switches.has "noexec" then return ()
    match c with
    | .nothing => return ()
    | .simple line assignments words redirections =>
      change fun s => { s with line, substituted := 0 }
      rest stepTime
      let fields ← expandCommand (printed launch n) false words
      checked (runSimple launch n fields assignments redirections)
      runHandlers launch n
    | .pipe stages =>
      checked do
        awaitAll (← startStages (pure ()) none (stages.map fun c => runWhole launch n (run launch n c)))
      runHandlers launch n
    | .both a b =>
      followed (tested (run launch n a))
      if (← state).status = 0 then run launch n b
    | .either a b =>
      followed (tested (run launch n a))
      if (← state).status ≠ 0 then run launch n b
    | .sequence a b =>
      followed (run launch n a)
      run launch n b
    | .negation a =>
      followed (tested (run launch n a))
      negateStatus
    | .conditional test yes no =>
      followed (tested (run launch n test))
      if (← state).status = 0 then run launch n yes
      else
        match no with
        | .nothing => setStatus 0
        | no => run launch n no
    | .loop untilSuccess test body =>
      followed (looping (runLoop launch n untilSuccess test body 0))
    | .each line name words body =>
      change fun s => { s with line }
      let fields ← match words with
        | some ws => expandWords (printed launch n) ws
        | none => pure (← state).parameters
      followed (looping (runEach launch n (octets name) body fields 0))
    | .choice line word cases =>
      change fun s => { s with line }
      runCases launch n (chars (← expandText (printed launch n) word)) cases
    | .subshell line body =>
      change fun s => { s with line }
      let s ← state
      if s.isLast && s.handlers.isEmpty then run launch n body
      else
        checked (inSubshell (runWhole launch n (run launch n body)))
        runHandlers launch n
    | .redirected line (.subshell inner body) redirections =>
      change fun s => { s with line }
      let s ← state
      if s.isLast && s.handlers.isEmpty then
        runConnected launch n (.subshell inner body) redirections
      else
        checked (inSubshell (runWhole launch n (runConnected launch n body redirections)))
        runHandlers launch n
    | .redirected line body redirections =>
      change fun s => { s with line }
      let done ← followed (withRedirections (printed launch n) redirections (run launch n body))
      if done.isNone then checked (pure ())
    | .define name body =>
      change fun s =>
        { s with functions := (octets name, body) :: s.functions.filter (·.1 ≠ octets name) }
      setStatus 0
    | .background body =>
      let stages := match body with
        | .pipe stages => stages
        | _ => [body]
      let alone := do
        deafen
        withoutInput
      let work (c : Command) : Job Unit :=
        match stages, c with
        | [_], .redirected _ body redirections => runConnected launch n body redirections
        | _, c => run launch n c
      entrust (← startStages alone none (stages.map fun c => runWhole launch n (work c)))
      setStatus 0

/-- Runs a command as the last one of its process, with redirections that are not taken back. -/
def runConnected (launch : Launcher) : Nat → Command → List Redirection → Job Unit
  | 0, _, _ => leave (.exits 2)
  | n + 1, c, redirections => do
    if !(← openRedirections (printed launch n) connect redirections) then leave .fails
    run launch n c

def printed (launch : Launcher) : Nat → Command → Job Bytes
  | 0, _ => leave (.exits 2)
  | _, .nothing => return []
  | n + 1, c => outputOf (runWhole launch n (run launch n c))

/-- Does the work of a whole shell: its commands, and what is to be done at its end. -/
def runWhole (launch : Launcher) : Nat → Job Unit → Job Unit
  | 0, _ => leave (.exits 2)
  | n + 1, body => do
    let r ← caught (returning body)
    match r with
    | .error (.exits code) => setStatus code
    | .error .fails => setStatus 2
    | _ => pure ()
    match (← state).handlers.lookup 0 with
    | some action =>
      let code := (← state).status
      change fun s => { s with handlers := s.handlers.filter (·.1 ≠ 0) }
      match ← caught (returning (runText launch n action)) with
      | .error (.exits code) => setStatus code
      | .error .fails => setStatus 2
      | _ => setStatus code
    | none => pure ()

/-- Does what is to be done for the signals that arrived. -/
def runHandlers (launch : Launcher) : Nat → Job Unit
  | 0 => leave (.exits 2)
  | n + 1 => do
    let s ← state
    if s.handlers.isEmpty then return ()
    let y ← system
    match (y.process? s.self).bind (·.arrived.head?) with
    | none => return ()
    | some signal =>
      onProcess fun y self => y.onProcess self fun p => { p with arrived := p.arrived.erase signal }
      match s.handlers.lookup signal with
      | some action =>
        followed (runText launch n action)
        setStatus s.status
      | none => pure ()
      runHandlers launch n

def runSimple (launch : Launcher) : Nat → List Bytes → List (List Char × Word) →
    List Redirection → Job Unit
  | 0, _, _, _ => leave (.exits 2)
  | n + 1, fields, assignments, redirections => do
    let errors ← channel? 2
    let withFiles := withRedirections (printed launch n) redirections
    let announce (written : List Bytes) : Job Unit :=
      trace (printed launch n) errors (written ++ fields)
    match fields with
    | [] =>
      let done ← withFiles do
        announce (← assignAll (printed launch n) false assignments)
      if done.isSome then setStatus (← state).substituted
    | name :: args =>
      if name = ascii "exec" then
        if !(← openRedirections (printed launch n) connect redirections) then leave .fails
        announce (← assignAll (printed launch n) (!args.isEmpty) assignments)
        dispatch launch n true name args
      else if isSpecialName name then
        let done ← withFiles do
          announce (← assignAll (printed launch n) false assignments)
          dispatch launch n true name args
        if done.isNone then leave .fails
      else
        let _ ← withFiles do
          withAssignments (printed launch n) assignments fun written => do
            announce written
            dispatch launch n true name args

/-- Runs a command that is given by its name; functions may be left out of account.  A mistake of a
common command of the shell makes the command fail. -/
def dispatch (launch : Launcher) : Nat → Bool → Bytes → List Bytes → Job Unit
  | 0, _, _, _ => leave (.exits 2)
  | n + 1, functions, name, args => do
    let s ← state
    let function := if functions && !isSpecialName name then s.functions.lookup name else none
    match function, inner? launch n name with
    | some body, _ => call launch n body args
    | none, some builtin =>
      match ← caught (onBehalfOf name (builtin.run args)) with
      | .ok () => return ()
      | .error .fails => if builtin.isSpecial then leave .fails else setStatus 2
      | .error l => leave l
    | none, none => runProgram launch name args

def call (launch : Launcher) : Nat → Command → List Bytes → Job Unit
  | 0, _, _ => leave (.exits 2)
  | n + 1, body, args => do
    let old ← state
    change fun s =>
      { s with parameters := args, optionPlace := (1, none), loops := 0
               hidden := ([], none) :: s.hidden }
    let r ← caught (returning (followed (run launch n body)))
    let (frame, switches) := (← state).hidden.headD ([], none)
    change fun s =>
      { s with parameters := old.parameters, optionPlace := old.optionPlace
               loops := old.loops, hidden := s.hidden.tail
               switches := switches.getD s.switches
               bindings := frame.foldl (fun vs (name, v) => restored name v vs) s.bindings }
    match frame.find? fun (name, _) => !isName (chars name) with
    | some (name, _) => requireName name
    | none => pure ()
    match r with
    | .ok () => return ()
    | .error l => leave l

/-- The commands of the shell itself. -/
def inner? (launch : Launcher) : Nat → Bytes → Option Builtin
  | 0, _ => none
  | n + 1, name =>
    match String.ofList (chars name) with
    | "exec" => some ⟨fun args => do
        setStatus 0
        match args with
        | [] => return ()
        | name :: args =>
          match ← requireProgram name with
          | .ok program => becomeProgram launch program name args
          | .error code => leave (.exits code), true⟩
    | "eval" => some ⟨fun args => followed (runText launch n ([32].intercalate args)), true⟩
    | "." => some ⟨fun args => do
        let (_, args) ← takeOptions "" args
        match args with
        | [] => setStatus 0
        | name :: _ =>
          let path ← scriptPath name
          let script ← readScript path
          onBehalfOf name (returning (followed (runSource launch n true false (scriptOf script)))),
        true⟩
    | "wait" => some ⟨fun args => do
        let (_, args) ← takeOptions "" args
        if args.isEmpty then
          match ← awaitEntrusted (← state).entrusted with
          | some signal => setStatus (128 + signal)
          | none =>
            change fun s =>
              { s with entrusted := s.entrusted.map fun e => { e with awaited := true } }
            setStatus 0
        else setStatus (← codeOfLast 0 args), false⟩
    | "type" => some ⟨describeAll false 0, false⟩
    | "hash" => some ⟨hash, false⟩
    | "command" => some ⟨fun args => do
        let (options, words) ← takeOptions "pvV" args
        match words with
        | [] => setStatus 0
        | word :: rest =>
          if options.any (·.1 == 'V') then describeAll false 0 [word]
          else if options.any (·.1 == 'v') then describeAll true 0 [word]
          else onBehalfOf [] (dispatch launch n false word rest), false⟩
    | _ => builtin? name

/-- Repeats a body; the code is that of the body's last round. -/
def runLoop (launch : Launcher) : Nat → Bool → Command → Command → Nat → Job Unit
  | 0, _, _, _, _ => leave (.exits 2)
  | n + 1, untilSuccess, test, body, code => do
    match ← partOfLoop (setStatus code) (tested (run launch n test)) with
    | .left => setStatus code
    | .nextRound => runLoop launch n untilSuccess test body code
    | .done =>
      if ((← state).status == 0) == untilSuccess then setStatus code
      else if (← partOfLoop (pure ()) (run launch n body)) ≠ .left then
        runLoop launch n untilSuccess test body (← state).status

/-- Repeats a body for each field; the code is that of the body's last round. -/
def runEach (launch : Launcher) : Nat → Bytes → Command → List Bytes → Nat → Job Unit
  | 0, _, _, _, _ => leave (.exits 2)
  | _, _, _, [], code => setStatus code
  | n + 1, name, body, field :: rest, _ => do
    assign name field
    if (← partOfLoop (pure ()) (run launch n body)) ≠ .left then
      runEach launch n name body rest (← state).status

/-- Runs the first of some cases one of whose patterns matches a text. -/
def runCases (launch : Launcher) : Nat → List Char → List Case → Job Unit
  | 0, _, _ => leave (.exits 2)
  | _, _, [] => setStatus 0
  | n + 1, text, .mk patterns body :: rest => do
    if ← matchesAny launch n text patterns then
      match body with
      | .nothing => setStatus 0
      | _ => run launch n body
    else runCases launch n text rest

def matchesAny (launch : Launcher) : Nat → List Char → List Word → Job Bool
  | 0, _, _ => leave (.exits 2)
  | _, _, [] => return false
  | n + 1, text, pattern :: rest => do
    if matchesGlyphs (← expandGlyphs (printed launch n) pattern) text then return true
    else matchesAny launch n text rest

/-- Runs a script that is not read from a file. -/
def runText (launch : Launcher) : Nat → Bytes → Job Unit
  | 0, _ => leave (.exits 2)
  | n + 1, text => runSource launch n false false { rest := chars text }

/-- Runs a script, one complete line after another.  Lines read from a file may be shown.  Unless
commands of it ran before, a script without commands succeeds. -/
def runSource (launch : Launcher) : Nat → Bool → Bool → Source → Job Unit
  | 0, _, _, _ => leave (.exits 2)
  | n + 1, fromFile, ran, source => do
    let s ← state
    let source := { source with aliases := s.aliases.map fun (k, v) => (chars k, chars v) }
    match readUnit source with
    | .error (mistake, line) =>
      change fun s => { s with line }
      fault (ascii mistake.message)
    | .ok none => if !ran then setStatus 0
    | .ok (some (c, rest)) =>
      runUnit launch n fromFile source c rest
      let idle : Bool := match c with
        | .nothing => true
        | _ => false
      runSource launch n fromFile (ran || !idle) rest

/-- Runs the command that was read between two places of a script. -/
def runUnit (launch : Launcher) : Nat → Bool → Source → Command → Source → Job Unit
  | 0, _, _, _, _ => leave (.exits 2)
  | n + 1, fromFile, start, c, stop => do
    change fun s => { s with lineRead := stop.line }
    if fromFile && (← state).switches.has "verbose" then
      let _ ← write 2 (octets (start.rest.take (start.rest.length - stop.rest.length)))
    run launch n c

end

end Job

/-! ## The shell as a program -/

/-- Gives a variable a value, and exports it if asked to. -/
def withVariable (exporting : Bool) (vs : List Variable) (name value : Bytes) : List Variable :=
  let old := (vs.find? (·.name = name)).getD { name }
  let new := { old with value := some value, exported := old.exported || exporting }
  restored name (some new) vs

/-- The variables that a shell starts with: its own ones, those of its environment, and what it
knows by itself. -/
def startVariables (inv : Invocation) (parent : Nat) : List Variable :=
  let entries := inv.env.filter fun (k, _) => isName (chars k)
  let vs := entries.foldl (fun vs (k, v) => withVariable true vs k v) ownVariables
  let vs := withVariable false vs (ascii "IFS") (ascii " \t\n")
  let vs := withVariable false vs (ascii "OPTIND") (ascii "1")
  let vs := withVariable false vs (ascii "PPID") (decimal parent)
  withVariable true vs (ascii "PWD") (Path.ofLocation inv.cwd)

/-- How many steps a shell takes at most. -/
def stepLimit : Nat := 1000000

def startState (inv : Invocation) (y : System) (number : Nat) (title : Bytes)
    (parameters : List Bytes) (switches : Switches) : State :=
  let process := (y.process? number).getD { number, parent := 0 }
  { self := number, root := number, cwd := inv.cwd, title, parameters, switches
    bindings := startVariables inv process.parent, ignored := process.deaf }

/-- What a shell runs. -/
inductive Script where
  | text (b : Bytes)
  /-- The text of an argument, and then the input. -/
  | textAndInput (b : Bytes)
  | input
  | file (b : Bytes)

/-- How many bytes of a script are read at once. -/
def scriptBlock : Nat := 8192

/-- A command that does nothing, on a line of its own. -/
def idleLine : List Char := [':', '\n']

/-- The command at a place of a script of which not everything is known: it has to end where the known
part does at the latest, so that a further line would be no part of it. -/
def settledUnit? (source : Source) : Option (Command × Source) :=
  match readUnit { source with rest := source.rest ++ idleLine } with
  | .ok (some (c, after)) =>
    let left := after.rest.length
    if left < idleLine.length then none
    else some (c, { after with rest := after.rest.take (left - idleLine.length) })
  | _ => none

/-- Runs the commands of the input from a place on.  It is read block by block, and only as far as
the next command needs it, since the commands read the same input. -/
def Job.runInput (launch : Launcher) : Nat → Source → Job Unit
  | 0, _ => leave (.exits 2)
  | n + 1, source => do
    let s ← Job.state
    let source := { source with aliases := s.aliases.map fun (k, v) => (chars k, chars v) }
    match settledUnit? source with
    | some (c, rest) =>
      Job.runUnit launch n true source c rest
      Job.runInput launch n rest
    | none =>
      let (b, more) ← Job.take (← Job.channel? 0) (·.take scriptBlock)
      let source := { source with rest := source.rest ++ (Job.scriptOf b).rest }
      if more then Job.runInput launch n source else Job.runSource launch n true true source

def Job.runScript (launch : Launcher) : Script → Job Unit
  | .text b => Job.runText launch stepLimit b
  | .textAndInput b => do
    Job.runText launch stepLimit b
    Job.runInput launch stepLimit { rest := [] }
  | .input => Job.runInput launch stepLimit { rest := [] }
  | .file b => Job.runSource launch stepLimit true false (Job.scriptOf b)

/-- The shell as a program: it runs the commands of an argument, of a file or of its input; those of
its input can follow those of an argument. -/
def main (launch : Launcher) (inv : Invocation) (number : Nat) : Thread := .look fun y =>
  let line (message : Bytes) : Bytes :=
    inv.title ++ ascii ": 0: " ++ message ++ [Text.lineFeed]
  let refused (message : Bytes) : Thread :=
    emit number 2 (line message) fun _ => .ended (.exited 2)
  match SwitchCall.read true inv.args.length {} inv.args with
  | .error option => refused (ascii "Illegal option " ++ option)
  | .ok call =>
    let notes := if call.switches.has "monitor" then line (ascii Job.noTerminal) else []
    let start (title : Bytes) (parameters : List Bytes) (script : Script) : Thread :=
      let readsInput := !call.fromArgument && call.operands.isEmpty
      let switches := call.switches.turn false "monitor"
      let switches := if readsInput then switches.turn true "stdin" else switches
      let job : Job Unit := do
        let _ ← Job.write 1 call.listing
        let _ ← Job.write 2 notes
        Job.runWhole launch stepLimit (Job.runScript launch script)
      job (startState inv y number title parameters switches) fun r s => .ended (Job.endingOf r s)
    match call.fromArgument, call.switches.has "stdin", call.operands with
    | true, _, [] => refused (ascii "-c requires an argument")
    | true, false, script :: rest => start (rest.headD inv.title) rest.tail (.text script)
    | true, true, script :: rest => start (rest.headD inv.title) rest.tail (.textAndInput script)
    | false, true, operands => start inv.title operands .input
    | false, false, [] => start inv.title [] .input
    | false, false, path :: rest =>
      match y.files.read inv.cwd path with
      | .ok (.bytes script) => start path rest (.file script)
      | .ok .zeros => start path rest (.file [])
      | .error e =>
        if e = .isDirectory then start path rest (.file [])
        else
          refused (ascii "cannot open " ++ path ++ ascii ": " ++ Job.openFailure e "No such file")

end Relay.Shell
