import Relay.Process.Signal
import Relay.Userland.Running
import Relay.Userland.Printing
import Relay.Userland.Search

/-!
# Environments

`env` lists the environment, or starts a program in a changed one.  It can also change what signals
do to the program.
-/

namespace Relay.Userland

/-- The exit code of a call that starts no program because it is wrong. -/
def envFailure : Nat := 125

def envOptions : List OptionRule :=
  [plainOption 'i' ["ignore-environment"], plainOption '0' ["null"], valueOption 'u' ["unset"],
    valueOption 'C' ["chdir"], namedOption "default-signal" .maybe,
    namedOption "ignore-signal" .maybe, namedOption "block-signal" .maybe,
    namedOption "list-signal-handling" .never, plainOption 'v' ["debug"],
    valueOption 'S' ["split-string"]]
    ++ selfDescription

/-- An environment with one more entry, in place of what its name was bound to. -/
def bindEntry (env : List (Bytes × Bytes)) (name value : Bytes) : List (Bytes × Bytes) :=
  if env.any (·.1 = name) then env.map fun (k, v) => (k, if k = name then value else v)
  else env ++ [(name, value)]

/-- A name and a value with an equals sign between them. -/
def splitEntry? (a : Bytes) : Option (Bytes × Bytes) :=
  let name := a.takeWhile (· != 61)
  if name.length < a.length then some (name, a.drop (name.length + 1)) else none

/-! ## Splitting a text into arguments -/

/-- What has been split off a text. -/
structure Splitting where
  words : List Bytes := []
  /-- The next character starts a word. -/
  apart : Bool := true
  /-- The kind of quotes that are open. -/
  quotes : Option Char := none

/-- Adds characters to the last word, or starts a new one with them. -/
def Splitting.add (s : Splitting) (b : Bytes) : Splitting :=
  if s.apart then { s with words := s.words ++ [b], apart := false }
  else { s with words := s.words.dropLast ++ [s.words.getLastD [] ++ b] }

/-- Opens or closes quotes. -/
def Splitting.turn (s : Splitting) (c : Char) : Splitting :=
  { s.add [] with quotes := if s.quotes.isSome then none else some c }

/-- The name of a variable between braces, after its dollar sign. -/
def bracedName? (cs : List Char) : Option (Bytes × List Char) :=
  match cs with
  | opening :: rest =>
    let name := rest.takeWhile fun c => c.isAlphanum || c == '_'
    match rest.drop name.length with
    | closing :: rest =>
      if opening == '\x7b' && closing == '\x7d' && name.head?.any fun c => !c.isDigit then
        some (octets name, rest)
      else none
    | [] => none
  | [] => none

/-- Splits a text into arguments, of which quotes keep blanks, and in which variables stand for
their values; the error is the complaint.  At most `n` characters are read. -/
def splitText (env : List (Bytes × Bytes)) : Nat → Splitting → List Char →
    Except Bytes (List Bytes)
  | 0, s, _ => .ok s.words
  | _, s, [] =>
    if s.quotes.isSome then .error (ascii "no terminating quote in -S string") else .ok s.words
  | n + 1, s, '\\' :: cs =>
    let literal (c : Char) (rest : List Char) : Except Bytes (List Bytes) :=
      splitText env n (s.add (octets [c])) rest
    match s.quotes, cs with
    | some '\'', c :: rest =>
      if c == '\\' || c == '\'' then literal c rest else literal '\\' cs
    | some '\'', [] => literal '\\' cs
    | _, [] => .error (ascii "invalid backslash at end of string in -S")
    | quotes, c :: rest =>
      if "\"#$'\\".toList.contains c then literal c rest
      else if c == '_' then
        if quotes.isSome then literal ' ' rest else splitText env n { s with apart := true } rest
      else if c == 'c' then
        if quotes.isSome then
          .error (ascii "'\\c' must not appear in double-quoted -S string")
        else .ok s.words
      else if "fnrtv".toList.contains c then
        literal (Char.ofNat ((plainEscape? c).getD 0).toNat) rest
      else .error (ascii "invalid sequence '\\" ++ octets [c] ++ ascii "' in -S")
  | n + 1, s, c :: cs =>
    let isOpen (q : Char) : Bool := s.quotes.all (· == q)
    if (c == '\'' || c == '"') && isOpen c then splitText env n (s.turn c) cs
    else if isNumberSpace c && s.quotes.isNone then splitText env n { s with apart := true } cs
    else if c == '#' && s.apart && s.quotes.isNone then .ok s.words
    else if c == '$' && s.quotes != some '\'' then
      match bracedName? cs with
      | none =>
        .error (ascii "only $\x7bVARNAME\x7d expansion is supported, error at: "
          ++ octets (c :: cs))
      | some (name, rest) =>
        match env.lookup name with
        | some value => splitText env n (s.add value) rest
        | none => splitText env n s rest
    else splitText env n (s.add (octets [c])) cs

/-! ## Calls -/

/-- What is done about a signal. -/
structure SignalRule where
  signal : Nat
  /-- The signal does what it usually does; otherwise it does nothing. -/
  usual : Bool

structure EnvCall where
  empties : Bool := false
  zeroEnded : Bool := false
  unsets : List Bytes := []
  folder : Option Bytes := none
  debug : Bool := false
  /-- What is done about signals, for each signal once. -/
  rules : List SignalRule := []
  /-- The signals that are held up, and those that are not, if any were named. -/
  holding : Option (List Nat × List Nat) := none
  listsSignals : Bool := false
  /-- What is told about the steps taken so far. -/
  notes : Bytes := []

/-- Adds a note, if notes are asked for. -/
def EnvCall.note (c : EnvCall) (line : Bytes) : EnvCall :=
  if c.debug then { c with notes := c.notes ++ line ++ [Text.lineFeed] } else c

/-- The signal that an operand stands for: its name, perhaps in small letters and with `SIG` in
front, its number, or the code of a program that it ended. -/
def operandSignal? (text : Bytes) : Option Nat :=
  let cs := (chars text).map Char.toUpper
  let found :=
    match natOf? text with
    | some n => some (n % 2147483648 % (if 255 ≤ n then 256 else 128))
    | none =>
      Signal.named? (String.ofList cs)
        <|> (if ['S', 'I', 'G'].isPrefixOf cs then Signal.named? (String.ofList (cs.drop 3)) else none)
  found.filter fun n => (Signal.name? n).isSome

def listedSignals (inv : Invocation) (text : Bytes) : Except Halt (List Nat) :=
  ((pieces (· == 44) text).filter (!·.isEmpty)).mapM fun name =>
    match operandSignal? name with
    | some 0 => misuse inv (quoted name ++ ascii ": invalid signal") envFailure
    | some n => .ok n
    | none => misuse inv (quoted name ++ ascii ": invalid signal") envFailure

/-- Sets what is done about signals, all of them if none are listed. -/
def EnvCall.rule (c : EnvCall) (usual : Bool) (signals : Option (List Nat)) : EnvCall :=
  let signals := signals.getD Signal.adjustable
  { c with
      rules := c.rules.filter (!signals.contains ·.signal)
        ++ signals.map fun signal => { signal, usual } }

/-- Sets which signals are held up. -/
def EnvCall.hold (c : EnvCall) (holds : Bool) (signals : Option (List Nat)) : EnvCall :=
  let (held, free) := c.holding.getD ([], [])
  match signals with
  | none =>
    { c with holding := some (if holds then (Signal.adjustable, []) else ([], Signal.adjustable)) }
  | some ns =>
    let without (l : List Nat) : List Nat := l.filter (!ns.contains ·)
    { c with
        holding := some (if holds then (without held ++ ns, without free)
          else (without held, without free ++ ns)) }

/-- Takes an option into account, except for a text to be split. -/
def EnvCall.take (inv : Invocation) (c : EnvCall) (f : Flag) : Except Halt EnvCall := do
  match f.key with
  | "i" => return { c with empties := true }
  | "0" => return { c with zeroEnded := true }
  | "u" => return { c with unsets := c.unsets ++ [f.text] }
  | "C" => return { c with folder := some f.text }
  | "v" => return { c with debug := true }
  | "ignore-signal" => return c.rule false (← f.value.mapM (listedSignals inv))
  | "default-signal" =>
    let signals ← f.value.mapM (listedSignals inv)
    return (c.rule true signals).hold false signals
  | "block-signal" => return c.hold true (← f.value.mapM (listedSignals inv))
  | "list-signal-handling" => return { c with listsSignals := true }
  | _ => return c

/-- Gives up after the notes that were taken before. -/
def EnvCall.giveUp {α : Type} (c : EnvCall) (answer : Except Halt α) : Except Halt α :=
  answer.mapError (·.mapErr (c.notes ++ ·))

/-- Reads the options of a call; a text to be split takes the place of the arguments that are read
next.  At most `n` arguments are read. -/
def EnvCall.read (inv : Invocation) : Nat → EnvCall → List Bytes →
    Except Halt (EnvCall × List Bytes)
  | 0, c, args => .ok (c, args)
  | _, c, [] => .ok (c, [])
  | n + 1, c, a :: rest =>
    let follow (r : Reading) : Except Halt (EnvCall × List Bytes) := do
      let c ← r.flags.foldlM (fun c f => c.giveUp (answerFlag (EnvCall.take inv) c f)) c
      match r.rest with
      | .error e => c.giveUp (misuse inv e.message envFailure)
      | .ok rest =>
        match r.flags.find? (·.key = "S") with
        | none => read inv n c rest
        | some f =>
          match splitText inv.env (f.text.length + 1) {} (chars f.text) with
          | .error message => c.giveUp (halt inv message envFailure)
          | .ok words =>
            let c := c.note (ascii "split -S:  " ++ quoted f.text)
            let c := words.zipIdx.foldl (fun c (w, k) =>
              c.note (ascii (if k = 0 then " into:    " else "     &    ") ++ quoted w)) c
            read inv n c (words ++ rest)
    match chars a with
    | ['-', '-'] => .ok (c, rest)
    | '-' :: '-' :: _ => follow (readName envOptions rest a)
    | '-' :: x :: xs => follow (readLetters envOptions rest (x :: xs))
    | _ => .ok (c, a :: rest)

/-- The environment that a call asks for, and the command that is to run in it. -/
def EnvCall.apply (c : EnvCall) (inv : Invocation) (args : List Bytes) :
    Except Halt (EnvCall × List (Bytes × Bytes) × List Bytes) := do
  let (empties, args) := if args.head? = some dash then (true, args.tail) else (c.empties, args)
  let (c, env) ←
    if empties then pure (c.note (ascii "cleaning environ"), [])
    else
      c.unsets.foldlM (fun (c, env) name =>
        let c := c.note (ascii "unset:    " ++ name)
        if name.isEmpty || name.contains 61 then
          c.giveUp <| halt inv (ascii "cannot unset " ++ quoted name ++ ascii ": Invalid argument")
            envFailure
        else
          pure (c, env.filter fun (k, _) => k ≠ name))
        (c, inv.env)
  return bindAll c env args
where
  /-- Reads the bindings in front of a command. -/
  bindAll (c : EnvCall) (env : List (Bytes × Bytes)) :
      List Bytes → EnvCall × List (Bytes × Bytes) × List Bytes
    | [] => (c, env, [])
    | a :: rest =>
      match splitEntry? a with
      | some (name, value) =>
        bindAll (c.note (ascii "setenv:   " ++ a)) (bindEntry env name value) rest
      | none => (c, env, a :: rest)

/-- What a call of `env` comes to. -/
inductive EnvPlan where
  | list (notes out : Bytes)
  /-- A program is started in a process in which some signals do nothing, and some are held up. -/
  | start (notes program : Bytes) (inv : Invocation) (deaf held : List Nat)

/-- A process in which signals do what was asked for, with notes about the changes. -/
def EnvCall.adjust (c : EnvCall) (inv : Invocation) (p : Process) :
    Except Halt (EnvCall × Process) := do
  let name (n : Nat) : String := (Signal.name? n).getD (toString n)
  let rules := c.rules.mergeSort fun a b => a.signal ≤ b.signal
  let (c, p) ← rules.foldlM (fun (c, p) r => do
    if r.signal = 9 || r.signal = 19 then
      throw <| .complaint (c.notes ++ complain inv (ascii "failed to set signal action for signal "
        ++ decimal r.signal ++ ascii ": Invalid argument")) envFailure
    let others := p.deaf.filter (· ≠ r.signal)
    let note := "Reset signal " ++ name r.signal ++ " (" ++ toString r.signal ++ ") to "
      ++ (if r.usual then "DEFAULT" else "IGNORE")
    return (c.note (ascii note),
      { p with deaf := if r.usual then others else others ++ [r.signal] })) (c, p)
  let (held, free) := c.holding.getD ([], [])
  let changed := ((List.range Signal.greatest).map (· + 1)).filter fun n =>
    held.contains n || free.contains n
  let c := changed.foldl (fun c n => c.note <| ascii <|
    "signal " ++ name n ++ " (" ++ toString n ++ ") mask set to "
      ++ (if held.contains n then "BLOCK" else "UNBLOCK")) c
  return (c, { p with held := p.held.filter (fun n => !free.contains n && !held.contains n) ++ held })

/-- The signals that do not do what they usually do in a process. -/
def signalReport (p : Process) : Bytes :=
  ((List.range Signal.greatest).map (· + 1)).flatMap fun n =>
    let held := p.held.contains n
    let deaf := p.deaf.contains n
    if !held && !deaf then []
    else
      padRight 10 (ascii ((Signal.name? n).getD (toString n))) ++ ascii " ("
        ++ padLeft 2 (decimal n) ++ ascii "): "
        ++ ascii ((if held then "BLOCK" else "") ++ (if held && deaf then "," else "")
          ++ (if deaf then "IGNORE" else "")) ++ [Text.lineFeed]

/-- What a call of `env` in a process comes to, if it is not wrong. -/
def EnvPlan.of (inv : Invocation) (t : FileTree) (process : Process) : Except Halt EnvPlan := do
  let steps := inv.args.length + total (inv.args.map List.length)
  let (c, args) ← EnvCall.read inv steps {} inv.args
  let (c, entries, command) ← c.apply inv args
  if c.zeroEnded && !command.isEmpty then
    c.giveUp (misuse inv (ascii "cannot specify --null (-0) with command") envFailure)
  else if c.folder.isSome && command.isEmpty then
    c.giveUp (misuse inv (ascii "must specify command with --chdir (-C)") envFailure)
  else
    let (c, adjusted) ← if command.isEmpty then pure (c, process) else c.adjust inv process
    let c := if c.listsSignals && !command.isEmpty
      then { c with notes := c.notes ++ signalReport adjusted } else c
    let (c, cwd) ← match c.folder with
      | none => pure (c, inv.cwd)
      | some path =>
        let c := c.note (ascii "chdir:    " ++ quotedName path)
        match t.findDirectory inv.cwd path with
        | .ok l => pure (c, l)
        | .error e =>
          c.giveUp <| halt inv (ascii "cannot change directory to " ++ quotedName path
            ++ ascii ": " ++ ascii e.text) envFailure
    match command with
    | [] =>
      let ending : UInt8 := if c.zeroEnded then 0 else Text.lineFeed
      return .list c.notes (entries.flatMap fun (k, v) => k ++ ascii "=" ++ v ++ [ending])
    | name :: args =>
      let c := c.note (ascii "executing: " ++ name)
      let c := (name :: args).zipIdx.foldl (fun c (a, k) =>
        c.note (ascii s!"   arg[{k}]= " ++ quoted a)) c
      let searchPath := (entries.lookup (ascii "PATH")).getD defaultSearchPath
      match findProgram t cwd searchPath name with
      | .ok program =>
        return .start c.notes program { inv with title := name, args, env := entries, cwd }
          adjusted.deaf adjusted.held
      | .error e =>
        let advice := if e = .noEntry && name.contains 32 then
          complain inv (ascii "use -[v]S to pass options in shebang lines") else []
        throw <| .complaint
          (c.notes ++ complain inv (quoted name ++ ascii ": " ++ ascii e.text) ++ advice)
          (if e = .noEntry then 127 else 126)

/-- Lists the environment, or starts a program in a changed one. -/
def env (launch : Launcher) (inv : Invocation) (number : Nat) : Thread := .look fun s =>
  let g : Engagement := ⟨ascii "env", inv, number⟩
  match EnvPlan.of inv s.files ((s.process? number).getD { number, parent := 0 }) with
  | .error h => g.giveUp Manual.env h
  | .ok (.list notes out) => g.finish [.err notes, .out out] out.length (fun _ => none) 0 false
  | .ok (.start notes program inv deaf held) =>
    emit number 2 notes fun _ =>
      .change (fun s => ((s.onProcess number fun p => { p with deaf }).hold number held).beginProgram
          number)
        (launch program inv number)

end Relay.Userland
