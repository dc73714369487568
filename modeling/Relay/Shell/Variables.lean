import Relay.Shell.State

/-!
# Variables of a shell

Variables can be set, marked and forgotten.  A mark exports a variable or fixes its value; a fixed
variable is neither set nor forgotten.  The module also holds what the commands for variables share:
reading option letters, and quoting values in lists.
-/

namespace Relay.Shell

open Userland

/-- Characters between apostrophes; runs of apostrophes stand between quotation marks instead.  At
most `n` runs of either kind are read. -/
def quoteRuns : Nat → List Char → List Char
  | 0, _ => []
  | n + 1, cs =>
    let plain := cs.takeWhile (· != '\'')
    let rest := cs.drop plain.length
    let marks := rest.takeWhile (· == '\'')
    let rest := rest.drop marks.length
    ['\''] ++ plain ++ ['\''] ++ (if marks.isEmpty then [] else ['"'] ++ marks ++ ['"'])
      ++ (if rest.isEmpty then [] else quoteRuns n rest)

/-- A text in quotes, as lists of values show it. -/
def singleQuoted (text : Bytes) : Bytes := octets (quoteRuns (text.length + 1) (chars text))

/-- Splits an argument at its first equals sign. -/
def splitBinding (a : Bytes) : Bytes × Option Bytes :=
  let name := a.takeWhile (· != 61)
  (name, if name.length < a.length then some (a.drop (name.length + 1)) else none)

/-- The variables that a shell has from its start and never loses. -/
def ownVariables : List Variable :=
  [("IFS", some " \t\n"), ("MAIL", none), ("MAILPATH", none),
    ("PATH", some "/usr/local/sbin:/usr/local/bin:/usr/sbin:/usr/bin:/sbin:/bin"),
    ("PS1", some "# "), ("PS2", some "> "), ("PS4", some "+ "), ("OPTIND", some "1")].map
    fun (name, value) => { name := ascii name, value := value.map ascii }

/-- How many lists the shell keeps its variables in. -/
def bucketCount : Nat := 39

/-- The list that a name is kept in, of some number of lists. -/
def bucket (count : Nat) (name : Bytes) : Nat :=
  ((name.headD 0).toNat * 16 + total (name.map UInt8.toNat)) % count

namespace Job

/-! ## Single variables -/

def bindingOf? (name : Bytes) : Job (Option Variable) := do
  return (← state).bindings.find? (·.name = name)

def valueOf? (name : Bytes) : Job (Option Bytes) := do
  return (← bindingOf? name).bind (·.value)

/-- Refuses a text that is no name. -/
def requireName (name : Bytes) : Job Unit := do
  if !isName (chars name) then fault (name ++ ascii ": bad variable name")

/-- Changes a variable, which is made if there is none. -/
def alter (name : Bytes) (f : Variable → Variable) : Job Unit := change fun s =>
  if s.bindings.any (·.name = name) then
    { s with bindings := s.bindings.map fun v => if v.name = name then f v else v }
  else { s with bindings := s.bindings ++ [f { name }] }

/-- Does what follows from a new value of a variable that means something to the shell. -/
def heed (name value : Bytes) : Job Unit := do
  if name = ascii "OPTIND" then
    match natOf? value with
    | some n => change fun s => { s with optionPlace := (max 1 n, none) }
    | none => fault (ascii "Illegal number: " ++ value)
  if name = ascii "PATH" then
    change fun s => { s with remembered := [] }

/-- Sets a variable, which keeps its marks; its name ends before an equals sign. -/
def assign (name value : Bytes) : Job Unit := do
  let name := (splitBinding name).1
  requireName name
  if (← bindingOf? name).any (·.fixed) then fault (name ++ ascii ": is read only")
  heed name value
  let exporting := (← state).switches.has "allexport"
  alter name fun v => { v with value := some value, exported := v.exported || exporting }

def exportVariable (name : Bytes) : Job Unit := alter name fun v => { v with exported := true }

/-- Forgets a variable, whose name ends before an equals sign; those that the shell has from its
start only lose their value. -/
def unset (name : Bytes) : Job Unit := do
  let name := (splitBinding name).1
  requireName name
  if (← bindingOf? name).any (·.fixed) then fault (name ++ ascii ": is read only")
  if name = ascii "OPTIND" then fault (ascii "Illegal number: ")
  if ownVariables.any (·.name = name) then alter name fun v => { v with value := none }
  else change fun s => { s with bindings := s.bindings.filter (·.name ≠ name) }

/-- The environment that programs get: the exported variables, list after list. -/
def environment : Job (List (Bytes × Bytes)) := do
  let ordered := (← state).bindings.mergeSort fun a b =>
    bucket bucketCount a.name ≤ bucket bucketCount b.name
  return ordered.filterMap fun v => if v.exported then v.value.map (v.name, ·) else none

/-! ## What commands for variables share -/

/-- Complains and sets a code. -/
def object (message : Bytes) (code : Nat) : Job Unit := do
  complain message
  setStatus code

/-- Prints for the command of the shell at work; a print that is not taken makes it fail. -/
def print (b : Bytes) : Job Unit := do
  if (← write 1 b).isNone then setStatus 0
  else object ((← state).context ++ ascii ": I/O error") 1

/-- The letters that are known from a letter on.  A colon behind a letter is no letter. -/
def lettersFrom (c : Char) : List Char → List Char
  | [] => []
  | d :: ':' :: rest => if d == c then d :: ':' :: rest else lettersFrom c rest
  | d :: rest => if d == c then d :: rest else lettersFrom c rest

/-- Reads the letters of one argument that holds options.  A colon in `known` marks letters that
take an argument: the rest of their own or the next one. -/
def takeLetters (known : List Char) : List Bytes → List Char →
    Job (List (Char × Bytes) × List Bytes)
  | rest, [] => return ([], rest)
  | rest, c :: cs => do
    match lettersFrom c known with
    | [] => fault (ascii "Illegal option -" ++ octets [c])
    | _ :: ':' :: _ =>
      match cs, rest with
      | [], [] => fault (ascii "No arg for -" ++ octets [c] ++ ascii " option")
      | [], a :: rest => return ([(c, a)], rest)
      | _, _ => return ([(c, octets cs)], rest)
    | _ =>
      let (options, rest) ← takeLetters known rest cs
      return ((c, []) :: options, rest)

/-- Reads options from the start of arguments, of which at most `n` are read. -/
def takeOptionsWithin (known : List Char) : Nat → List Bytes →
    Job (List (Char × Bytes) × List Bytes)
  | 0, args => return ([], args)
  | _, [] => return ([], [])
  | n + 1, a :: rest => do
    match chars a with
    | ['-', '-'] => return ([], rest)
    | '-' :: c :: cs =>
      let (options, rest) ← takeLetters known rest (c :: cs)
      let (more, rest) ← takeOptionsWithin known n rest
      return (options ++ more, rest)
    | _ => return ([], a :: rest)

/-- Reads options from the start of arguments: letters, each with its argument if it has one, and
the arguments that are left. -/
def takeOptions (known : String) (args : List Bytes) : Job (List (Char × Bytes) × List Bytes) :=
  takeOptionsWithin known.toList args.length args

/-- Prints variables in the order of their names, each behind some text. -/
def listVariables (lead : String) (chosen : Variable → Bool) : Job Unit := do
  let all := (← state).bindings.filter chosen
  let ordered := all.mergeSort fun a b => FileTree.nameBefore a.name b.name
  print <| unlines <| ordered.map fun v =>
    ascii lead ++ v.name ++ (v.value.map fun b => ascii "=" ++ singleQuoted b).getD []

/-! ## Commands for variables -/

/-- Marks variables, which it may set. -/
def markAll (f : Variable → Variable) : List Bytes → Job Unit
  | [] => setStatus 0
  | a :: rest => do
    let (name, value) := splitBinding a
    match value with
    | some b => assign name b
    | none => if (← bindingOf? name).isNone then requireName name
    alter name f
    markAll f rest

/-- Marks variables, or lists those that are marked. -/
def mark (lead : String) (f : Variable → Variable) (chosen : Variable → Bool)
    (args : List Bytes) : Job Unit := do
  let (options, names) ← takeOptions "p" args
  if options.isEmpty && !names.isEmpty then markAll f names else listVariables lead chosen

def exportAll : List Bytes → Job Unit :=
  mark "export " (fun v => { v with exported := true }) (·.exported)

/-- Fixes variables. -/
def fixAll : List Bytes → Job Unit :=
  mark "readonly " (fun v => { v with fixed := true }) (·.fixed)

/-- Forgets variables or functions. -/
def unsetAll (args : List Bytes) : Job Unit := do
  let (options, names) ← takeOptions "vf" args
  if (options.getLast?.map (·.1)) = some 'f' then
    change fun s => { s with functions := s.functions.filter fun f => !names.contains f.1 }
  else forget names
  setStatus 0
where
  forget : List Bytes → Job Unit
    | [] => return ()
    | name :: rest => do
      unset name
      forget rest

/-- Hides variables until the end of a function and sets them; a dash stands for the switches.  That
what gets a value is no name shows only when the function ends. -/
def hide (args : List Bytes) : Job Unit := do
  if (← state).hidden.isEmpty then fault (ascii "not in a function")
  hideEach args
where
  /-- Hides variables within a function. -/
  hideEach : List Bytes → Job Unit
    | [] => setStatus 0
    | a :: rest => do
      match (← state).hidden with
      | [] => return ()
      | (frame, switches) :: outer =>
        if a = dash then
          change fun s => { s with hidden := (frame, some (switches.getD s.switches)) :: outer }
        else
          let (name, value) := splitBinding a
          let old ← bindingOf? name
          match value with
          | some b => if isName (chars name) then assign name b
          | none => requireName name
          change fun s => { s with hidden := ((name, old) :: frame, switches) :: outer }
      hideEach rest

/-! ## Options of a script -/

/-- The outcome of looking for an option: its letter, the value that belongs to it, a complaint, and
the place to go on from; no letter is found at the end of the options. -/
structure OptionFound where
  letter : Option Char
  value : Option Bytes := none
  note : Bytes := []
  place : Nat × Option Nat

/-- Looks for the next option in some words.  The letters that are known come with a colon if they
take a value, and behind a first colon if nothing is to be said about mistakes. -/
def findOption (known : List Char) (words : List Bytes) (place : Nat × Option Nat) : OptionFound :=
  let (index, offset) := place
  let opened := match offset with
    | some k => if 2 ≤ index then (chars (words.getD (index - 2) [])).drop k else []
    | none => []
  let start : Option (Nat × List Char) :=
    if !opened.isEmpty then some (index, opened)
    else
      match words[index - 1]?.map chars with
      | some ['-', '-'] => some (index + 1, [])
      | some ('-' :: c :: cs) => some (index + 1, c :: cs)
      | _ => none
  let quiet := known.head? = some ':'
  match start with
  | none => { letter := none, place := (index, none) }
  | some (index, []) => { letter := none, place := (index, none) }
  | some (index, c :: cs) =>
    let length := (words.getD (index - 2) []).length
    let rest := (index, some (length - cs.length))
    match lettersFrom c known with
    | [] =>
      if quiet then { letter := some '?', value := some (octets [c]), place := rest }
      else { letter := some '?', note := ascii "Illegal option -" ++ octets [c], place := rest }
    | _ :: ':' :: _ =>
      if !cs.isEmpty then { letter := some c, value := some (octets cs), place := (index, none) }
      else
        match words[index - 1]? with
        | some a => { letter := some c, value := some a, place := (index + 1, none) }
        | none =>
          if quiet then { letter := some ':', value := some (octets [c]), place := (index, none) }
          else
            { letter := some '?', place := (index, none)
              note := ascii "No arg for -" ++ octets [c] ++ ascii " option" }
    | _ => { letter := some c, value := some [], place := rest }

/-- Binds the next option of a script, or of some words, to a variable. -/
def nextOption (args : List Bytes) : Job Unit := do
  let (_, args) ← takeOptions "" args
  match args with
  | known :: name :: words =>
    let s ← state
    let words := if words.isEmpty then s.parameters else words
    let place := if words.length + 1 < s.optionPlace.1 then (1, none) else s.optionPlace
    let found := findOption (chars known) words place
    if !found.note.isEmpty then let _ ← write 2 (found.note ++ [Text.lineFeed])
    match found.letter, found.value with
    | some _, some b => assign (ascii "OPTARG") b
    | some _, none => unset (ascii "OPTARG")
    | none, _ => pure ()
    alter (ascii "OPTIND") fun v => { v with value := some (decimal found.place.1) }
    assign name (octets [found.letter.getD '?'])
    change fun s => { s with optionPlace := found.place }
    setStatus (if found.letter.isSome then 0 else 1)
  | _ => fault (ascii "Usage: getopts optstring var [arg...]")

end Job

end Relay.Shell
