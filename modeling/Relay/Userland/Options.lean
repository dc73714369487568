import Relay.Userland.Halt

/-!
# Options

The options of a call are read by a table of rules.  An option is a letter after a dash, several of
which may share the dash, or a name after two dashes, of which a beginning is enough if it is the
beginning of one option only.  A value follows a letter in the same argument or is the next
argument; it follows a name after an equals sign or is the next argument.

`readCall` hands every option to its tool as soon as it is read, so that of two mistakes in a call
the first one is complained about, and a tool that is asked for help gives up at once.
-/

namespace Relay.Userland

/-- Whether an option comes with a value. -/
inductive ValueRule where
  | never
  | always
  /-- A value must be part of the argument that holds the option. -/
  | maybe
  deriving DecidableEq

/-- An option: the key under which it is known, the letters and names that give it, and whether a
value belongs to it. -/
structure OptionRule where
  key : String
  letters : List Char := []
  names : List String := []
  value : ValueRule := .never

/-- An option without a value, given by a letter and by names. -/
def plainOption (letter : Char) (names : List String) : OptionRule :=
  { key := letter.toString, letters := [letter], names }

/-- An option with a value, given by a letter and by names. -/
def valueOption (letter : Char) (names : List String) : OptionRule :=
  { key := letter.toString, letters := [letter], names, value := .always }

def namedOption (name : String) (value : ValueRule) : OptionRule :=
  { key := name, names := [name], value }

/-- Options without names or values, given by letters. -/
def letterOptions (letters : String) : List OptionRule := letters.toList.map (plainOption · [])

/-- The options that ask a program for texts about itself. -/
def selfDescription : List OptionRule := [namedOption "help" .never, namedOption "version" .never]

/-- An option as it was given. -/
structure Flag where
  key : String
  value : Option Bytes := none
  /-- The argument that holds it, if it was given by a name. -/
  argument : Bytes := []

/-- The value of an option that always has one. -/
def Flag.text (f : Flag) : Bytes := f.value.getD []

inductive OptionError where
  | unknown (letter : Char)
  | lacksValue (letter : Char)
  | unknownName (argument : Bytes)
  | nameLacksValue (name : String)
  | nameTakesNoValue (name : String)
  | ambiguous (argument : Bytes) (names : List String)

def OptionError.message : OptionError → Bytes
  | .unknown c => ascii "invalid option -- '" ++ octets [c] ++ ascii "'"
  | .lacksValue c => ascii "option requires an argument -- '" ++ octets [c] ++ ascii "'"
  | .unknownName a => ascii "unrecognized option '" ++ a ++ ascii "'"
  | .nameLacksValue name => ascii s!"option '--{name}' requires an argument"
  | .nameTakesNoValue name => ascii s!"option '--{name}' doesn't allow an argument"
  | .ambiguous a names =>
    ascii "option '" ++ a ++ ascii "' is ambiguous; possibilities:"
      ++ names.flatMap fun name => ascii s!" '--{name}'"

/-- The options that an argument holds, up to a mistake in it if there is one, and the arguments that
are left. -/
structure Reading where
  flags : List Flag
  rest : Except OptionError (List Bytes)

/-- Reads the letters of one argument, and perhaps a value from the arguments behind it. -/
def readLetters (rules : List OptionRule) (rest : List Bytes) : List Char → Reading
  | [] => { flags := [], rest := .ok rest }
  | c :: cs =>
    match rules.find? fun r => r.letters.contains c with
    | none => { flags := [], rest := .error (.unknown c) }
    | some r =>
      match r.value, cs, rest with
      | .never, _, _ =>
        let more := readLetters rules rest cs
        { more with flags := { key := r.key } :: more.flags }
      | .maybe, [], _ => { flags := [{ key := r.key }], rest := .ok rest }
      | .always, [], [] => { flags := [], rest := .error (.lacksValue c) }
      | .always, [], v :: rest => { flags := [{ key := r.key, value := some v }], rest := .ok rest }
      | _, _ :: _, _ => { flags := [{ key := r.key, value := some (octets cs) }], rest := .ok rest }

/-- The option that a name or the beginning of a name stands for. -/
def optionNamed (rules : List OptionRule) (argument name : Bytes) :
    Except OptionError (String × OptionRule) :=
  let text := String.ofList (chars name)
  let all := rules.flatMap fun r => r.names.map fun n => (n, r)
  match all.find? fun (n, _) => n = text with
  | some found => .ok found
  | none =>
    match all.filter fun (n, _) => text.toList.isPrefixOf n.toList with
    | [] => .error (.unknownName argument)
    | (n, r) :: others =>
      if others.all fun (_, r') => r'.key = r.key then .ok (n, r)
      else
        .error (.ambiguous argument (n :: (others.filter fun (_, r') => r'.key ≠ r.key).map (·.1)))

/-- Reads an argument that starts with two dashes; answers the option and the arguments that are
left. -/
def readNamed (rules : List OptionRule) (rest : List Bytes) (argument : Bytes) :
    Except OptionError (Flag × List Bytes) := do
  let name := (argument.drop 2).takeWhile (· != 61)
  let value := if name.length + 2 < argument.length
    then some (argument.drop (name.length + 3)) else none
  let (full, r) ← optionNamed rules (ascii "--" ++ name) name |>.mapError fun e =>
    match e with
    | .ambiguous _ names => .ambiguous argument names
    | .unknownName _ => .unknownName argument
    | e => e
  match r.value, value, rest with
  | .never, some _, _ => throw (.nameTakesNoValue full)
  | .always, none, [] => throw (.nameLacksValue full)
  | .always, none, v :: rest => return ({ key := r.key, value := some v, argument }, rest)
  | _, _, _ => return ({ key := r.key, value, argument }, rest)

/-- Reads an argument that starts with two dashes. -/
def readName (rules : List OptionRule) (rest : List Bytes) (argument : Bytes) : Reading :=
  match readNamed rules rest argument with
  | .error e => { flags := [], rest := .error e }
  | .ok (flag, rest) => { flags := [flag], rest := .ok rest }

/-- Options may stand between operands: no argument ends them. -/
def anywhere : Bytes → Bool := fun _ => false

/-- Options come before all operands: the first operand ends them. -/
def inFront (a : Bytes) : Bool := a.head? != some 45 || a = dash

/-- Takes an option into account, unless it asks for a text about the program. -/
def answerFlag {σ : Type} (take : σ → Flag → Except Halt σ) (s : σ) (f : Flag) : Except Halt σ :=
  match f.key with
  | "help" => .error .help
  | "version" => .error .version
  | _ => take s f

/-- Reads the options of a call.  They end at two dashes, or at an argument that `ends` names;
before that operands may stand between them, unless the call is to follow the standard.  Every
option is handed to `take`, and every such operand with the arguments behind it to `special`, which
may take it, and some of those, into account; the answer is what they made of them all, with the
other operands.  An option that is not known is complained about, with an exit code for wrong calls;
`owe` adds to a reason for giving up what was done before. -/
def readMixedCall {σ : Type} (rules : List OptionRule) (ends : Bytes → Bool) (code : Nat)
    (special : σ → Bytes → List Bytes → Option (Except Halt (σ × List Bytes)))
    (owe : σ → Halt → Halt) (take : σ → Flag → Except Halt σ) (start : σ) (inv : Invocation) :
    Except Halt (σ × List Bytes) :=
  go inv.args.length inv.args start []
where
  /-- Gives up after what was done before. -/
  giveUp {α : Type} (s : σ) (answer : Except Halt α) : Except Halt α := answer.mapError (owe s)
  /-- Reads at most `n` arguments. -/
  go : Nat → List Bytes → σ → List Bytes → Except Halt (σ × List Bytes)
    | 0, rest, s, operands => .ok (s, operands ++ rest)
    | _, [], s, operands => .ok (s, operands)
    | n + 1, a :: rest, s, operands =>
      let follow (r : Reading) : Except Halt (σ × List Bytes) := do
        let s ← r.flags.foldlM (fun s f => giveUp s (answerFlag take s f)) s
        match r.rest with
        | .error e => giveUp s (misuse inv e.message code)
        | .ok rest => go n rest s operands
      match chars a, ends a || followsStandard inv && inFront a with
      | _, true => .ok (s, operands ++ a :: rest)
      | ['-', '-'], _ => .ok (s, operands ++ rest)
      | '-' :: '-' :: _, _ => follow (readName rules rest a)
      | '-' :: c :: cs, _ => follow (readLetters rules rest (c :: cs))
      | _, _ =>
        match special s a rest with
        | none => go n rest s (operands ++ [a])
        | some taken => do
          let (s, rest) ← giveUp s taken
          go n rest s operands

/-- Reads the options of a call, none of whose operands are special. -/
def readCallAloud {σ : Type} (rules : List OptionRule) (ends : Bytes → Bool) (code : Nat)
    (owe : σ → Halt → Halt) (take : σ → Flag → Except Halt σ) (start : σ) (inv : Invocation) :
    Except Halt (σ × List Bytes) :=
  readMixedCall rules ends code (fun _ _ _ => none) owe take start inv

/-- Reads the options of a call, none of which is complained about unless the call is given up. -/
def readCall {σ : Type} (rules : List OptionRule) (ends : Bytes → Bool) (code : Nat)
    (take : σ → Flag → Except Halt σ) (start : σ) (inv : Invocation) :
    Except Halt (σ × List Bytes) :=
  readCallAloud rules ends code (fun _ h => h) take start inv

/-! ## Values from a choice -/

/-- What a word chooses; a beginning of a word is enough if it is the beginning of words for one
value only.  If nothing is chosen the answer tells whether several values could be meant. -/
def chosen {α : Type} (choices : List (List String × α)) (text : Bytes) : Except Bool α :=
  let word := chars text
  match choices.find? fun (names, _) => names.any fun n => n.toList = word with
  | some (_, a) => .ok a
  | none =>
    match choices.filter fun (names, _) => names.any fun n => word.isPrefixOf n.toList with
    | [(_, a)] => .ok a
    | others => .error !others.isEmpty

/-- Reads a value that is chosen by a word.  The words for a value stand together. -/
def readChoice {α : Type} (inv : Invocation) (option : String) (choices : List (List String × α))
    (code : Nat) (text : Bytes) : Except Halt α :=
  match chosen choices text with
  | .ok a => .ok a
  | .error several =>
    let what := if several then "ambiguous" else "invalid"
    let listed := choices.flatMap fun (names, _) =>
      ascii "  - " ++ ascii (", ".intercalate (names.map fun n => s!"'{n}'")) ++ ascii "\n"
    .error <| .complaint (complain inv (ascii what ++ ascii " argument " ++ quoted text
      ++ ascii s!" for '{option}'") ++ ascii "Valid arguments are:\n" ++ listed ++ hint inv) code

/-! ## Sets of options -/

/-- The options of a call in the order in which they were given. -/
abbrev Flags := List Flag

/-- Whether an option was given. -/
def Flags.has (o : Flags) (key : String) : Bool := o.any (·.key = key)

def Flags.value? (o : Flags) (key : String) : Option Bytes :=
  (o.reverse.find? (·.key = key)).bind (·.value)

/-- Reads the options before the operands of a call without looking at their values. -/
def readFlagsInFront (rules : List OptionRule) (code : Nat) (inv : Invocation) :
    Except Halt (Flags × List Bytes) :=
  readCall rules inFront code (fun o f => .ok (o ++ [f])) [] inv

/-- Reads the options of a call without looking at their values. -/
def readFlags (rules : List OptionRule) (code : Nat) (inv : Invocation) :
    Except Halt (Flags × List Bytes) :=
  readCall rules anywhere code (fun o f => .ok (o ++ [f])) [] inv

end Relay.Userland
