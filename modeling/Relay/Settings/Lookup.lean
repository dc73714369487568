import Relay.Files.Store
import Relay.Settings.Basic
import Relay.Toml.Document

/-!
# Finding settings

Settings come from a TOML file: the one that is asked for, which must exist, or else the user's
own, which need not.  Keys without a meaning are skipped; a key with a meaning must hold a value of
its kind.
-/

namespace Relay

/-! ## Settings in a document -/

namespace Settings

open Toml

/-- The variables that a table of strings binds. -/
def bindingsOf (es : Entries) : Option Bindings :=
  es.mapM fun (name, node) =>
    match node with
    | .string value => some (name, value)
    | _ => none

/-- A value that the document may leave out. -/
def get {α : Type} (es : Entries) (key : String) (default : α) (read : Node → Option α) :
    Option α :=
  match es.lookup key.toList with
  | none => some default
  | some node => read node

/-- The name under which a date and time appears as a table of its own. -/
def dateTimeKey : Text := "$__toml_private_datetime".toList

/-- The variables that a value binds: those of a table of strings, or a date and time under the name
that stands for it. -/
def variablesOf : Node → Option Bindings
  | .table _ inner => bindingsOf inner
  | .inlineTable _ inner => bindingsOf inner
  | .dateTime d => some [(dateTimeKey, d.render)]
  | _ => none

def ofDocument? (es : Entries) : Option Settings := do
  let cwd ← get es "cwd" none fun
    | .string t => some (some t)
    | _ => none
  let env ← get es "env" [] variablesOf
  let clearEnv ← get es "clear_env" false fun
    | .boolean b => some b
    | _ => none
  let eventCapacity ← get es "event_capacity" ({} : Settings).eventCapacity fun
    | .integer n => if 0 ≤ n then some n.toNat else none
    | _ => none
  return { cwd, env, clearEnv, eventCapacity }

def ofToml? (t : Text) : Option Settings := (Toml.parse t).bind ofDocument?

end Settings

/-! ## Where settings are looked for -/

/-- Why no settings were found. -/
inductive SettingsError where
  /-- The file that was asked for does not exist. -/
  | missing (path : Text)
  /-- The file cannot be read. -/
  | unreadable (path : Text) (cause : IoError)
  /-- The file holds no settings. -/
  | invalid (path : Text)
  deriving DecidableEq, Repr

namespace SettingsError

def message : SettingsError → String
  | .missing path => s!"config file {String.ofList path} does not exist"
  | .unreadable path _ => s!"cannot read {String.ofList path}"
  | .invalid path => s!"invalid config in {String.ofList path}"

def causes : SettingsError → List String
  | .unreadable _ cause => [cause.message]
  | _ => []

end SettingsError

namespace Settings

/-- Reads settings from a file; answers nothing if there is no such file. -/
def readFile (h : Host) (path : Text) : Except SettingsError (Option Settings) :=
  match h.readText path with
  | .error (.os ⟨2⟩) => .ok none
  | .error cause => .error (.unreadable path cause)
  | .ok content =>
    match ofToml? content with
    | some s => .ok (some s)
    | none => .error (.invalid path)

/-- The directory that holds the user's settings of all programs. -/
def userDirectory? (h : Host) : Option Text :=
  match h.envValue? "XDG_CONFIG_HOME".toList with
  | some ('/' :: rest) => some ('/' :: rest)
  | _ =>
    match h.envValue? "HOME".toList with
    | some (c :: rest) => some (Path.child (c :: rest) ".config".toList)
    | _ => none

/-- The file that holds the user's settings of this program. -/
def userPath? (h : Host) : Option Text :=
  (userDirectory? h).map fun d =>
    Path.child (Path.child d "chainsh".toList) "config.toml".toList

/-- The settings for a run: from the file that is asked for, or from the user's file, or the
defaults. -/
def resolve (h : Host) : Option Text → Except SettingsError Settings
  | some path => do
    match ← readFile h path with
    | some s => return s
    | none => throw (.missing path)
  | none =>
    match userPath? h with
    | none => .ok {}
    | some path => do
      match ← readFile h path with
      | some s => return s
      | none => return {}

end Settings

end Relay
