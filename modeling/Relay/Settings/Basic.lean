import Relay.Text.Basic

/-!
# Settings

What a run tells every program it starts: where it runs and which environment it gets.  Settings
are built up from the defaults.
-/

namespace Relay

/-- Named values; a name is bound at most once, and the order does not matter. -/
abbrev Bindings := List (Text × Text)

/-- Binds a name, in place of what it was bound to. -/
def Bindings.bind (b : Bindings) (name value : Text) : Bindings :=
  b.filter (·.1 ≠ name) ++ [(name, value)]

/-- Settings for every program of a run. -/
structure Settings where
  /-- The programs' working directory; `none` is the caller's. -/
  cwd : Option Text := none
  /-- Extra environment variables. -/
  env : Bindings := []
  /-- Programs get no variables but the extra ones. -/
  clearEnv : Bool := false
  /-- How many events are kept for a receiver that does not keep up. -/
  eventCapacity : Nat := 64
  deriving DecidableEq, Repr

namespace Settings

/-- Runs programs in a directory. -/
def withCwd (s : Settings) (cwd : Text) : Settings := { s with cwd := some cwd }

/-- Adds an environment variable. -/
def withEnv (s : Settings) (name value : Text) : Settings := { s with env := s.env.bind name value }

/-- Starts programs without the caller's environment, or with it. -/
def withClearEnv (s : Settings) (clear : Bool) : Settings := { s with clearEnv := clear }

end Settings

end Relay
