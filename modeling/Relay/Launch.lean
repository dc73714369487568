import Relay.Files.Store
import Relay.Settings.Basic
import Relay.Userland.Programs

/-!
# Launching a stage's program

From a call, its input lines and the settings to an `Execution`, or to the reason why the program
cannot be started.  A NUL character anywhere in the call is noticed first, then a working directory
that cannot be entered, then a program that cannot be found; the program is looked for in the search
path of its own environment, seen from its own working directory.
-/

namespace Relay.Launch

open Userland

def holdsNul (t : Text) : Bool := t.contains (Char.ofNat 0)

def entryBefore (a b : Text × Text) : Bool :=
  FileTree.nameBefore (Text.utf8 a.1) (Text.utf8 b.1)

/-- The environment of a run's programs: the caller's and the extra variables.  As soon as it
differs from the caller's it is sorted by name. -/
def bindings (h : Host) (s : Settings) : List (Text × Text) :=
  if s.env.isEmpty && !s.clearEnv then h.env
  else
    let inherited := if s.clearEnv then [] else h.env
    let kept := inherited.filter fun (k, _) => s.env.all fun (k', _) => k ≠ k'
    (kept ++ s.env).mergeSort entryBefore

/-- An entry as a program sees it: its name ends at the first equals sign that is not its first
character. -/
def entryOf (binding : Text × Text) : Bytes × Bytes :=
  let whole := Text.utf8 binding.1 ++ 61 :: Text.utf8 binding.2
  let name := whole.take 1 ++ (whole.drop 1).takeWhile (· != 61)
  if binding.1.isEmpty then ([], Text.utf8 binding.2)
  else (name, whole.drop (name.length + 1))

/-- What a program reads: its input lines, or nothing from the start if there are none. -/
def content (input : List Text) : Option Bytes :=
  if input.isEmpty then none else some (Text.encodeLines input)

def start (h : Host) (s : Settings) (program : Text) (args : List Text) (input : List Text) :
    Except IoError Execution := do
  let env := bindings h s
  if holdsNul program || args.any holdsNul || (s.cwd.map holdsNul).getD false
      || env.any fun (k, v) => holdsNul k || holdsNul v then
    throw .nulInArgument
  let cwd ← match s.cwd with
    | none => pure h.cwd
    | some folder => (h.files.findDirectory h.cwd (Text.utf8 folder)).mapError .os
  let entries := env.map entryOf
  let searchPath := (entries.lookup (ascii "PATH")).getD defaultSearchPath
  let title := Text.utf8 program
  let name ← (findProgram h.files cwd searchPath title).mapError .os
  let inv : Invocation := { title, args := args.map Text.utf8, env := entries, cwd }
  let machine :=
    Machine.boot h.files (content input) (execute depthLimit name inv Machine.mainNumber)
  return machine.execution Machine.sliceLimit

end Relay.Launch
