import Relay.Files.Tree

/-!
# Where redirect files live

Redirects need three operations: opening a target, writing to an open file and closing it.
`FileStore` names them, so that sinks, tasks and runs can be studied over any store, one that fails
at will included.  `Host` is the store of this library: a file tree seen from a working directory,
together with the environment.
-/

namespace Relay

/-- A place that holds redirect files. -/
class FileStore (ω : Type) where
  /-- Opens a target; answers its descriptor. -/
  openTarget : ω → Text → OpenMode → Except IoError (Nat × ω)
  write : ω → Nat → Bytes → Except IoError Unit × ω
  /-- Closes an open file. -/
  close : ω → Nat → ω

/-- The surroundings of a run: all files, the working directory and the environment. -/
structure Host where
  files : FileTree := {}
  cwd : Location := []
  env : List (Text × Text) := []
  deriving Repr

namespace Host

/-- The value of an environment variable. -/
def envValue? (h : Host) (name : Text) : Option Text := h.env.lookup name

/-- Opens a redirect target, seen from the working directory. -/
def openTarget (h : Host) (target : Text) (mode : OpenMode) : Except IoError (Nat × Host) := do
  let path ← Path.ofText target
  let (descriptor, files) ← (h.files.openWrite h.cwd path mode).mapError .os
  return (descriptor, { h with files })

def write (h : Host) (descriptor : Nat) (b : Bytes) : Except IoError Unit × Host :=
  let (result, files) := h.files.write descriptor b
  (result.mapError .os, { h with files })

/-- Closes an open file. -/
def close (h : Host) (descriptor : Nat) : Host := { h with files := h.files.close descriptor }

def readText (h : Host) (path : Text) : Except IoError Text := h.files.readText h.cwd path

/-- Whether a path leads to a file. -/
def holds (h : Host) (path : Text) : Bool :=
  match Path.ofText path with
  | .ok p => (h.files.find h.cwd p).toBool
  | .error _ => false

end Host

instance : FileStore Host where
  openTarget := Host.openTarget
  write := Host.write
  close := Host.close

end Relay
