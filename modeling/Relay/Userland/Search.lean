import Relay.Userland.Tool

/-!
# Finding programs

A name with a slash is the path of a program.  Any other name is looked for in the directories of a
search path, one after another; an empty component stands for the working directory.  A file that is
no program is passed over, but remembered: if nothing else is found, permission is denied.
-/

namespace Relay.Userland

def defaultSearchPath : Bytes := ascii "/bin:/usr/bin"

def programAt (t : FileTree) (cwd : Location) (path : Bytes) : Except Errno Bytes := do
  match (← t.find cwd path).2 with
  | .program name => return name
  | _ => throw .accessDenied

/-- Looks for a program in some directories; answers its path and the program.  An earlier denial is
reported if nothing is found. -/
def searchIn (t : FileTree) (cwd : Location) (name : Bytes) (denied : Bool) :
    List Bytes → Except Errno (Bytes × Bytes)
  | [] => .error (if denied then .accessDenied else .noEntry)
  | folder :: rest =>
    let path := if folder.isEmpty then name else folder ++ Path.slash :: name
    match programAt t cwd path with
    | .ok program => .ok (path, program)
    | .error e =>
      if e = .accessDenied then searchIn t cwd name true rest
      else if e = .noEntry || e = .notDirectory then searchIn t cwd name denied rest
      else .error e

/-- Finds a program by its name; answers its path and the program. -/
def locateProgram (t : FileTree) (cwd : Location) (searchPath name : Bytes) :
    Except Errno (Bytes × Bytes) :=
  if name.isEmpty then .error .noEntry
  else if name.contains Path.slash then (programAt t cwd name).map fun program => (name, program)
  else if Path.maxName < name.length then .error .nameTooLong
  else searchIn t cwd name false (pieces (· == 58) searchPath)

def findProgram (t : FileTree) (cwd : Location) (searchPath name : Bytes) : Except Errno Bytes :=
  (locateProgram t cwd searchPath name).map (·.2)

end Relay.Userland
