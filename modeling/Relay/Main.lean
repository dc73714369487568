import Relay.CommandLine

/-!
# The program

The command line as a program.  It works on files in memory: the installed programs, and those files
of the working directory that the arguments or the environment name.
-/

namespace Relay.Main

/-- The environment variables that count. -/
def variableNames : List String := ["HOME", "XDG_CONFIG_HOME", "PATH"]

/-- The files that a request reads before a run. -/
def requested (h : Host) (args : List Text) : List Text :=
  match CommandLine.readArguments args with
  | .error _ => []
  | .ok a =>
    let settings := (a.config.orElse fun _ => Settings.userPath? h).toList
    match a.request with
    | .runFile path => path :: settings
    | _ => settings

def withFile (h : Host) (path : Text) (content : Bytes) : Host :=
  let start := if path.head? = some '/' then [] else h.cwd
  let l := start ++ Path.components (Text.utf8 path)
  { h with files := (h.files.addDirectory l.dropLast).addFile l content }

def readEnvironment : IO (List (Text × Text)) := do
  let found ← variableNames.mapM fun name => do
    return (← IO.getEnv name).map fun value => (name.toList, value.toList)
  return found.filterMap id

/-- Copies a file into a host, if it can be read. -/
def copyFile (h : Host) (path : Text) : IO Host := do
  try
    let content ← IO.FS.readBinFile (String.ofList path)
    return withFile h path content.toList
  catch _ => return h

/-- The host on which arguments are answered. -/
def hostFor (args : List Text) : IO Host := do
  let folder := Path.components (Text.utf8 (toString (← IO.currentDir)).toList)
  let env ← readEnvironment
  let h : Host := { files := Userland.installed.addDirectory folder, cwd := folder, env }
  (requested h args).foldlM copyFile h

end Relay.Main

/-- Answers the arguments, prints the answer and ends with its code. -/
def main (args : List String) : IO UInt32 := do
  let args := args.map String.toList
  let (response, _) := Relay.CommandLine.answer args (← Relay.Main.hostFor args)
  (← IO.getStdout).putStr (String.ofList response.out)
  (← IO.getStderr).putStr (String.ofList response.err)
  return response.code.toUInt32
