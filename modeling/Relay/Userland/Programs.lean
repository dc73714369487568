import Relay.Shell.Interpreter
import Relay.Userland.Dump
import Relay.Userland.Editing
import Relay.Userland.Environment
import Relay.Userland.FileTimes
import Relay.Userland.LineTools
import Relay.Userland.Listing
import Relay.Userland.NameTools
import Relay.Userland.Repetition
import Relay.Userland.Selecting
import Relay.Userland.Sequences
import Relay.Userland.Sorting
import Relay.Userland.Transliteration

/-!
# The installed programs

Which programs there are, where they lie and what they do.  `installed` is the file tree before any
run, `execute` starts a program by its own name, and `launch` starts one the way a run does: after
all checks that come before a program's first step.
-/

namespace Relay.Userland

def succeed : Tool := telling Manual.succeeding fun inv t => { files := t, unread := inv.stdin }

def fail : Tool := fun inv t =>
  { telling Manual.failing succeed inv t with code := 1 }

/-- The programs that run to their end at once. -/
def tools : List (String × Tool) :=
  [("cat", cat), ("echo", echo), ("false", fail), ("grep", grep), ("head", head), ("ls", ls),
    ("od", od), ("printf", printf), ("pwd", pwd), ("rm", rm), ("seq", seq),
    ("sort", sort), ("touch", touch), ("tr", tr), ("true", succeed),
    ("uniq", uniq), ("wc", wc)]

def programNames : List String := tools.map (·.1) ++ ["env", "sed", "sh", "sleep", "tail"]

/-! ## The files before any run -/

def locationOf (names : List String) : Location := names.map ascii

/-- The directories before any run. -/
def systemDirectories : List Location :=
  (["bin", "boot", "dev", "etc", "home", "lib", "media", "mnt", "opt", "proc", "root", "run",
      "sbin", "srv", "sys", "tmp", "usr", "var"].map fun name => [name])
    ++ (["bin", "games", "include", "lib", "local", "sbin", "share", "src"].map fun name =>
      ["usr", name])
    ++ (["bin", "etc", "games", "include", "lib", "sbin", "share", "src"].map fun name =>
      ["usr", "local", name])
    ++ (["backups", "cache", "lib", "local", "log", "mail", "opt", "run", "spool", "tmp"].map
      fun name => ["var", name])
    |>.map locationOf

/-- The files before any run: devices, and every program in both directories for programs. -/
def installed : FileTree :=
  let devices := [("null", Device.null), ("zero", .zero), ("full", .full)].map
    fun (name, d) => (locationOf ["dev", name], Entry.device d)
  let programs := programNames.flatMap fun name =>
    [locationOf ["bin", name], locationOf ["usr", "bin", name]].map
      fun l => (l, Entry.program (ascii name))
  { entries := systemDirectories.map (·, Entry.directory) ++ devices ++ programs }

/-! ## Starting programs -/

/-- Starts a program, given by its own name; programs may start others to a certain depth. -/
def execute : Nat → Launcher
  | 0, _, _, _ => .ended (.exited 126)
  | depth + 1, name, inv, number =>
    if name = ascii "sh" then Shell.main (execute depth) inv number
    else if name = ascii "env" then env (execute depth) inv number
    else if name = ascii "sed" then Edit.edit (execute depth) inv number
    else if name = ascii "sleep" then sleep inv number
    else if name = ascii "tail" then tail inv number
    else
      match tools.find? fun (tool, _) => ascii tool = name with
      | some (_, tool) => ofTool name tool inv number
      | none => .ended (.exited 126)

/-- How deeply programs may start programs. -/
def depthLimit : Nat := 100

end Relay.Userland
