import Relay.Userland.Manual.Basic

/-!
# Giving up

A tool may end before its work is done: with a complaint, or because it is asked for a text about
itself instead.
-/

namespace Relay.Userland

/-- Why a tool ends before its work is done. -/
inductive Halt where
  /-- What it prints on its error output, and its exit code. -/
  | complaint (err : Bytes) (code : Nat)
  | help
  | version
  /-- It changed files before. -/
  | leaving (files : FileTree) (h : Halt)

namespace Halt

/-- What a tool prints on its error output when it gives up. -/
def err : Halt → Bytes
  | .complaint err _ => err
  | .leaving _ h => h.err
  | _ => []

/-- What a tool with some manual, called by some name, prints on its standard output when it gives
up. -/
def out (m : Manual) (t : FileTree) (title : Bytes) : Halt → Bytes
  | .complaint _ _ => []
  | .help => m.help t title
  | .version => m.versionText t
  | .leaving _ h => h.out m t title

/-- The exit code of a tool that gives up. -/
def code : Halt → Nat
  | .complaint _ code => code
  | .leaving _ h => h.code
  | _ => 0

/-- The same with another text on the error output. -/
def mapErr (f : Bytes → Bytes) : Halt → Halt
  | .complaint err code => .complaint (f err) code
  | .leaving files h => .leaving files (h.mapErr f)
  | h => h

/-- The files as they are left behind, if they were `t` at the start.  Of several changes the one
that was noted first is the last one. -/
def files (t : FileTree) : Halt → FileTree
  | .leaving files h => h.files files
  | _ => t

end Halt

/-- Giving up with one complaint. -/
def halt {α : Type} (inv : Invocation) (message : Bytes) (code : Nat) : Except Halt α :=
  .error (.complaint (complain inv message) code)

/-- Giving up because of a wrong call: a complaint, and a line that points to the help text. -/
def misuse {α : Type} (inv : Invocation) (message : Bytes) (code : Nat) : Except Halt α :=
  .error (.complaint (complain inv message ++ hint inv) code)

/-- A tool that may give up; its input then stays unread. -/
def guarded (m : Manual) (body : Invocation → FileTree → Except Halt Report) : Tool := fun inv t =>
  match body inv t with
  | .ok r => r
  | .error h =>
    { files := h.files t, out := h.out m t inv.title, err := h.err, code := h.code
      unread := inv.stdin }

/-- A tool that tells about itself if that is the only thing it is asked for. -/
def telling (m : Manual) (tool : Tool) : Tool := fun inv t =>
  let tell (h : Halt) : Report := { files := t, out := h.out m t inv.title, unread := inv.stdin }
  if inv.args = [ascii "--help"] then tell .help
  else if inv.args = [ascii "--version"] then tell .version
  else tool inv t

end Relay.Userland
