import Relay.Userland.Tool

/-!
# Texts that programs print about themselves

A program prints a help text and a text about its version when it is asked to.  A `Manual` holds
what is particular to a program; the forms of a call and the remarks that many programs share are
put around it.  What a program tells about its makers, the whole text about its version among it, is
its `Imprint`, which comes with the installed program.
-/

namespace Relay.Userland

/-- What a program tells about itself. -/
structure Manual where
  /-- The name under which the program is installed. -/
  name : String
  /-- What follows the name in a call. -/
  forms : List String
  /-- The lines below the forms of a call; `%s` stands for the name the program goes by and `%m` for
  its maker. -/
  body : List String
  /-- The name the program goes by is shown without the way to it. -/
  shortened : Bool := false

namespace Manual

/-! ## Remarks that many programs share -/

/-- The options for texts about the program. -/
def selfOptions : List String :=
  ["      --help        display this help and exit",
    "      --version     output version information and exit"]

/-- What is read if there are no operands. -/
def inputLines : List String := ["", "With no FILE, or when FILE is -, read standard input."]

/-- What belongs to the letters of options with values. -/
def mandatory : List String :=
  ["", "Mandatory arguments to long options are mandatory for short options too."]

/-- A program of this name may be a part of the shell. -/
def shellNote (name : String) : List String :=
  ["", s!"NOTE: your shell may have its own version of {name}, which usually supersedes",
    "the version described here.  Please refer to your shell's documentation",
    "for details about the options it supports."]

/-! ## Whole texts -/

def render (ls : List String) : Bytes := unlines (ls.map ascii)

/-- A text in which `%s` stands for the name a program goes by and `%m` for its maker. -/
def fill (title maker : Bytes) : List Char → Bytes
  | '%' :: 's' :: cs => title ++ fill title maker cs
  | '%' :: 'm' :: cs => maker ++ fill title maker cs
  | c :: cs => octets [c] ++ fill title maker cs
  | [] => []

/-- The forms of a call of a program that goes by some name. -/
def formLines (m : Manual) (title : Bytes) : Bytes :=
  let title := if m.shortened then (pieces (· == Path.slash) title).getLastD [] else title
  m.forms.zipIdx.flatMap fun (form, k) =>
    ascii (if k = 0 then "Usage: " else "  or:  ") ++ title ++ ascii " " ++ ascii form
      ++ [Text.lineFeed]

/-- The imprint that a program is installed with. -/
def imprint (m : Manual) (t : FileTree) : Imprint := (t.imprints.lookup m.name).getD {}

/-- What a program prints after some wrong calls. -/
def usage (m : Manual) (t : FileTree) (title : Bytes) : Bytes :=
  let i := m.imprint t
  m.formLines title ++ unlines (m.body.map fun l => fill title (ascii i.maker) l.toList)
    ++ render ("" :: i.footer)

/-- What a program prints if it is asked for help. -/
def help (m : Manual) (t : FileTree) (title : Bytes) : Bytes :=
  m.usage t title ++ render (m.imprint t).contact

/-- What a program prints if it is asked for its version. -/
def versionText (m : Manual) (t : FileTree) : Bytes := render (m.imprint t).version

end Manual

end Relay.Userland
