import Relay.Files.Errno
import Relay.Text.Utf8

/-!
# Paths

A path is a text that names a file; the system sees its bytes.  A location is the list of names
from the root to a file, free of `.` and `..`.  This module takes paths apart; what they lead to is
for `Relay.Files.Tree`.
-/

namespace Relay

abbrev FileName := Bytes

/-- The names from the root to a file; the root is the empty list. -/
abbrev Location := List FileName

namespace Path

/-- The byte between the components of a path. -/
def slash : UInt8 := 47

/-- The longest name a file can have, in bytes. -/
def maxName : Nat := 255

/-- The length, in bytes, from which a path is too long. -/
def maxPath : Nat := 4096

/-- The component that stays where it is. -/
def here : FileName := [46]

/-- The component that leads to the parent. -/
def up : FileName := [46, 46]

/-- The bytes of a path given as a text; a path cannot hold a NUL character. -/
def ofText (t : Text) : Except IoError Bytes :=
  if t.contains (Char.ofNat 0) then .error .nulInPath else .ok (Text.utf8 t)

/-- Whether a path starts at the root. -/
def isAbsolute (p : Bytes) : Bool := p.head? == some slash

/-- Whether a path ends in a slash, and so names a directory. -/
def endsInSlash (p : Bytes) : Bool := p.getLast? == some slash

/-- The components of a path; doubled slashes add none. -/
def components (p : Bytes) : List FileName := (pieces (· == slash) p).filter (fun c => !c.isEmpty)

/-- A path with one more component at its end. -/
def child (p name : Text) : Text :=
  if p.getLast? = some '/' then p ++ name else p ++ '/' :: name

/-- The location written as an absolute path. -/
def ofLocation (l : Location) : Bytes :=
  if l.isEmpty then [slash] else l.flatMap (slash :: ·)

end Path

end Relay
