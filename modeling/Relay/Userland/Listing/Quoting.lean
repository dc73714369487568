import Relay.Userland.Tool

/-!
# Ways of writing names

A name is written as it is, with escapes, or in quotes.  Quotes are those of a shell, which may be
left out where a shell needs none, or those of a text, within which escapes stand.
-/

namespace Relay.Userland

inductive NameStyle where
  | literal
  /-- In quotes if a shell would need them. -/
  | shell
  | shellAlways
  /-- The same, with escapes for what is not printed. -/
  | shellEscape
  | shellEscapeAlways
  | spelled
  /-- The same if there is something to escape. -/
  | spelledMaybe
  | escaped
  /-- In the quotes of the language, with escapes. -/
  | native
  | nativeDouble
  deriving DecidableEq

namespace NameStyle

def words : List (String × NameStyle) :=
  [("literal", .literal), ("shell", .shell), ("shell-always", .shellAlways),
    ("shell-escape", .shellEscape), ("shell-escape-always", .shellEscapeAlways), ("c", .spelled),
    ("c-maybe", .spelledMaybe), ("escape", .escaped), ("locale", .native),
    ("clocale", .nativeDouble)]

def word (s : NameStyle) : String := ((words.find? (·.2 = s)).map (·.1)).getD ""

/-- Whether quotes are written around some names only. -/
def isSelective : NameStyle → Bool
  | .shell => true
  | .shellEscape => true
  | .spelledMaybe => true
  | _ => false

/-- Whether bytes that are not printed are written as they are. -/
def isRaw : NameStyle → Bool
  | .literal => true
  | .shell => true
  | .shellAlways => true
  | _ => false

end NameStyle

/-- A name with escapes for what is not printed, for backslashes and for some more bytes. -/
def withEscapes (more : List UInt8) (name : Bytes) : Bytes :=
  name.flatMap fun b =>
    if b == 92 || more.contains b then [92, b] else if isPrinted b then [b] else escapedByte b

/-- A name in apostrophes as a shell takes it, without escapes.  If it holds apostrophes, and
nothing that means more between double quotes, these are used instead. -/
def shellQuoted (name : Bytes) : Bytes :=
  let cs := chars name
  if cs.contains '\'' && isCommon true (cs.headD ' ') && cs.tail.all (isCommon false) then
    ascii "\"" ++ name ++ ascii "\""
  else ascii "'" ++ name.flatMap (fun b => if b == 39 then ascii "'\\''" else [b]) ++ ascii "'"

/-- Whether a shell would need quotes around a name; what is not printed needs none but for ends of
lines and tabs. -/
def needsShellQuotes (name : Bytes) : Bool :=
  match chars name with
  | [] => true
  | c :: cs =>
    let isFine (isFirst isOnly : Bool) (c : Char) : Bool :=
      isPlain isFirst isOnly c || !isPrinted (UInt8.ofNat c.toNat) && !"\n\r\t".toList.contains c
    !(isFine true cs.isEmpty c && cs.all (isFine false false))

/-- A name as it is written in some style; in some styles some more bytes are escaped, or ask for
quotes. -/
def NameStyle.write (s : NameStyle) (more : List UInt8) (name : Bytes) : Bytes :=
  let asks := name.any more.contains
  let between (mark : String) : Bytes :=
    ascii mark ++ withEscapes (more ++ ascii mark) name ++ ascii mark
  match s with
  | .literal => name
  | .shell => if asks || needsShellQuotes name then shellQuoted name else name
  | .shellAlways => shellQuoted name
  | .shellEscape => if asks then quotedName name else shellWord name
  | .shellEscapeAlways => quotedName name
  | .spelled => between "\""
  | .spelledMaybe =>
    if asks || name.any fun b => b == 34 || !isPrinted b then
      ascii "\"" ++ withEscapes [34] name ++ ascii "\""
    else name
  | .escaped => withEscapes more name
  | .native => between "'"
  | .nativeDouble => between "\""

/-- A text in which question marks stand for what is not printed. -/
def masked (text : Bytes) : Bytes := text.map fun b => if isPrinted b then b else 63

end Relay.Userland
