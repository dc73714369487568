import Relay.Userland.Tool

/-!
# Colours of selected lines

`grep` can write what it prints in colours: the matches, the lines around them, and what stands in
front of lines.  A colour is a list of numbers for a terminal; an empty one is no colour.
-/

namespace Relay.Userland

structure MatchColours where
  /-- The colours of matches in selected lines and in their context, if they were set. -/
  selectedMatch : Option Bytes := none
  contextMatch : Option Bytes := none
  /-- The colour of matches unless it was set. -/
  usualMatch : Bytes := ascii "01;31"
  fileName : Bytes := ascii "35"
  lineNumber : Bytes := ascii "32"
  offset : Bytes := ascii "32"
  separator : Bytes := ascii "36"
  selectedLine : Bytes := []
  contextLine : Bytes := []
  /-- The colours of lines change places where lines are selected that do not match. -/
  swaps : Bool := false
  /-- The rest of a line of the terminal is cleared with every change. -/
  clears : Bool := true

namespace MatchColours

/-- Sets what a name stands for, to a value if there is one. -/
def set (c : MatchColours) (name : String) (value : Option Bytes) : MatchColours :=
  match name, value with
  | "mt", some v => { c with selectedMatch := some v, contextMatch := some v }
  | "mt", none => { c with contextMatch := c.selectedMatch }
  | "ms", some v => { c with selectedMatch := some v }
  | "mc", some v => { c with contextMatch := some v }
  | "fn", some v => { c with fileName := v }
  | "ln", some v => { c with lineNumber := v }
  | "bn", some v => { c with offset := v }
  | "se", some v => { c with separator := v }
  | "sl", some v => { c with selectedLine := v }
  | "cx", some v => { c with contextLine := v }
  | "rv", _ => { c with swaps := true }
  | "ne", _ => { c with clears := false }
  | _, _ => c

def isColour (b : Bytes) : Bool := (chars b).all fun c => c.isDigit || c == ';'

/-- Reads settings, up to the first one that is not well formed. -/
def readSettings (c : MatchColours) : List Bytes → MatchColours
  | [] => c
  | setting :: rest =>
    let name := setting.takeWhile (· != 61)
    let text := String.ofList (chars name)
    if name.length = setting.length then readSettings (c.set text none) rest
    else
      let value := setting.drop (name.length + 1)
      if name.isEmpty || !isColour value then c else readSettings (c.set text (some value)) rest

/-- The colours that an environment asks for, and a warning if it does so in an old way. -/
def ofEnvironment (inv : Invocation) : MatchColours × Bytes :=
  let value (name : String) : Bytes := (inv.env.lookup (ascii name)).getD []
  let old := value "GREP_COLOR"
  let isUsed := !old.isEmpty && isColour old
  let start : MatchColours := if isUsed then { usualMatch := old } else {}
  let settings := value "GREP_COLORS"
  let c := if settings.isEmpty then start else start.readSettings (pieces (· == 58) settings)
  let counts := isUsed && (c.selectedMatch.isNone || c.contextMatch.isNone)
  (c, if counts then complain inv (ascii "warning: GREP_COLOR='" ++ old
      ++ ascii "' is deprecated; use GREP_COLORS='mt=" ++ old ++ ascii "'") else [])

/-- What switches to a colour, if it is one. -/
def start (c : MatchColours) (colour : Bytes) : Bytes :=
  if colour.isEmpty then []
  else
    [27] ++ ascii "[" ++ colour ++ ascii "m" ++ (if c.clears then [27] ++ ascii "[K" else [])

/-- What ends a colour, if it is one. -/
def stop (c : MatchColours) (colour : Bytes) : Bytes :=
  if colour.isEmpty then []
  else [27] ++ ascii "[m" ++ (if c.clears then [27] ++ ascii "[K" else [])

/-- The colour of matches in a selected line or in its context. -/
def ofMatch (c : MatchColours) (selected : Bool) : Bytes :=
  (if selected then c.selectedMatch else c.contextMatch).getD c.usualMatch

/-- The colour of a selected line or of one in its context. -/
def ofLine (c : MatchColours) (selected inverted : Bool) : Bytes :=
  if selected != (inverted && c.swaps) then c.selectedLine else c.contextLine

end MatchColours

/-- Which of the things that are printed a text is. -/
inductive PrintedPart where
  | fileName
  | lineNumber
  | offset
  | separator

/-- A text in the colour of what it is, if there are colours. -/
def tinted (colours : Option MatchColours) (part : PrintedPart) (b : Bytes) : Bytes :=
  match colours with
  | none => b
  | some c =>
    let colour := match part with
      | .fileName => c.fileName
      | .lineNumber => c.lineNumber
      | .offset => c.offset
      | .separator => c.separator
    c.start colour ++ b ++ c.stop colour

end Relay.Userland
