import Relay.Shell.Arithmetic
import Relay.Shell.Variables
import Relay.Userland.Glob

/-!
# Expanding words

A word becomes fields in three steps: its pieces become glyphs, which remember where they come
from; glyphs that stem from an unquoted parameter or command are split into fields; and a field
that is a pattern becomes the names of the files that match it.
-/

namespace Relay.Shell

open Userland

/-- Where a character of an expanded word comes from. -/
inductive Origin where
  | plain
  /-- It stands or stems from between quotes. -/
  | quoted
  /-- It stems from a parameter or a command without quotes. -/
  | expanded
  deriving DecidableEq

/-- A part of an expanded word. -/
inductive Glyph where
  | char (c : Char) (origin : Origin)
  /-- A field stands here, even an empty one. -/
  | field
  /-- An expansion that is split starts here; it can be one that is split only where one parameter
  ends and the next one starts. -/
  | split (spread : Bool)
  /-- One field ends here and another one starts. -/
  | cut

/-- The same parts, in which all that stands as it is is split; `inside` tells that such a
character came before. -/
def asExpanded : Bool → List Glyph → List Glyph
  | inside, .char c .plain :: gs =>
    (if inside then [] else [.split false]) ++ .char c .expanded :: asExpanded true gs
  | _, g :: gs => g :: asExpanded false gs
  | _, [] => []

def textOf (gs : List Glyph) : List Char := gs.filterMap fun g =>
  match g with
  | .char c _ => some c
  | _ => none

/-! ## Patterns -/

/-- The elements of the pattern that some glyphs write; quoted characters stand for themselves, and
so does what follows a backslash that stems from a parameter. -/
def patternOf (gs : List Glyph) : List GlobItem :=
  let cs := resolveBackslashes <| gs.filterMap fun g =>
    match g with
    | .char c origin => some (c, origin = .quoted)
    | _ => none
  readGlob false cs.length cs

def matchesGlyphs (gs : List Glyph) (cs : List Char) : Bool :=
  matchesGlob (patternOf gs) cs

/-- The lengths that the start of some characters can have to match a pattern, shortest first. -/
def matchingLengths (gs : List Glyph) (cs : List Char) : List Nat :=
  (List.range (cs.length + 1)).filter fun k => matchesGlyphs gs (cs.take k)

/-- Texts without the part at the start of the first one that matches a pattern.  The longest part
is looked for with all texts before the first one ends, so that one that is all of the first text
takes the others with it. -/
def withoutStart (gs : List Glyph) (longest : Bool) : List (List Char) → List (List Char)
  | [] => []
  | first :: rest =>
    if longest && !rest.isEmpty && matchesGlyphs gs first then [[]]
    else
      let lengths := matchingLengths gs first
      match if longest then lengths.getLast? else lengths.head? with
      | some k => first.drop k :: rest
      | none => first :: rest

/-- How much of some characters is left before an end that matches a pattern, the least first. -/
def keptLengths (gs : List Glyph) (cs : List Char) : List Nat :=
  (List.range (cs.length + 1)).filter fun k => matchesGlyphs gs (cs.drop k)

/-- Texts without the shortest end of one that matches a pattern and without all texts behind that
one, which is the last such text. -/
def withoutShortEnd (gs : List Glyph) : List (List Char) → Option (List (List Char))
  | [] => none
  | first :: rest =>
    match withoutShortEnd gs rest with
    | some kept => some (first :: kept)
    | none => (keptLengths gs first).getLast?.map fun k => [first.take k]

/-- Texts without the part at their end that matches a pattern.  The longest part is looked for in
the first text alone; what follows a part goes with it. -/
def withoutEnd (gs : List Glyph) (longest : Bool) (texts : List (List Char)) : List (List Char) :=
  if longest then
    let first := texts.headD []
    match (keptLengths gs first).head? with
    | some k => [first.take k]
    | none => texts
  else (withoutShortEnd gs texts).getD texts

/-! ## Parameters -/

namespace Job

/-- What stands between the positional parameters in one text: the first of the characters that
separate fields. -/
def joint : Job Bytes := do
  return (← valueOf? (ascii "IFS")).elim [32] (·.take 1)

/-- The positional parameters as one text. -/
def joined : Job Bytes := do
  return (← joint).intercalate (← state).parameters

/-- The value of a parameter, if it is set. -/
def parameter? (name : List Char) : Job (Option Bytes) := do
  let s ← state
  match name with
  | ['?'] => return some (decimal s.status)
  | ['$'] => return some (decimal s.root)
  | ['#'] => return some (decimal s.parameters.length)
  | ['-'] => return some (octets s.switches.letters)
  | ['!'] => return s.latest.map decimal
  | ['@'] => joined
  | ['*'] => joined
  | _ =>
    match natOf? (octets name) with
    | some 0 => return some s.title
    | some (n + 1) => return s.parameters[n]?
    | none => valueOf? (octets name)

/-- Characters of one origin. -/
def glyphs (quoted : Bool) (b : Bytes) : List Glyph :=
  if quoted then (chars b).map fun c => .char c .quoted
  else .split false :: (chars b).map fun c => .char c .expanded

/-- Gives up because of a parameter. -/
def giveUp {α : Type} (name : List Char) (message : Bytes) : Job α :=
  fault (octets name ++ ascii ": " ++ message)

/-- The value of a parameter, which must be set if the shell was told so. -/
def parameter (name : List Char) : Job Bytes := do
  match ← parameter? name with
  | some value => return value
  | none =>
    if (← state).switches.bound then giveUp name (ascii "parameter not set") else return []

/-- The glyphs of parameters of which each is a field of its own. -/
def fieldGlyphs (quoted : Bool) (ps : List Bytes) : List Glyph :=
  let parts := ps.map fun p =>
    if quoted then .field :: glyphs true p else (glyphs false p).drop 1
  (if quoted && ps.isEmpty then [] else [.split quoted]) ++ (parts.intersperse [.cut]).flatten

/-- Whether a parameter expands to a field for each positional parameter; `full` tells that there
can be several fields. -/
def isSpread (name : List Char) (full quoted : Bool) : Bool :=
  full && (name = ['@'] || (name = ['*'] && !quoted))

def expandParameter (name : List Char) (full quoted : Bool) : Job (List Glyph) := do
  if isSpread name full quoted then return fieldGlyphs quoted (← state).parameters
  else return glyphs quoted (← parameter name)

/-- What a parameter without a part that a pattern matches expands to. -/
def trimParameter (name : List Char) (trim : List (List Char) → List (List Char))
    (full quoted : Bool) : Job (List Glyph) := do
  if isSpread name full quoted then
    let texts := (← state).parameters.map chars
    let kept := trim (if texts.isEmpty then [[]] else texts)
    return fieldGlyphs quoted (kept.map octets)
  else return glyphs quoted (octets (trim [chars (← parameter name)]).flatten)

/-- Sets variables to numbers. -/
def assignNumbers : List (List Char × Int) → Job Unit
  | [] => return ()
  | (name, n) :: rest => do
    assign (octets name) (ascii (toString n))
    assignNumbers rest

/-- Expands pieces to glyphs; `printed` runs a command for what it prints, and `full` tells that
there can be several fields. -/
def expandPieces (printed : Command → Job Bytes) : Nat → Bool → Word → Job (List Glyph)
  | 0, _, _ => return []
  | _, _, [] => return []
  | n + 1, full, p :: ps => do
    let first ← match p with
      | .char c quoted => pure [.char c (if quoted then .quoted else .plain)]
      | .quotes => pure [.field]
      | .parameter name quoted => expandParameter name full quoted
      | .size name quoted => do pure (glyphs quoted (decimal (← parameter name).length))
      | .fallback name kind emptyCounts word quoted => do
        let value ← parameter? name
        let missing := if emptyCounts then (value.getD []).isEmpty else value.isNone
        match kind, missing with
        | .replace, true => pure []
        | .replace, false => pure (asExpanded false (← expandPieces printed n full word))
        | .substitute, true => pure (asExpanded false (← expandPieces printed n full word))
        | .assign, true => do
          let text := octets (textOf (← expandPieces printed n false word))
          assign (octets name) text
          pure (glyphs quoted text)
        | .refuse, true => do
          let usual := if emptyCounts then "parameter not set or null" else "parameter not set"
          if word.isEmpty then giveUp name (ascii usual)
          else giveUp name (octets (textOf (← expandPieces printed n false word)))
        | _, false => expandParameter name full quoted
      | .trimmed name atEnd longest pattern quoted => do
        let _ ← parameter name
        if (← parameter? name).isNone then pure []
        else
          let gs ← expandPieces printed n false pattern
          let trim := if atEnd then withoutEnd gs longest else withoutStart gs longest
          trimParameter name trim full quoted
      | .malformed => fault (ascii "Bad substitution")
      | .arithmetic word quoted => do
        let text := textOf (← expandPieces printed n false word)
        let s ← state
        let lookup (name : List Char) : Bytes :=
          ((s.bindings.find? (·.name = octets name)).bind (·.value)).getD []
        let (result, assigned) := Arithmetic.evaluate lookup text
        assignNumbers assigned.reverse
        match result with
        | .ok a => pure (glyphs quoted (ascii (toString a)))
        | .error .overflow =>
          onProcess fun y self => y.signal self Arithmetic.overflowSignal
          pure []
        | .error flaw => fault (flaw.message (octets text))
      | .printed body quoted => do
        let b ← printed body
        let ended := (b.reverse.dropWhile (· == Text.lineFeed)).reverse
        pure (glyphs quoted (ended.filter (· != 0)))
    return first ++ (← expandPieces printed n full ps)

end Job

/-! ## Fields -/

/-- Whether a separating character is a blank, of which several count as one. -/
def isBlank (c : Char) : Bool := c == ' ' || c == '\t' || c == '\n'

/-- What comes before a place in an expansion, as far as it matters there. -/
structure Passed where
  /-- Blanks just ended a field. -/
  blank : Bool := false
  /-- The expansion is split only where one parameter ends and the next one starts. -/
  spread : Bool := false
  /-- The expansion before this one was such a one; each separating character then ends a field. -/
  afterSpread : Bool := false

def splitFields (separators : List Char) :
    List Glyph → Option (List Glyph) → Passed → List (List Glyph)
  | [], current, _ => current.toList
  | g :: gs, current, passed =>
    let settled := { passed with blank := false }
    match g with
    | .split spread =>
      splitFields separators gs current { spread, afterSpread := passed.spread }
    | .field => splitFields separators gs (some (current.getD [])) settled
    | .char c .expanded =>
      if !separators.contains c then
        splitFields separators gs (some (current.getD [] ++ [g])) settled
      else if passed.afterSpread then
        current.getD [] :: splitFields separators gs none settled
      else if isBlank c then
        let blank := passed.blank || current.isSome
        current.toList ++ splitFields separators gs none { passed with blank }
      else if current.isNone && passed.blank then splitFields separators gs none settled
      else current.getD [] :: splitFields separators gs none settled
    | .cut =>
      if passed.afterSpread || passed.spread then
        current.getD [] :: splitFields separators gs none settled
      else
        let blank := passed.blank || current.isSome
        current.toList ++ splitFields separators gs none { passed with blank }
    | .char _ _ => splitFields separators gs (some (current.getD [] ++ [g])) settled

/-! ## Names of files -/

def splitSlashes (gs : List Glyph) : List (List Glyph) :=
  pieces (fun g => match g with | .char '/' _ => true | _ => false) gs

/-- The paths that match a pattern, component by component; each comes with what is already
matched. -/
def matchingPaths (t : FileTree) (cwd : Location) : List Bytes → List (List Glyph) → List Bytes
  | found, [] => found
  | found, component :: rest =>
    let items := patternOf component
    let next := found.flatMap fun before =>
      if !isWild items then
        let path := before ++ octets (items.filterMap GlobItem.char?)
        if rest.isEmpty && (t.find cwd path).toBool = false then [] else [path]
      else
        let folder := if before.isEmpty then Path.here else before
        match t.findDirectory cwd folder with
        | .error _ => []
        | .ok l =>
          let dotted := (items.head?.bind GlobItem.char?) == some '.'
          let all := (if dotted then [Path.here, Path.up] else []) ++ t.names l
          let names := all.filter fun name =>
            matchesGlob items (chars name) && (dotted || name.head? != some 46)
          names.map (before ++ ·)
    matchingPaths t cwd (if rest.isEmpty then next else next.map (· ++ [Path.slash])) rest

/-- The names that a field stands for: itself, unless it is a pattern that matches. -/
def fieldNames (t : FileTree) (cwd : Location) (gs : List Glyph) : List Bytes :=
  let itself := octets (textOf gs)
  if !isWild (patternOf gs) then [itself]
  else
    match matchingPaths t cwd [[]] (splitSlashes gs) with
    | [] => [itself]
    | names => names.mergeSort FileTree.nameBefore

namespace Job

def separators : Job (List Char) := do
  return (← valueOf? (ascii "IFS")).elim [' ', '\t', '\n'] chars

/-- How deeply expansions are followed. -/
def expansionFuel (w : Word) : Nat := 1000 + w.length

def expandFields (printed : Command → Job Bytes) (w : Word) : Job (List Bytes) := do
  let gs ← expandPieces printed (expansionFuel w) true w
  let s ← state
  let fields := splitFields (← separators) gs none {}
  if s.switches.has "noglob" then return fields.map fun f => octets (textOf f)
  else
    let t ← files
    return fields.flatMap (fieldNames t s.cwd)

def expandWords (printed : Command → Job Bytes) : List Word → Job (List Bytes)
  | [] => return []
  | w :: ws => do
    let first ← expandFields printed w
    return first ++ (← expandWords printed ws)

def expandGlyphs (printed : Command → Job Bytes) (w : Word) : Job (List Glyph) :=
  expandPieces printed (expansionFuel w) false w

def expandText (printed : Command → Job Bytes) (w : Word) : Job Bytes := do
  return octets (textOf (← expandGlyphs printed w))

/-- The commands whose arguments can be assignments, which are not split. -/
def assigningCommands : List String := ["export", "readonly", "local"]

/-- Expands the arguments of a command; assignments are not split. -/
def expandAssigning (printed : Command → Job Bytes) : List Word → Job (List Bytes)
  | [] => return []
  | w :: ws => do
    let first ← match assignment? w with
      | some (name, value) =>
        pure [octets name ++ ascii "=" ++ (← expandText printed (withHomes value))]
      | none => expandFields printed w
    return first ++ (← expandAssigning printed ws)

/-- Expands the words of a command.  The first field names the command; a command that only runs
another one is passed over with its options. -/
def expandCommand (printed : Command → Job Bytes) : Bool → List Word → Job (List Bytes)
  | _, [] => return []
  | passing, w :: ws => do
    let fields ← expandFields printed w
    let text (b : Bytes) := String.ofList (chars b)
    match fields with
    | [] => expandCommand printed passing ws
    | a :: _ =>
      let isOption := passing && a.head? = some 45
      if text a = "command" || isOption then return fields ++ (← expandCommand printed true ws)
      else if assigningCommands.contains (text a) then
        return fields ++ (← expandAssigning printed ws)
      else return fields ++ (← expandWords printed ws)

end Job

end Relay.Shell
