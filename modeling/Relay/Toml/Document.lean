import Relay.Toml.Node

/-!
# Documents

A TOML document is a sequence of lines that open tables or add values to the table opened last.
`Toml.parse` answers the entries of the whole document, or nothing if it is not well formed.
-/

namespace Relay.Toml

open Scan

/-! ## Keys -/

def isBareKeyChar (c : Char) : Bool :=
  isDigit c || ('a' ≤ c && c ≤ 'z') || ('A' ≤ c && c ≤ 'Z') || c == '-' || c == '_'

def simpleKey : Scan Text := fun t =>
  match t with
  | '"' :: _ => basicString t
  | '\'' :: _ => literalString t
  | _ => run1 isBareKeyChar t

/-- How deep keys and values can be nested. -/
def maxDepth : Nat := 80

/-- A key with blanks around its parts: the parts that lead to a table, and the last part. -/
def key : Scan (List Text × Text) := do
  let part : Scan Text := do
    let _ ← spaces
    let k ← simpleKey
    let _ ← spaces
    return k
  let first ← part
  let more ← many (do
    let _ ← char '.'
    part)
  let all := first :: more
  if maxDepth ≤ all.length then refuse else return (all.dropLast, all.getLastD [])

/-! ## Values -/

/-- Blanks, comments and line ends between the elements of an array. -/
def gap : Scan Unit := do
  let _ ← many (orElse (orElse (run1 isSpace) newline) comment)
  return ()

def comma : Scan Unit := do
  let _ ← char ','
  return ()

/-- The elements of an array, after the opening bracket. -/
def arrayElements (element : Scan Node) : Scan (List Node) := do
  let padded : Scan Node := do
    gap
    let n ← element
    gap
    return n
  let elements ← optional (do
    let first ← padded
    let more ← many (do
      comma
      padded)
    let _ ← optional comma
    return first :: more)
  gap
  let _ ← char ']'
  return elements.getD []

def keyValue (element : Scan Node) : Scan ((List Text × Text) × Node) := do
  let k ← key
  let _ ← char '='
  let _ ← spaces
  let n ← element
  return (k, n)

/-- The entries of a table in braces, after the opening brace. -/
def braceEntries (element : Scan Node) : Scan Entries := do
  let padded : Scan ((List Text × Text) × Node) := do
    let kv ← keyValue element
    let _ ← spaces
    return kv
  let pairs ← optional (do
    let first ← padded
    let more ← many (do
      comma
      padded)
    return first :: more)
  let _ ← spaces
  let _ ← char (Char.ofNat 125)
  match (pairs.getD []).foldlM (fun es (k, n) => Entries.addInline es k.1 k.2 n) [] with
  | some es => return es
  | none => refuse

/-- A value that starts with a digit or a sign. -/
def numeric : Scan Node :=
  orElse (do return .dateTime (← dateTime))
    (orElse (do fractional; return .number)
      (orElse (do specialNumber; return .number) (do let n ← integer; return .integer n)))

/-- A value in which arrays and tables are nested less deep than the bound. -/
def value : Nat → Scan Node
  | 0 => refuse
  | depth + 1 => fun t =>
    match t with
    | [] => none
    | c :: rest =>
      if c = '"' ∨ c = '\'' then (do let s ← string; return .string s : Scan Node) t
      else if c = '[' ∧ depth ≠ 0 then
        (do let es ← arrayElements (value depth); return .array es : Scan Node) rest
      else if c.toNat = 123 ∧ depth ≠ 0 then
        (do let es ← braceEntries (value depth); return .inlineTable false es : Scan Node) rest
      else if c = 't' then (do let _ ← exact "true".toList; return .boolean true : Scan Node) t
      else if c = 'f' then (do let _ ← exact "false".toList; return .boolean false : Scan Node) t
      else numeric t

/-! ## Lines -/

inductive Line where
  | blank
  | header (path : List Text) (key : Text)
  /-- A header in double brackets. -/
  | element (path : List Text) (key : Text)
  | assignment (path : List Text) (key : Text) (node : Node)

/-- What may follow on a line: blanks, a comment, and the end of the line or of the document. -/
def lineEnd : Scan Unit := do
  let _ ← spaces
  let _ ← optional comment
  orElse (do let _ ← newline; return ()) atEnd

def line : Scan Line := do
  let _ ← spaces
  match ← peek with
  | none => refuse
  | some '[' =>
    orElse (do
      let _ ← exact ['[', '[']
      let (path, k) ← key
      let _ ← exact [']', ']']
      lineEnd
      return .element path k) (do
      let _ ← char '['
      let (path, k) ← key
      let _ ← char ']'
      lineEnd
      return .header path k)
  | some '#' | some '\n' | some '\r' =>
    lineEnd
    return .blank
  | some _ =>
    let ((path, k), n) ← keyValue (value maxDepth)
    lineEnd
    return .assignment path k n

def documentLines : Scan (List Line) := do
  let ls ← many line
  let _ ← spaces
  atEnd
  return ls

/-! ## Tables -/

/-- A document that is being built: its entries, and the table that values are added to, which is
the last one of an array of tables if that is what its path leads to. -/
structure Draft where
  entries : Entries := []
  current : List Text := []

/-- Adds one line to a document. -/
def Draft.add (d : Draft) : Line → Option Draft
  | .blank => some d
  | .header path key => do
    return { entries := ← d.entries.openTable path key, current := path ++ [key] }
  | .element path key => do
    return { entries := ← d.entries.openElement path key, current := path ++ [key] }
  | .assignment path key node => do
    let entries ← d.entries.underHeader d.current fun es => es.addDotted true path key node
    return { d with entries }

/-- The mark that may stand in front of a document. -/
def byteOrderMark : Char := Char.ofNat 0xFEFF

/-- The entries of a document, if it is well formed. -/
def parse (t : Text) : Option Entries := do
  let t := if t.head? = some byteOrderMark then t.tail else t
  let (ls, _) ← documentLines t
  let d ← ls.foldlM Draft.add {}
  return d.entries

end Relay.Toml
