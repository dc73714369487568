import Relay.Toml.Scalar

/-!
# Nodes

The tree that a TOML document writes.  A table can be written in several ways, and what may be
added to it later depends on the way: a table named by a header is closed to dotted keys, a table
that only lies on the way to another may still get a header of its own, and a table in braces is
complete.
-/

namespace Relay.Toml

/-- How a table came about. -/
inductive TableOrigin where
  /-- It has a header, or is the whole document. -/
  | header
  /-- It lies on the way to the table of a header. -/
  | implied
  /-- It lies on the way of a dotted key. -/
  | dotted
  deriving DecidableEq, Repr

/-- A value, a table or an array of tables. -/
inductive Node where
  | string (t : Text)
  | integer (n : Int)
  | boolean (b : Bool)
  | number
  /-- A date, a time of day, or both. -/
  | dateTime (value : DateTime)
  | array (elements : List Node)
  /-- A table in braces, or one that dotted keys make inside of one. -/
  | inlineTable (dotted : Bool) (entries : List (Text × Node))
  | table (origin : TableOrigin) (entries : List (Text × Node))
  /-- The tables of repeated headers in double brackets. -/
  | tables (elements : List Node)
  deriving Repr

abbrev Entries := List (Text × Node)

namespace Entries

/-- Binds a key, in the place where it was bound. -/
def put (es : Entries) (key : Text) (node : Node) : Entries :=
  match es with
  | [] => [(key, node)]
  | (k, n) :: rest => if k = key then (key, node) :: rest else (k, n) :: put rest key node

/-- Binds a key that is not bound yet. -/
def add? (es : Entries) (key : Text) (node : Node) : Option Entries :=
  if (es.lookup key).isSome then none else some (es ++ [(key, node)])

/-- Changes the entries of the table that a header's path leads to, making the tables on the way.
Through an array of tables the path goes on in the last one; values are never entered. -/
def underHeader (es : Entries) (path : List Text) (change : Entries → Option Entries) :
    Option Entries :=
  match path with
  | [] => change es
  | key :: path =>
    match es.lookup key with
    | none => do
      let inner ← underHeader [] path change
      return es ++ [(key, .table .implied inner)]
    | some (.table origin inner) => do
      let inner ← underHeader inner path change
      return es.put key (.table origin inner)
    | some (.tables elements) =>
      match elements.reverse with
      | .table origin inner :: before => do
        let inner ← underHeader inner path change
        return es.put key (.tables (before.reverse ++ [.table origin inner]))
      | _ => none
    | some _ => none

/-- Opens the table of a header.  A table that only lay on the way to another one is opened with
what it holds; anything else by that name must not exist. -/
def openTable (path : List Text) (key : Text) (es : Entries) : Option Entries :=
  underHeader es path fun inner =>
    match inner.lookup key with
    | none => some (inner ++ [(key, .table .header [])])
    | some (.table .implied entries) => some (inner.put key (.table .header entries))
    | some _ => none

/-- Opens one more table of an array of tables. -/
def openElement (path : List Text) (key : Text) (es : Entries) : Option Entries :=
  underHeader es path fun inner =>
    match inner.lookup key with
    | none => some (inner ++ [(key, .tables [.table .header []])])
    | some (.tables elements) =>
      some (inner.put key (.tables (elements ++ [.table .header []])))
    | some _ => none

/-- Adds a value under a dotted key, making the tables on the way.  Only tables that dotted keys
made can be extended, except that the first table takes plain keys. -/
def addDotted (es : Entries) (plain : Bool) (path : List Text) (key : Text) (node : Node) :
    Option Entries :=
  match path with
  | [] => if plain then es.add? key node else none
  | step :: path =>
    match es.lookup step with
    | none => do
      let inner ← addDotted [] true path key node
      return es ++ [(step, .table .dotted inner)]
    | some (.table origin inner) =>
      if origin = .header then none
      else do
        let inner ← addDotted inner (origin = .dotted) path key node
        return es.put step (.table origin inner)
    | some (.tables elements) =>
      match elements.reverse with
      | .table origin inner :: before => do
        let inner ← addDotted inner false path key node
        return es.put step (.tables (before.reverse ++ [.table origin inner]))
      | _ => none
    | some _ => none

/-- Adds a value under a dotted key inside of braces. -/
def addInline (es : Entries) (path : List Text) (key : Text) (node : Node) : Option Entries :=
  match path with
  | [] => es.add? key node
  | step :: path =>
    match es.lookup step with
    | none => do
      let inner ← addInline [] path key node
      return es ++ [(step, .inlineTable true inner)]
    | some (.inlineTable true inner) => do
      let inner ← addInline inner path key node
      return es.put step (.inlineTable true inner)
    | some _ => none

end Entries

end Relay.Toml
