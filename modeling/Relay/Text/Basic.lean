/-!
# Text

A text is a list of Unicode characters: tokens, redirect targets, file lines and captured lines are
all texts.  This module holds what commands are cut with: the blank characters and trimming, the
pieces of a list between separators, words, the lines of a file, and the occurrences of a
delimiter.
-/

namespace Relay

/-- A finite sequence of Unicode characters. -/
abbrev Text := List Char

/-! ## Pieces of a list -/

/-- Puts an element in front of the first of some pieces. -/
def consFirst {α : Type} (a : α) : List (List α) → List (List α)
  | [] => [[a]]
  | p :: ps => (a :: p) :: ps

/-- The pieces of a list between the elements that `sep` accepts; there is always at least one. -/
def pieces {α : Type} (sep : α → Bool) (l : List α) : List (List α) :=
  l.foldr (fun a ps => if sep a then [] :: ps else consFirst a ps) [[]]

@[simp] theorem pieces_nil {α : Type} (sep : α → Bool) : pieces sep [] = [[]] := rfl

theorem pieces_cons {α : Type} (sep : α → Bool) (a : α) (l : List α) :
    pieces sep (a :: l) = if sep a then [] :: pieces sep l else consFirst a (pieces sep l) := rfl

theorem consFirst_ne_nil {α : Type} (a : α) (ps : List (List α)) : consFirst a ps ≠ [] := by
  cases ps <;> simp [consFirst]

theorem pieces_ne_nil {α : Type} (sep : α → Bool) (l : List α) : pieces sep l ≠ [] := by
  cases l with
  | nil => simp
  | cons a l =>
    rw [pieces_cons]
    split
    · simp
    · exact consFirst_ne_nil _ _

namespace Text

/-! ## Blank characters -/

/-- The characters with the Unicode property White_Space. -/
def isBlank (c : Char) : Bool :=
  let n := c.toNat
  (9 ≤ n && n ≤ 13) || n == 0x20 || n == 0x85 || n == 0xA0 || n == 0x1680
    || (0x2000 ≤ n && n ≤ 0x200A) || n == 0x2028 || n == 0x2029 || n == 0x202F || n == 0x205F
    || n == 0x3000

def trimStart (t : Text) : Text := t.dropWhile isBlank

/-- The text without the blanks it ends with. -/
def trimEnd (t : Text) : Text := (t.reverse.dropWhile isBlank).reverse

/-- The text without the blanks at its two ends. -/
def trim (t : Text) : Text := trimEnd (trimStart t)

/-- The maximal runs of characters that are not blank. -/
def words (t : Text) : List Text := (pieces isBlank t).filter (fun w => !w.isEmpty)

/-! ## Lines -/

/-- Removes one carriage return at the end. -/
def dropReturn (t : Text) : Text :=
  match t.reverse with
  | '\r' :: r => r.reverse
  | _ => t

/-- The lines of a file: each ends with a line feed, or a carriage return and a line feed, which do
not belong to it; what follows the last line feed is a line if it is not empty, and keeps its
carriage return. -/
def lines (t : Text) : List Text :=
  let ps := pieces (· == '\n') t
  let last := ps.getLastD []
  ps.dropLast.map dropReturn ++ (if last.isEmpty then [] else [last])

/-! ## Delimiters -/

/-- The number of positions where the delimiter starts. -/
def occurrences (d : Text) : Text → Nat
  | [] => 0
  | c :: t => (if d.isPrefixOf (c :: t) then 1 else 0) + occurrences d t

/-- The texts before and after the first occurrence of a delimiter. -/
def cut? (d : Text) : Text → Option (Text × Text)
  | [] => none
  | c :: t =>
    if d.isPrefixOf (c :: t) then some ([], (c :: t).drop d.length)
    else (cut? d t).map fun (before, after) => (c :: before, after)

/-- The texts put one after another with a separator between neighbours. -/
def join (sep : Text) (ts : List Text) : Text := sep.intercalate ts

end Text

end Relay
