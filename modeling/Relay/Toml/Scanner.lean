import Relay.Text.Basic

/-!
# Scanning

Small steps over a text.  A scan takes something off the front of a text and answers it with the
rest, or fails.  Repetition is bounded by the length of the text, since every repeated scan takes
at least one character.
-/

namespace Relay.Toml

/-- Takes something off the front of a text. -/
abbrev Scan (α : Type) := Text → Option (α × Text)

namespace Scan

variable {α β : Type}

/-- Takes nothing. -/
def succeed (a : α) : Scan α := fun t => some (a, t)

def andThen (p : Scan α) (q : α → Scan β) : Scan β := fun t =>
  match p t with
  | some (a, rest) => q a rest
  | none => none

instance : Monad Scan where
  pure := succeed
  bind := andThen

/-- Fails. -/
def refuse : Scan α := fun _ => none

/-- The first scan, or the second one where the first fails. -/
def orElse (p q : Scan α) : Scan α := fun t => p t <|> q t

/-- A scan, or nothing where it fails. -/
def optional (p : Scan α) : Scan (Option α) := fun t =>
  match p t with
  | some (a, rest) => some (some a, rest)
  | none => some (none, t)

def one (accept : Char → Bool) : Scan Char
  | c :: t => if accept c then some (c, t) else none
  | [] => none

def char (c : Char) : Scan Char := one (· == c)

def exact (wanted : Text) : Scan Text := fun t =>
  if wanted.isPrefixOf t then some (wanted, t.drop wanted.length) else none

/-- As many characters of a class as there are. -/
def run (accept : Char → Bool) : Scan Text := fun t =>
  some (t.takeWhile accept, t.dropWhile accept)

/-- At least one character of a class, and as many as there are. -/
def run1 (accept : Char → Bool) : Scan Text := fun t =>
  if (t.takeWhile accept).isEmpty then none else run accept t

def exactly (n : Nat) (accept : Char → Bool) : Scan Text := fun t =>
  if (t.take n).length = n ∧ (t.take n).all accept then some (t.take n, t.drop n) else none

/-- The next character, which stays. -/
def peek : Scan (Option Char) := fun t => some (t.head?, t)

/-- Succeeds at the end of the text. -/
def atEnd : Scan Unit := fun t => if t.isEmpty then some ((), t) else none

/-- A scan as often as it succeeds and takes something, at most `bound` times. -/
def manyUpTo (p : Scan α) : Nat → Scan (List α)
  | 0 => succeed []
  | bound + 1 => fun t =>
    match p t with
    | some (a, rest) =>
      if rest.length < t.length then
        match manyUpTo p bound rest with
        | some (as, rest) => some (a :: as, rest)
        | none => none
      else some ([], t)
    | none => some ([], t)

/-- A scan as often as it succeeds and takes something. -/
def many (p : Scan α) : Scan (List α) := fun t => manyUpTo p t.length t

end Scan

end Relay.Toml
