import Relay.Proofs.Text.Utf8
import Relay.Proofs.Text.Words

/-!
# Lines between two programs

The lines that one program printed are written to the next one as bytes again.  What arrives is
what was printed up to three changes, each made once and to the whole: a missing last line feed is
added (`terminated`), one carriage return before each line feed is dropped (`dropReturns`), and
the rest is decoded lossily and encoded again (`encodeLines_decodeLines`).

Bytes are followed line by line: they hold no line feed, or they are a line, a line feed and
further bytes (`lineRec`).
-/

namespace Relay.Text

/-! ## Bytes line by line -/

/-- Bytes are one unfinished line, or a line with its line feed in front of further bytes. -/
theorem lineRec {P : Bytes → Prop} (rest : ∀ l, lineFeed ∉ l → P l)
    (line : ∀ l r, lineFeed ∉ l → P r → P (l ++ lineFeed :: r)) (b : Bytes) : P b :=
  pieceRec lineFeed rest line b

theorem pieces_lineFeed (b : Bytes) :
    pieces (· == lineFeed) b = (cutLines b).1 ++ [(cutLines b).2] := pieces_eq_concat b

theorem cutLines_eq_of_pieces {b rest : Bytes} {finished : List Bytes}
    (h : pieces (· == lineFeed) b = finished ++ [rest]) : cutLines b = (finished, rest) := by
  unfold cutLines
  rw [h]
  simp

/-- Further bytes go on with the unfinished line. -/
theorem cutLines_append (b c : Bytes) :
    cutLines (b ++ c) =
      ((cutLines b).1 ++ (cutLines ((cutLines b).2 ++ c)).1,
        (cutLines ((cutLines b).2 ++ c)).2) := by
  apply cutLines_eq_of_pieces
  rw [pieces_append, List.append_assoc, ← pieces_lineFeed]
  rfl

section Line

variable {l : Bytes} (hl : lineFeed ∉ l)
include hl

theorem cutLines_of_not_mem : cutLines l = ([], l) :=
  cutLines_eq_of_pieces (pieces_of_not_mem hl)

theorem cutLines_append_lineFeed (r : Bytes) :
    cutLines (l ++ lineFeed :: r) = (l :: (cutLines r).1, (cutLines r).2) := by
  apply cutLines_eq_of_pieces
  rw [pieces_append_of_not_mem hl, pieces_lineFeed r]
  rfl

theorem decodeLines_of_not_mem : decodeLines l = decodeRest l := by
  unfold decodeLines
  rw [cutLines_of_not_mem hl]
  rfl

theorem decodeLines_append_lineFeed (r : Bytes) :
    decodeLines (l ++ lineFeed :: r) = decodeLine l :: decodeLines r := by
  unfold decodeLines
  rw [cutLines_append_lineFeed hl]
  rfl

end Line

/-! ## The three changes -/

/-- Some bytes with a line feed at their end, if there are any bytes. -/
def terminated (b : Bytes) : Bytes :=
  if b = [] ∨ b.getLast? = some lineFeed then b else b ++ [lineFeed]

/-- Some bytes without the one carriage return that may stand directly before each line feed. -/
def dropReturns : Bytes → Bytes
  | [] => []
  | a :: b => if a = carriageReturn ∧ b.head? = some lineFeed then dropReturns b
    else a :: dropReturns b

theorem terminated_of_not_mem {l : Bytes} (hl : lineFeed ∉ l) (hne : l ≠ []) :
    terminated l = l ++ [lineFeed] := by
  have hlast : l.getLast? ≠ some lineFeed := fun h => hl (List.mem_of_getLast? h)
  unfold terminated
  rw [if_neg (not_or.2 ⟨hne, hlast⟩)]

theorem terminated_append_lineFeed (l r : Bytes) :
    terminated (l ++ lineFeed :: r) = l ++ lineFeed :: terminated r := by
  cases r with
  | nil => simp [terminated]
  | cons a r =>
    have hlast : (l ++ lineFeed :: a :: r).getLast? = (a :: r).getLast? := by
      rw [List.append_cons, List.getLast?_append, List.getLast?_cons]
      rfl
    unfold terminated
    rw [hlast]
    by_cases h : (a :: r).getLast? = some lineFeed
    · simp [h]
    · simp [h]

theorem dropReturns_lineFeed (b : Bytes) :
    dropReturns (lineFeed :: b) = lineFeed :: dropReturns b := by
  rw [dropReturns, if_neg fun h => absurd h.1 (by decide)]

theorem stripReturn_cons_cons (a b : UInt8) (l : Bytes) :
    stripReturn (a :: b :: l) = a :: stripReturn (b :: l) := by
  unfold stripReturn
  rw [List.getLast?_cons_cons, List.dropLast_cons_cons]
  split <;> rfl

theorem dropReturns_append_lineFeed {l : Bytes} (hl : lineFeed ∉ l) (r : Bytes) :
    dropReturns (l ++ lineFeed :: r) = stripReturn l ++ lineFeed :: dropReturns r := by
  induction l with
  | nil => exact dropReturns_lineFeed r
  | cons a l ih =>
    have hl' : lineFeed ∉ l := fun h => hl (List.mem_cons_of_mem a h)
    rw [List.cons_append, dropReturns, ih hl']
    cases l with
    | nil =>
      simp only [stripReturn, List.nil_append, List.head?_cons, List.getLast?_singleton,
        List.dropLast_singleton, Option.some.injEq, and_true]
      split <;> rfl
    | cons b l =>
      have hb : b ≠ lineFeed := fun h => hl' (h ▸ List.mem_cons_self)
      rw [stripReturn_cons_cons, if_neg]
      · rfl
      · rintro ⟨-, h⟩
        exact hb (Option.some.inj h)

/-! ## There and back -/

theorem encodeLines_cons (t : Text) (ts : List Text) :
    encodeLines (t :: ts) = utf8 t ++ lineFeed :: encodeLines ts := by
  unfold encodeLines
  rw [List.flatMap_cons, List.append_assoc]
  rfl

/-- What is decoded line by line and written as lines again is the whole with three changes. -/
theorem encodeLines_decodeLines (b : Bytes) :
    encodeLines (decodeLines b) = utf8 (ofUtf8Lossy (dropReturns (terminated b))) := by
  induction b using lineRec with
  | rest l hl =>
    rw [decodeLines_of_not_mem hl]
    by_cases hne : l = []
    · subst hne
      exact (congrArg utf8 ofUtf8Lossy_nil).symm
    · rw [terminated_of_not_mem hl hne, dropReturns_append_lineFeed hl,
        ofUtf8Lossy_append_lineFeed, utf8_append, utf8_cons_newline]
      have hrest : decodeRest l = [decodeLine l] := by simp [decodeRest, hne]
      have hnil : dropReturns [] = [] := rfl
      rw [hrest, encodeLines_cons, hnil, ofUtf8Lossy_nil]
      rfl
  | line l r hl ih =>
    rw [decodeLines_append_lineFeed hl, encodeLines_cons, ih, terminated_append_lineFeed,
      dropReturns_append_lineFeed hl, ofUtf8Lossy_append_lineFeed, utf8_append, utf8_cons_newline]
    rfl

theorem length_decodeLines (b : Bytes) :
    (decodeLines b).length = (terminated b).count lineFeed := by
  induction b using lineRec with
  | rest l hl =>
    rw [decodeLines_of_not_mem hl]
    by_cases hne : l = []
    · subst hne
      rfl
    · rw [terminated_of_not_mem hl hne, List.count_append, List.count_eq_zero_of_not_mem hl]
      simp [decodeRest, hne]
  | line l r hl ih =>
    rw [decodeLines_append_lineFeed hl, List.length_cons, ih, terminated_append_lineFeed,
      List.count_append, List.count_eq_zero_of_not_mem hl, List.count_cons_self, Nat.zero_add]

theorem decodeLines_eq_nil_iff (b : Bytes) : decodeLines b = [] ↔ b = [] := by
  induction b using lineRec with
  | rest l hl =>
    rw [decodeLines_of_not_mem hl]
    simp [decodeRest]
  | line l r hl =>
    rw [decodeLines_append_lineFeed hl]
    simp

end Relay.Text
