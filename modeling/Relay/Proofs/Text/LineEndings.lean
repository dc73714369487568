import Relay.Proofs.Text.LineCodec

/-!
# Line endings

Two things can be asked of the lines that are read from some bytes.

1. Are they the lines that were written?  A line feed inside a line cuts it, and a carriage return
   at its end is taken for a part of the line's ending, so the lines are read back exactly if they
   have neither (`decodeLines_encodeLines_eq_iff`).
2. Are they what lies between the line endings?  `plainLines` takes from each piece its own ending,
   a line feed or a carriage return and a line feed.  Reading takes the carriage return of a last
   piece that has no line feed as well, and differs in nothing else
   (`decodeLines_eq_plainLines_iff`).
-/

namespace Relay.Text

/-! ## Carriage returns -/

theorem dropReturn_concat (t : Text) (c : Char) :
    dropReturn (t ++ [c]) = if c = '\r' then t else t ++ [c] := by
  unfold dropReturn
  rw [List.reverse_concat]
  split
  · rename_i h
    obtain ⟨rfl, rfl⟩ := List.cons.inj h
    rw [if_pos rfl, List.reverse_reverse]
  · rename_i h
    rw [if_neg]
    rintro rfl
    exact h _ rfl

theorem dropReturn_eq_self_iff (t : Text) : dropReturn t = t ↔ t.getLast? ≠ some '\r' := by
  induction t using List.reverseRecOn with
  | nil => exact iff_of_true rfl nofun
  | append_singleton t c =>
    rw [dropReturn_concat, List.getLast?_concat, ne_eq, Option.some.injEq]
    split
    · rename_i hc
      exact iff_of_false (by simp) (fun h => h hc)
    · rename_i hc
      exact iff_of_true rfl hc

theorem stripReturn_concat_return (l : Bytes) : stripReturn (l ++ [carriageReturn]) = l := by
  rw [stripReturn, List.getLast?_concat, if_pos rfl, List.dropLast_concat]

theorem stripReturn_of_ne {l : Bytes} (h : l.getLast? ≠ some carriageReturn) : stripReturn l = l :=
  if_neg h

theorem getLast?_utf8_concat (t : Text) (c : Char) :
    (utf8 (t ++ [c])).getLast? = some carriageReturn ↔ c = '\r' := by
  have hlast : (utf8 (t ++ [c])).getLast? = (encodeChar c).getLast? := by
    have hone : utf8 [c] = encodeChar c := List.append_nil _
    rw [utf8_append, hone, List.getLast?_append,
      List.getLast?_eq_some_getLast (encodeChar_ne_nil c)]
    rfl
  rw [hlast]
  constructor
  · intro h
    exact encodeChar_of_ascii (by decide) (List.mem_of_getLast? h)
  · rintro rfl
    rfl

theorem getLast?_utf8_eq_return_iff (t : Text) :
    (utf8 t).getLast? = some carriageReturn ↔ t.getLast? = some '\r' := by
  induction t using List.reverseRecOn with
  | nil => exact iff_of_false nofun nofun
  | append_singleton t c =>
    rw [getLast?_utf8_concat, List.getLast?_concat, Option.some.injEq]

theorem stripReturn_utf8 (t : Text) : stripReturn (utf8 t) = utf8 (dropReturn t) := by
  induction t using List.reverseRecOn with
  | nil => rfl
  | append_singleton t c =>
    rw [dropReturn_concat]
    split
    · rename_i hc
      subst hc
      rw [utf8_append]
      exact stripReturn_concat_return _
    · rename_i hc
      exact stripReturn_of_ne fun h => hc ((getLast?_utf8_concat t c).1 h)

/-! ## Lines that were written -/

theorem count_lineFeed_utf8 (t : Text) : (utf8 t).count lineFeed = t.count '\n' := by
  induction t with
  | nil => rfl
  | cons c t ih =>
    rw [utf8_cons, List.count_append, ih]
    by_cases hc : c = '\n'
    · subst hc
      rw [List.count_cons_self]
      exact Nat.add_comm _ _
    · have hnot : lineFeed ∉ encodeChar c := fun h => hc (encodeChar_of_ascii (by decide) h)
      rw [List.count_eq_zero_of_not_mem hnot, List.count_cons_of_ne hc, Nat.zero_add]

theorem lineFeed_not_mem_utf8 {t : Text} (h : '\n' ∉ t) : lineFeed ∉ utf8 t := by
  rw [← List.count_eq_zero, count_lineFeed_utf8, List.count_eq_zero]
  exact h

theorem decodeLine_utf8 (t : Text) : decodeLine (utf8 t) = dropReturn t := by
  rw [decodeLine, stripReturn_utf8, ofUtf8Lossy_utf8]

/-- Lines without line feeds are read back without their carriage returns. -/
theorem decodeLines_encodeLines {ls : List Text} (h : ∀ l ∈ ls, '\n' ∉ l) :
    decodeLines (encodeLines ls) = ls.map dropReturn := by
  induction ls with
  | nil => rfl
  | cons l ls ih =>
    obtain ⟨hl, hls⟩ := List.forall_mem_cons.1 h
    rw [encodeLines_cons, decodeLines_append_lineFeed (lineFeed_not_mem_utf8 hl), decodeLine_utf8,
      ih hls]
    rfl

theorem terminated_encodeLines (ls : List Text) : terminated (encodeLines ls) = encodeLines ls := by
  induction ls with
  | nil => rfl
  | cons l ls ih => rw [encodeLines_cons, terminated_append_lineFeed, ih]

/-- Each line feed inside a line makes one line more. -/
theorem length_decodeLines_encodeLines (ls : List Text) :
    (decodeLines (encodeLines ls)).length = ls.length + ls.flatten.count '\n' := by
  rw [length_decodeLines, terminated_encodeLines]
  induction ls with
  | nil => rfl
  | cons l ls ih =>
    rw [encodeLines_cons, List.count_append, List.count_cons_self, count_lineFeed_utf8, ih,
      List.length_cons, List.flatten_cons, List.count_append]
    omega

theorem decodeLines_encodeLines_eq_iff (ls : List Text) :
    decodeLines (encodeLines ls) = ls ↔ ∀ l ∈ ls, '\n' ∉ l ∧ l.getLast? ≠ some '\r' := by
  have same : (∀ l ∈ ls, '\n' ∉ l) →
      (decodeLines (encodeLines ls) = ls ↔ ∀ l ∈ ls, l.getLast? ≠ some '\r') := by
    intro h
    have hmap : ls.map dropReturn = ls.map id ↔ ∀ l ∈ ls, dropReturn l = l := List.map_inj_left
    rw [decodeLines_encodeLines h, ← forall₂_congr fun l _ => dropReturn_eq_self_iff l, ← hmap,
      List.map_id]
  constructor
  · intro h
    have hfree : ∀ l ∈ ls, '\n' ∉ l := by
      have hlength := length_decodeLines_encodeLines ls
      rw [h, Nat.left_eq_add, List.count_eq_zero] at hlength
      exact fun l hl hnl => hlength (List.mem_flatten_of_mem hl hnl)
    exact fun l hl => ⟨hfree l hl, (same hfree).1 h l hl⟩
  · intro h
    exact (same fun l hl => (h l hl).1).2 fun l hl => (h l hl).2

/-! ## Plain lines -/

/-- The pieces of some bytes that end with a line feed, and what follows the last one if that is
not empty. -/
def splitAfter : Bytes → List Bytes
  | [] => []
  | a :: b => if a = lineFeed then [a] :: splitAfter b else consFirst a (splitAfter b)

/-- A piece without its own line ending: a line feed, or a carriage return and a line feed. -/
def stripEnding (p : Bytes) : Bytes :=
  if p.getLast? = some lineFeed then stripReturn p.dropLast else p

/-- The lines of some bytes if nothing but line endings is taken away. -/
def plainLines (b : Bytes) : List Text := (splitAfter b).map fun p => ofUtf8Lossy (stripEnding p)

section Line

variable {l : Bytes} (hl : lineFeed ∉ l)
include hl

theorem splitAfter_of_not_mem (hne : l ≠ []) : splitAfter l = [l] := by
  induction l with
  | nil => contradiction
  | cons a l ih =>
    rw [List.mem_cons, not_or] at hl
    rw [splitAfter, if_neg (Ne.symm hl.1)]
    cases l with
    | nil => rfl
    | cons b l =>
      rw [ih hl.2 (List.cons_ne_nil b l)]
      rfl

theorem splitAfter_append_lineFeed (r : Bytes) :
    splitAfter (l ++ lineFeed :: r) = (l ++ [lineFeed]) :: splitAfter r := by
  induction l with
  | nil => rw [List.nil_append, splitAfter, if_pos rfl]; rfl
  | cons a l ih =>
    rw [List.mem_cons, not_or] at hl
    rw [List.cons_append, splitAfter, if_neg (Ne.symm hl.1), ih hl.2]
    rfl

example : splitAfter [97, 13, 10, 10, 98, 13] = [[97, 13, 10], [10], [98, 13]] := by decide

theorem plainLines_of_not_mem (hne : l ≠ []) : plainLines l = [ofUtf8Lossy l] := by
  have hlast : l.getLast? ≠ some lineFeed := fun h => hl (List.mem_of_getLast? h)
  rw [plainLines, splitAfter_of_not_mem hl hne, List.map_singleton, stripEnding, if_neg hlast]

theorem plainLines_append_lineFeed (r : Bytes) :
    plainLines (l ++ lineFeed :: r) = decodeLine l :: plainLines r := by
  rw [plainLines, splitAfter_append_lineFeed hl, List.map_cons, stripEnding, List.getLast?_concat,
    if_pos rfl, List.dropLast_concat]
  rfl

end Line

/-- What is read is what a line feed at the end would make of the bytes. -/
theorem decodeLines_eq_plainLines (b : Bytes) : decodeLines b = plainLines (terminated b) := by
  induction b using lineRec with
  | rest l hl =>
    rw [decodeLines_of_not_mem hl]
    by_cases hne : l = []
    · subst hne
      rfl
    · rw [terminated_of_not_mem hl hne, plainLines_append_lineFeed hl]
      simp [decodeRest, hne, plainLines, splitAfter]
  | line l r hl ih =>
    rw [decodeLines_append_lineFeed hl, ih, terminated_append_lineFeed,
      plainLines_append_lineFeed hl]

theorem decodeLine_eq_iff (l : Bytes) :
    decodeLine l = ofUtf8Lossy l ↔ l.getLast? ≠ some carriageReturn := by
  by_cases h : l.getLast? = some carriageReturn
  · obtain ⟨l, rfl⟩ := List.getLast?_eq_some_iff.1 h
    have happend : ofUtf8Lossy (l ++ [carriageReturn]) = ofUtf8Lossy l ++ ['\r'] := by
      rw [ofUtf8Lossy_append_ascii (by decide), ofUtf8Lossy_nil]
      rfl
    refine iff_of_false ?_ (not_not.2 h)
    rw [decodeLine, stripReturn_concat_return, happend]
    simp
  · refine iff_of_true ?_ h
    rw [decodeLine, stripReturn_of_ne h]

theorem decodeLines_eq_plainLines_iff (b : Bytes) :
    decodeLines b = plainLines b ↔ b.getLast? ≠ some carriageReturn := by
  induction b using lineRec with
  | rest l hl =>
    rw [decodeLines_of_not_mem hl]
    by_cases hne : l = []
    · subst hne
      exact iff_of_true rfl nofun
    · have hrest : decodeRest l = [decodeLine l] := by simp [decodeRest, hne]
      rw [hrest, plainLines_of_not_mem hl hne, ← decodeLine_eq_iff, List.singleton_inj]
  | line l r hl ih =>
    rw [decodeLines_append_lineFeed hl, plainLines_append_lineFeed hl, List.cons_inj_right, ih]
    cases r with
    | nil => exact iff_of_true nofun (by rw [List.getLast?_concat]; decide)
    | cons a r =>
      have hne := List.cons_ne_nil a r
      rw [List.append_cons, List.getLast?_append, List.getLast?_eq_some_getLast hne]
      rfl

/-! ## Plain lines of a text -/

theorem lines_of_not_mem {t : Text} (h : '\n' ∉ t) (hne : t ≠ []) : lines t = [t] := by
  unfold lines
  rw [pieces_of_not_mem h]
  simp [hne]

theorem lines_append_newline {t : Text} (h : '\n' ∉ t) (r : Text) :
    lines (t ++ '\n' :: r) = dropReturn t :: lines r := by
  unfold lines
  rw [pieces_append_of_not_mem h]
  cases hps : pieces (· == '\n') r with
  | nil => exact absurd hps (pieces_ne_nil _ r)
  | cons p ps => rfl

theorem plainLines_utf8 (t : Text) : plainLines (utf8 t) = lines t := by
  induction t using pieceRec '\n' with
  | rest l hl =>
    by_cases hne : l = []
    · subst hne
      rfl
    · have hbytes : utf8 l ≠ [] := by
        obtain ⟨c, l, rfl⟩ := List.exists_cons_of_ne_nil hne
        exact List.append_ne_nil_of_left_ne_nil (encodeChar_ne_nil c) _
      rw [plainLines_of_not_mem (lineFeed_not_mem_utf8 hl) hbytes, ofUtf8Lossy_utf8,
        lines_of_not_mem hl hne]
  | piece l r hl ih =>
    rw [utf8_append, utf8_cons_newline, plainLines_append_lineFeed (lineFeed_not_mem_utf8 hl),
      decodeLine_utf8, ih, lines_append_newline hl]

end Relay.Text
