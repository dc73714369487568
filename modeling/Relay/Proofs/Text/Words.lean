import Mathlib.Data.List.Induction
import Mathlib.Data.List.TakeWhile
import Relay.Text.Basic

/-!
# Pieces, words and trimming

Cutting a list at its separators undoes putting the parts together: a separator between two lists
parts their pieces (`pieces_append_cons`), and a list can be followed piece by piece
(`separatorRec`).  The words of a text follow the same rule at its blanks
(`Text.words_append_cons`), so blanks at its ends do not count (`Text.words_trim`) and words joined
by a blank are the words again (`Text.words_join`).
-/

namespace Relay

/-! ## Pieces -/

section Pieces

variable {α : Type} {sep : α → Bool}

theorem consFirst_append {a : α} {ps : List (List α)} (h : ps ≠ []) (qs : List (List α)) :
    consFirst a (ps ++ qs) = consFirst a ps ++ qs := by
  cases ps with
  | nil => contradiction
  | cons p ps => rfl

theorem pieces_append_cons {a : α} (ha : sep a = true) (x y : List α) :
    pieces sep (x ++ a :: y) = pieces sep x ++ pieces sep y := by
  induction x with
  | nil => simp [pieces_cons, ha]
  | cons b x ih =>
    rw [List.cons_append, pieces_cons, pieces_cons, ih]
    split
    · rfl
    · exact consFirst_append (pieces_ne_nil sep x) _

theorem pieces_of_forall_not {x : List α} (h : ∀ a ∈ x, sep a = false) : pieces sep x = [x] := by
  induction x with
  | nil => rfl
  | cons a x ih =>
    obtain ⟨ha, hx⟩ := List.forall_mem_cons.1 h
    rw [pieces_cons, ha, ih hx]
    rfl

/-- A list is followed piece by piece: it holds no separator, or it is a piece and a separator in
front of a further list. -/
theorem separatorRec (sep : α → Bool) {P : List α → Prop}
    (rest : ∀ p, (∀ a ∈ p, sep a = false) → P p)
    (piece : ∀ p a r, (∀ b ∈ p, sep b = false) → sep a = true → P r → P (p ++ a :: r))
    (x : List α) : P x := by
  have all : ∀ x p : List α, (∀ a ∈ p, sep a = false) → P (p ++ x) := by
    intro x
    induction x with
    | nil =>
      intro p hp
      rw [List.append_nil]
      exact rest p hp
    | cons a x ih =>
      intro p hp
      cases ha : sep a with
      | true => exact piece p a x hp ha (ih [] nofun)
      | false =>
        rw [List.append_cons]
        refine ih _ fun b hb => ?_
        rcases List.mem_append.1 hb with hb | hb
        · exact hp b hb
        · rwa [List.mem_singleton.1 hb]
  exact all x [] nofun

/-! ### Pieces at one element -/

section Element

variable [BEq α] [LawfulBEq α] {a : α} {p : List α}

theorem forall_beq_eq_false_iff : (∀ b ∈ p, (b == a) = false) ↔ a ∉ p := by
  constructor
  · intro h ha
    have hself := h a ha
    rw [beq_self_eq_true] at hself
    cases hself
  · intro h b hb
    rw [beq_eq_false_iff_ne]
    rintro rfl
    exact h hb

theorem pieces_of_not_mem (h : a ∉ p) : pieces (· == a) p = [p] :=
  pieces_of_forall_not (forall_beq_eq_false_iff.2 h)

theorem pieces_append_of_not_mem (h : a ∉ p) (r : List α) :
    pieces (· == a) (p ++ a :: r) = p :: pieces (· == a) r := by
  refine (pieces_append_cons ?_ p r).trans ?_
  · exact beq_self_eq_true a
  · rw [pieces_of_not_mem h]
    rfl

/-- A list is followed from one occurrence of an element to the next. -/
theorem pieceRec (a : α) {P : List α → Prop} (rest : ∀ p, a ∉ p → P p)
    (piece : ∀ p r, a ∉ p → P r → P (p ++ a :: r)) (x : List α) : P x := by
  induction x using separatorRec (· == a) with
  | rest p hp => exact rest p (forall_beq_eq_false_iff.1 hp)
  | piece p b r hp hb ih =>
    rw [beq_iff_eq.1 hb]
    exact piece p r (forall_beq_eq_false_iff.1 hp) ih

end Element

theorem pieces_congr {sep' : α → Bool} {x : List α} (h : ∀ a ∈ x, sep a = sep' a) :
    pieces sep x = pieces sep' x := by
  induction x with
  | nil => rfl
  | cons a x ih =>
    obtain ⟨ha, hx⟩ := List.forall_mem_cons.1 h
    rw [pieces_cons, pieces_cons, ha, ih hx]

theorem pieces_eq_concat (x : List α) :
    pieces sep x = (pieces sep x).dropLast ++ [(pieces sep x).getLastD []] := by
  have h := pieces_ne_nil sep x
  rw [List.getLastD_eq_getLast?, List.getLast?_eq_some_getLast h]
  exact (List.dropLast_concat_getLast h).symm

theorem pieces_append (x y : List α) :
    pieces sep (x ++ y) =
      (pieces sep x).dropLast ++ pieces sep ((pieces sep x).getLastD [] ++ y) := by
  induction x with
  | nil => rfl
  | cons a x ih =>
    rw [List.cons_append, pieces_cons, pieces_cons, ih]
    have hne := pieces_ne_nil sep x
    split
    · rw [List.dropLast_cons_of_ne_nil hne, List.cons_append]
      cases hps : pieces sep x with
      | nil => contradiction
      | cons p ps => rfl
    · rename_i ha
      cases hps : pieces sep x with
      | nil => contradiction
      | cons p ps =>
        cases ps with
        | nil =>
          show consFirst a (pieces sep (p ++ y)) = pieces sep (a :: (p ++ y))
          rw [pieces_cons, if_neg ha]
        | cons q qs => rfl

theorem of_mem_pieces {x p : List α} (hp : p ∈ pieces sep x) :
    ∀ a ∈ p, a ∈ x ∧ sep a = false := by
  induction x generalizing p with
  | nil =>
    rw [pieces_nil, List.mem_singleton] at hp
    subst hp
    nofun
  | cons b x ih =>
    have later : ∀ {q}, q ∈ pieces sep x → ∀ a ∈ q, a ∈ b :: x ∧ sep a = false :=
      fun hq a ha => ⟨List.mem_cons_of_mem _ (ih hq a ha).1, (ih hq a ha).2⟩
    rw [pieces_cons] at hp
    split at hp
    · rcases List.mem_cons.1 hp with rfl | hp
      · nofun
      · exact later hp
    · rename_i hb
      cases hps : pieces sep x with
      | nil => exact absurd hps (pieces_ne_nil sep x)
      | cons q qs =>
        rw [hps] at hp later
        rcases List.mem_cons.1 hp with rfl | hp
        · intro a ha
          rcases List.mem_cons.1 ha with rfl | ha
          · exact ⟨List.mem_cons_self, by simpa using hb⟩
          · exact later List.mem_cons_self a ha
        · exact later (List.mem_cons_of_mem _ hp)

theorem pieces_concat {a : α} (ha : sep a = false) (x : List α) :
    pieces sep (x ++ [a]) = (pieces sep x).dropLast ++ [(pieces sep x).getLastD [] ++ [a]] := by
  have hlast : (pieces sep x).getLastD [] ∈ pieces sep x := by
    rw [List.getLastD_eq_getLast?, List.getLast?_eq_some_getLast (pieces_ne_nil sep x)]
    exact List.getLast_mem _
  have hfree : ∀ b ∈ (pieces sep x).getLastD [] ++ [a], sep b = false := by
    intro b hb
    rcases List.mem_append.1 hb with hb | hb
    · exact (of_mem_pieces hlast b hb).2
    · rwa [List.mem_singleton.1 hb]
  rw [pieces_append, pieces_of_forall_not hfree]

end Pieces

namespace Text

/-! ## Words -/

@[simp] theorem isBlank_space : isBlank ' ' = true := by decide

/-- A text with characters and no blank among them. -/
structure IsWord (t : Text) : Prop where
  ne_nil : t ≠ []
  noBlank : ∀ c ∈ t, isBlank c = false

theorem IsWord.not_mem {t : Text} (h : t.IsWord) {c : Char} (hc : isBlank c = true) : c ∉ t := by
  intro hm
  rw [h.noBlank c hm] at hc
  cases hc

@[simp] theorem words_nil : words [] = [] := rfl

theorem words_append_cons {c : Char} (hc : isBlank c = true) (x y : Text) :
    words (x ++ c :: y) = words x ++ words y := by
  unfold words
  rw [pieces_append_cons hc, List.filter_append]

theorem words_cons {c : Char} (hc : isBlank c = true) (y : Text) : words (c :: y) = words y :=
  words_append_cons hc [] y

theorem words_concat {c : Char} (hc : isBlank c = true) (x : Text) :
    words (x ++ [c]) = words x := by
  rw [words_append_cons hc, words_nil, List.append_nil]

theorem words_ne_nil {c : Char} (hc : isBlank c = false) (t : Text) : words (c :: t) ≠ [] := by
  unfold words
  rw [pieces_cons, hc]
  cases hps : pieces isBlank t with
  | nil => exact absurd hps (pieces_ne_nil _ t)
  | cons p ps => simp [consFirst]

theorem words_eq_nil_iff (t : Text) : words t = [] ↔ ∀ c ∈ t, isBlank c = true := by
  induction t with
  | nil => simp
  | cons c t ih =>
    rw [List.forall_mem_cons]
    by_cases hc : isBlank c = true
    · rw [words_cons hc, ih, and_iff_right hc]
    · have hne := words_ne_nil (by simpa using hc) t
      exact iff_of_false hne fun h => hc h.1

theorem IsWord.words {t : Text} (h : t.IsWord) : words t = [t] := by
  unfold Text.words
  rw [pieces_of_forall_not h.noBlank]
  simp [h.ne_nil]

theorem isWord_of_mem_words {t w : Text} (h : w ∈ words t) : w.IsWord := by
  obtain ⟨hw, hne⟩ := List.mem_filter.1 h
  exact ⟨by simpa using hne, fun c hc => (of_mem_pieces hw c hc).2⟩

theorem mem_of_mem_words {t w : Text} (h : w ∈ words t) {c : Char} (hc : c ∈ w) : c ∈ t :=
  (of_mem_pieces (List.mem_filter.1 h).1 c hc).1

theorem join_cons_cons (sep t u : Text) (ts : List Text) :
    join sep (t :: u :: ts) = t ++ (sep ++ join sep (u :: ts)) := by
  simp [join, List.intercalate_cons_cons]

@[simp] theorem join_singleton (sep t : Text) : join sep [t] = t := List.intercalate_singleton

@[simp] theorem join_nil (sep : Text) : join sep [] = [] := rfl

/-- Without a separator joining is concatenation. -/
theorem join_of_nil (ts : List Text) : join [] ts = ts.flatten := by
  induction ts with
  | nil => rfl
  | cons t ts ih =>
    cases ts with
    | nil => simp
    | cons u us =>
      rw [join_cons_cons, ih]
      rfl

theorem exists_join_cons (sep t : Text) (ts : List Text) : ∃ r, join sep (t :: ts) = t ++ r := by
  cases ts with
  | nil => exact ⟨[], by rw [join_singleton, List.append_nil]⟩
  | cons u us => exact ⟨_, join_cons_cons sep t u us⟩

theorem mem_join {sep : Text} {ts : List Text} {c : Char} (h : c ∈ join sep ts) :
    c ∈ sep ∨ ∃ t ∈ ts, c ∈ t := by
  induction ts with
  | nil => cases h
  | cons t ts ih =>
    cases ts with
    | nil =>
      rw [join_singleton] at h
      exact .inr ⟨t, List.mem_cons_self, h⟩
    | cons u us =>
      rw [join_cons_cons, List.mem_append, List.mem_append] at h
      rcases h with h | h | h
      · exact .inr ⟨t, List.mem_cons_self, h⟩
      · exact .inl h
      · rcases ih h with hsep | ⟨v, hv, hc⟩
        · exact .inl hsep
        · exact .inr ⟨v, List.mem_cons_of_mem _ hv, hc⟩

theorem not_mem_join {sep : Text} {ts : List Text} {c : Char} (hsep : c ∉ sep)
    (h : ∀ t ∈ ts, c ∉ t) : c ∉ join sep ts := by
  intro hc
  rcases mem_join hc with hc | ⟨t, ht, hc⟩
  · exact hsep hc
  · exact h t ht hc

theorem pieces_join {sep : Char → Bool} {a : Char} (ha : sep a = true) {ts : List Text}
    (hne : ts ≠ []) (h : ∀ t ∈ ts, ∀ c ∈ t, sep c = false) : pieces sep (join [a] ts) = ts := by
  induction ts with
  | nil => contradiction
  | cons t ts ih =>
    obtain ⟨ht, hts⟩ := List.forall_mem_cons.1 h
    cases ts with
    | nil => rw [join_singleton, pieces_of_forall_not ht]
    | cons u ts =>
      rw [join_cons_cons, List.singleton_append, pieces_append_cons ha, pieces_of_forall_not ht,
        ih (List.cons_ne_nil u ts) hts]
      rfl

theorem join_pieces (a : Char) (t : Text) : join [a] (pieces (· == a) t) = t := by
  induction t with
  | nil => rfl
  | cons c t ih =>
    rw [pieces_cons]
    split
    · rename_i hc
      obtain ⟨p, ps, hps⟩ := List.exists_cons_of_ne_nil (pieces_ne_nil (· == a) t)
      rw [hps, join_cons_cons, ← hps, ih, beq_iff_eq.1 hc]
      rfl
    · cases hps : pieces (· == a) t with
      | nil => exact absurd hps (pieces_ne_nil _ t)
      | cons p ps =>
        rw [hps] at ih
        conv_rhs => rw [← ih]
        cases ps <;> simp [consFirst, join_cons_cons]

theorem words_join {c : Char} (hc : isBlank c = true) {ts : List Text}
    (h : ∀ t ∈ ts, t.IsWord) : words (join [c] ts) = ts := by
  cases ts with
  | nil => rfl
  | cons t ts =>
    unfold words
    rw [pieces_join hc (List.cons_ne_nil t ts) fun u hu => (h u hu).noBlank, List.filter_eq_self]
    intro u hu
    simp [(h u hu).ne_nil]

/-! ## Trimming -/

@[simp] theorem trimStart_nil : trimStart [] = [] := rfl

@[simp] theorem trimEnd_nil : trimEnd [] = [] := rfl

theorem trimStart_cons (c : Char) (t : Text) :
    trimStart (c :: t) = if isBlank c then trimStart t else c :: t := by
  unfold trimStart
  rw [List.dropWhile_cons]

theorem trimEnd_concat (t : Text) (c : Char) :
    trimEnd (t ++ [c]) = if isBlank c then trimEnd t else t ++ [c] := by
  unfold trimEnd
  rw [List.reverse_concat, List.dropWhile_cons]
  split <;> simp

section Insensitive

variable {β : Type} {f : Text → β}

/-- If a blank in front makes no difference, trimming at the start makes none. -/
theorem apply_trimStart (hf : ∀ c t, isBlank c = true → f (c :: t) = f t) (t : Text) :
    f (trimStart t) = f t := by
  induction t with
  | nil => rfl
  | cons c t ih =>
    rw [trimStart_cons]
    split
    · rename_i hc
      rw [ih, hf c t hc]
    · rfl

theorem apply_trimEnd (hf : ∀ t c, isBlank c = true → f (t ++ [c]) = f t) (t : Text) :
    f (trimEnd t) = f t := by
  induction t using List.reverseRecOn with
  | nil => rfl
  | append_singleton t c ih =>
    rw [trimEnd_concat]
    split
    · rename_i hc
      rw [ih, hf t c hc]
    · rfl

end Insensitive

/-- Trimming at the end stops at a character that is not blank. -/
theorem trimEnd_append_cons {c : Char} (hc : isBlank c = false) (x y : Text) :
    trimEnd (x ++ c :: y) = x ++ c :: trimEnd y := by
  induction y using List.reverseRecOn with
  | nil =>
    rw [trimEnd_concat, hc, trimEnd_nil]
    rfl
  | append_singleton y d ih =>
    rw [← List.cons_append, ← List.append_assoc, trimEnd_concat, trimEnd_concat]
    split
    · exact ih
    · simp

theorem IsWord.trimEnd_append {w : Text} (hw : w.IsWord) (x y : Text) :
    trimEnd (x ++ (w ++ y)) = x ++ (w ++ trimEnd y) := by
  obtain ⟨c, hc⟩ : ∃ c, w = w.dropLast ++ [c] :=
    ⟨w.getLast hw.ne_nil, (List.dropLast_concat_getLast hw.ne_nil).symm⟩
  have hblank : isBlank c = false := by
    refine hw.noBlank c ?_
    rw [hc]
    exact List.mem_append_right _ (List.mem_singleton_self c)
  rw [hc, List.append_assoc, List.append_assoc, ← List.append_assoc x, List.singleton_append,
    trimEnd_append_cons hblank, List.singleton_append, List.append_assoc]

/-- Trimming at the start does not reach past a text that is not blank. -/
theorem trimStart_append {x : Text} (h : trimStart x ≠ []) (y : Text) :
    trimStart (x ++ y) = trimStart x ++ y := by
  induction x with
  | nil => exact absurd rfl h
  | cons c x ih =>
    rw [trimStart_cons] at h
    rw [List.cons_append, trimStart_cons, trimStart_cons]
    split
    · rename_i hc
      rw [if_pos hc] at h
      exact ih h
    · rfl

theorem trimStart_append_of_blank {b : Text} (hb : ∀ c ∈ b, isBlank c = true) (t : Text) :
    trimStart (b ++ t) = trimStart t := by
  unfold trimStart
  exact List.dropWhile_append_of_pos hb

theorem forall_blank_of_trimStart {t : Text} (h : trimStart t = []) : ∀ c ∈ t, isBlank c = true :=
  List.dropWhile_eq_nil_iff.1 h

theorem trimEnd_append_of_blank {b : Text} (hb : ∀ c ∈ b, isBlank c = true) (t : Text) :
    trimEnd (t ++ b) = trimEnd t := by
  unfold trimEnd
  rw [List.reverse_append, List.dropWhile_append_of_pos]
  simpa using hb

theorem trimStart_of_cons {c : Char} (hc : isBlank c = false) (t : Text) :
    trimStart (c :: t) = c :: t := by
  rw [trimStart_cons, hc]
  rfl

theorem trim_cons {c : Char} (hc : isBlank c = true) (t : Text) : trim (c :: t) = trim t := by
  unfold trim
  rw [trimStart_cons, if_pos hc]

theorem trimStart_trimEnd (t : Text) : trimStart (trimEnd t) = trimEnd (trimStart t) := by
  -- a blank in front makes no difference, whether or not anything is left behind it
  have front : ∀ {c : Char}, isBlank c = true → ∀ t : Text,
      trimStart (trimEnd (c :: t)) = trimStart (trimEnd t) := by
    intro c hc t
    induction t using List.reverseRecOn with
    | nil =>
      rw [← List.nil_append [c], trimEnd_concat, if_pos hc]
    | append_singleton t d ih =>
      rw [← List.cons_append, trimEnd_concat, trimEnd_concat]
      split
      · exact ih
      · rw [List.cons_append, trimStart_cons, if_pos hc]
  induction t with
  | nil => rfl
  | cons c t ih =>
    by_cases hc : isBlank c = true
    · rw [front hc, trimStart_cons, if_pos hc, ih]
    · have hc' : isBlank c = false := by simpa using hc
      rw [trimStart_of_cons hc', ← List.nil_append (c :: t), trimEnd_append_cons hc',
        List.nil_append, trimStart_of_cons hc']

theorem trimEnd_trimEnd (t : Text) : trimEnd (trimEnd t) = trimEnd t :=
  apply_trimEnd (fun t c hc => by rw [trimEnd_concat, if_pos hc]) t

theorem trim_trimEnd (t : Text) : trim (trimEnd t) = trim t := by
  unfold trim
  rw [trimStart_trimEnd, trimEnd_trimEnd]

theorem trim_trimStart (t : Text) : trim (trimStart t) = trim t :=
  apply_trimStart (fun _ t hc => trim_cons hc t) t

theorem isPrefix_trimEnd (t : Text) : trimEnd t <+: t := by
  rw [← List.reverse_suffix, trimEnd, List.reverse_reverse]
  exact List.dropWhile_suffix _

theorem isInfix_trim (t : Text) : trim t <:+: t :=
  (isPrefix_trimEnd (trimStart t)).isInfix.trans (List.dropWhile_suffix _).isInfix

theorem trim_trim (t : Text) : trim (trim t) = trim t :=
  calc trim (trim t) = trim (trimStart t) := trim_trimEnd (trimStart t)
    _ = trim t := trim_trimStart t

theorem trim_append_cons {c : Char} (hc : isBlank c = false) (x y : Text) :
    trim (x ++ c :: y) = trimStart x ++ c :: trimEnd y := by
  have hstart : trimStart (x ++ c :: y) = trimStart x ++ c :: y := by
    by_cases hx : trimStart x = []
    · rw [trimStart_append_of_blank (forall_blank_of_trimStart hx), hx, trimStart_of_cons hc]
      rfl
    · exact trimStart_append hx _
  rw [trim, hstart, trimEnd_append_cons hc]

theorem exists_trim (t : Text) : ∃ b b' : Text, (∀ c ∈ b, isBlank c = true) ∧
    (∀ c ∈ b', isBlank c = true) ∧ t = b ++ trim t ++ b' := by
  refine ⟨t.takeWhile isBlank, ((trimStart t).reverse.takeWhile isBlank).reverse,
    fun c hc => List.mem_takeWhile_imp hc,
    fun c hc => List.mem_takeWhile_imp (List.mem_reverse.1 hc), ?_⟩
  have hend : trim t ++ ((trimStart t).reverse.takeWhile isBlank).reverse = trimStart t := by
    unfold trim trimEnd
    rw [← List.reverse_append, List.takeWhile_append_dropWhile, List.reverse_reverse]
  rw [List.append_assoc, hend]
  exact List.takeWhile_append_dropWhile.symm

theorem trim_of_between {b b' : Text} (hb : ∀ c ∈ b, isBlank c = true)
    (hb' : ∀ c ∈ b', isBlank c = true) (t : Text) : trim (b ++ t ++ b') = trim t := by
  unfold trim
  rw [← trimStart_trimEnd, trimEnd_append_of_blank hb', trimStart_trimEnd,
    trimStart_append_of_blank hb]

/-- A trimmed text is empty or starts with a visible character. -/
theorem trim_cases (t : Text) : trim t = [] ∨ ∃ c r, isBlank c = false ∧ trim t = c :: r := by
  induction t with
  | nil => exact .inl rfl
  | cons c t ih =>
    by_cases hc : isBlank c = true
    · rwa [trim_cons hc]
    · have hc' : isBlank c = false := by simpa using hc
      refine .inr ⟨c, trimEnd t, hc', ?_⟩
      rw [trim, trimStart_of_cons hc']
      exact trimEnd_append_cons hc' [] t

theorem words_trim (t : Text) : words (trim t) = words t := by
  unfold trim
  rw [apply_trimEnd fun t _ hc => words_concat hc t, apply_trimStart fun _ t hc => words_cons hc t]

theorem trim_eq_nil_iff (t : Text) : trim t = [] ↔ ∀ c ∈ t, isBlank c = true := by
  constructor
  · intro h
    rw [← words_eq_nil_iff, ← words_trim, h, words_nil]
  · intro h
    have hstart : trimStart t = [] := List.dropWhile_eq_nil_iff.2 h
    rw [trim, hstart, trimEnd_nil]

end Text

end Relay
