import Relay.Proofs.Text.Words

/-!
# Delimiters

A delimiter is a space with a word behind it, the mark.  Since the mark holds no blank, a delimiter
cannot reach across a blank: the occurrences in two texts with a blank between them are counted
apart (`occurrences_append_cons`).  So a text with a delimiter in the middle is cut there as soon as
none occurs before it (`cut?_delimiter`), and blanks at the end of a text do not count
(`occurrences_trimEnd`).
-/

namespace Relay.Text

variable {m : Text}

/-! ## Marks -/

/-- A text does not reach across a character that it does not hold. -/
theorem prefix_append_cons_iff_of_not_mem {c : Char} (hc : c ∉ m) (x y : Text) :
    m <+: x ++ c :: y ↔ m <+: x := by
  refine ⟨fun h => ?_, fun h => h.trans (List.prefix_append _ _)⟩
  rcases Nat.lt_or_ge x.length m.length with hlt | hle
  · have hxy : x ++ [c] <+: x ++ c :: y := by
      rw [List.append_cons x c y]
      exact List.prefix_append _ _
    have hxc : x ++ [c] <+: m := by
      refine List.prefix_of_prefix_length_le hxy h ?_
      rw [List.length_append]
      exact hlt
    exact absurd (hxc.subset (List.mem_append_right _ (List.mem_singleton_self c))) hc
  · exact List.prefix_of_prefix_length_le h (List.prefix_append _ _) hle

/-- A mark does not reach across a blank. -/
theorem IsWord.prefix_append_cons_iff (hm : m.IsWord) {c : Char} (hc : isBlank c = true)
    (x y : Text) : m <+: x ++ c :: y ↔ m <+: x :=
  prefix_append_cons_iff_of_not_mem (hm.not_mem hc) x y

/-! ## Counting -/

theorem occurrences_cons (d : Text) (c : Char) (t : Text) :
    occurrences d (c :: t) = (if d <+: c :: t then 1 else 0) + occurrences d t := by
  simp only [occurrences, List.isPrefixOf_iff_prefix]

theorem occurrences_eq_zero_iff {d : Text} (hd : d ≠ []) (t : Text) :
    occurrences d t = 0 ↔ ¬ d <:+: t := by
  induction t with
  | nil => simp [occurrences, hd]
  | cons c t ih =>
    rw [occurrences_cons, List.infix_cons_iff, not_or, Nat.add_eq_zero_iff, ih]
    simp

theorem occurrences_trim_of_zero {t : Text} (h : occurrences (' ' :: m) t = 0) :
    occurrences (' ' :: m) (trim t) = 0 := by
  rw [occurrences_eq_zero_iff (List.cons_ne_nil _ _)] at h ⊢
  exact fun hi => h (hi.trans (isInfix_trim t))

theorem occurrences_of_not_mem {c : Char} {t : Text} (h : c ∉ t) :
    occurrences (c :: m) t = 0 := by
  rw [occurrences_eq_zero_iff (List.cons_ne_nil c m)]
  intro hi
  exact h (hi.subset List.mem_cons_self)

/-- A character that a delimiter does not hold parts its occurrences. -/
theorem occurrences_append_of_not_mem {d : Text} (hd : d ≠ []) {c : Char} (hc : c ∉ d)
    (x y : Text) : occurrences d (x ++ c :: y) = occurrences d x + occurrences d y := by
  induction x with
  | nil =>
    have hnot : ¬ d <+: c :: y := by
      intro h
      obtain ⟨a, d, rfl⟩ := List.exists_cons_of_ne_nil hd
      obtain ⟨rfl, -⟩ := List.cons_prefix_cons.1 h
      exact hc List.mem_cons_self
    rw [List.nil_append, occurrences_cons, if_neg hnot]
    rfl
  | cons b x ih =>
    have hprefix := prefix_append_cons_iff_of_not_mem hc (b :: x) y
    rw [List.cons_append] at hprefix
    simp only [List.cons_append, occurrences_cons, hprefix, ih, Nat.add_assoc]

section Delimiter

variable (hm : m.IsWord)
include hm

theorem occurrences_append_cons {c : Char} (hc : isBlank c = true) (x y : Text) :
    occurrences (' ' :: m) (x ++ c :: y) =
      occurrences (' ' :: m) x + occurrences (' ' :: m) (c :: y) := by
  induction x with
  | nil => simp [occurrences]
  | cons b x ih =>
    simp only [List.cons_append, occurrences_cons, List.cons_prefix_cons,
      hm.prefix_append_cons_iff hc, ih, Nat.add_assoc]

omit hm in
theorem occurrences_space (y : Text) :
    occurrences (' ' :: m) (' ' :: y) = (if m <+: y then 1 else 0) + occurrences (' ' :: m) y := by
  simp only [occurrences_cons, List.cons_prefix_cons, true_and]

/-- What comes before and behind a delimiter is counted apart from it. -/
theorem occurrences_delimiter (x y : Text) :
    occurrences (' ' :: m) (x ++ (' ' :: m) ++ y) =
      occurrences (' ' :: m) x + occurrences (' ' :: m) y + 1 := by
  have hmark : occurrences (' ' :: m) (m ++ y) = occurrences (' ' :: m) y := by
    have none : ∀ v : Text, ' ' ∉ v →
        occurrences (' ' :: m) (v ++ y) = occurrences (' ' :: m) y := by
      intro v hv
      induction v with
      | nil => rfl
      | cons b v ih =>
        rw [List.mem_cons, not_or] at hv
        simp only [List.cons_append, occurrences_cons, List.cons_prefix_cons, hv.1, ih hv.2,
          false_and, if_false, Nat.zero_add]
    exact none m (hm.not_mem isBlank_space)
  rw [List.append_assoc, List.cons_append, occurrences_append_cons hm isBlank_space,
    occurrences_space, if_pos (List.prefix_append _ _), hmark]
  omega

theorem occurrences_of_forall_blank {b : Text} (hb : ∀ c ∈ b, isBlank c = true) :
    occurrences (' ' :: m) b = 0 := by
  rw [occurrences_eq_zero_iff (List.cons_ne_nil _ _)]
  intro hi
  obtain ⟨c, hc⟩ := List.exists_mem_of_ne_nil m hm.ne_nil
  have := hb c (hi.subset (List.mem_cons_of_mem _ hc))
  rw [hm.noBlank c hc] at this
  cases this

theorem occurrences_trimEnd (t : Text) :
    occurrences (' ' :: m) (trimEnd t) = occurrences (' ' :: m) t := by
  refine apply_trimEnd (fun t c hc => ?_) t
  have hzero := occurrences_of_forall_blank hm (List.forall_mem_singleton.2 hc)
  rw [occurrences_append_cons hm hc, hzero, Nat.add_zero]

/-- Between joined texts a delimiter can only start at a space, if the separator starts with one
and otherwise makes no difference to what follows a space. -/
theorem occurrences_space_join_eq_zero_iff {sep : Text}
    (hsep : ∀ y, occurrences (' ' :: m) (' ' :: sep ++ y) = occurrences (' ' :: m) (' ' :: y))
    (ts : List Text) :
    occurrences (' ' :: m) (' ' :: join (' ' :: sep) ts) = 0 ↔
      ∀ t ∈ ts, occurrences (' ' :: m) (' ' :: t) = 0 := by
  induction ts with
  | nil =>
    have hspace : ∀ c ∈ [' '], isBlank c = true := by simp
    simp [occurrences_of_forall_blank hm hspace]
  | cons t ts ih =>
    cases ts with
    | nil => simp
    | cons u us =>
      have hsplit : ' ' :: join (' ' :: sep) (t :: u :: us) =
          (' ' :: t) ++ ' ' :: (sep ++ join (' ' :: sep) (u :: us)) := by
        rw [join_cons_cons]
        rfl
      rw [hsplit, occurrences_append_cons hm isBlank_space, ← List.cons_append, hsep,
        Nat.add_eq_zero_iff, ih, List.forall_mem_cons (a := t)]

theorem occurrences_join_cons_eq_zero_iff {sep : Text}
    (hsep : ∀ y, occurrences (' ' :: m) (' ' :: sep ++ y) = occurrences (' ' :: m) (' ' :: y))
    (t : Text) (ts : List Text) :
    occurrences (' ' :: m) (join (' ' :: sep) (t :: ts)) = 0 ↔
      occurrences (' ' :: m) t = 0 ∧ ∀ u ∈ ts, occurrences (' ' :: m) (' ' :: u) = 0 := by
  cases ts with
  | nil => simp
  | cons u us =>
    rw [join_cons_cons, List.cons_append, occurrences_append_cons hm isBlank_space,
      ← List.cons_append, hsep, Nat.add_eq_zero_iff,
      occurrences_space_join_eq_zero_iff hm hsep]

/-! ## Cutting -/

theorem cut?_delimiter {x : Text} (hx : occurrences (' ' :: m) x = 0) (y : Text) :
    cut? (' ' :: m) (x ++ (' ' :: m) ++ y) = some (x, y) := by
  induction x with
  | nil => simp [cut?]
  | cons c x ih =>
    rw [occurrences_cons, Nat.add_eq_zero_iff] at hx
    have hnot : ¬ (' ' :: m) <+: c :: (x ++ (' ' :: m) ++ y) := by
      intro hp
      rw [List.append_assoc, List.cons_append, List.cons_prefix_cons,
        hm.prefix_append_cons_iff isBlank_space, ← List.cons_prefix_cons] at hp
      simp [hp] at hx
    rw [List.cons_append, List.cons_append, cut?]
    simp only [List.isPrefixOf_iff_prefix, hnot, if_false, ih hx.2, Option.map_some]

omit hm in
theorem exists_delimiter {d t : Text} (h : occurrences d t ≠ 0) :
    ∃ x y : Text, t = x ++ d ++ y ∧ occurrences d x = 0 := by
  induction t with
  | nil => exact absurd rfl h
  | cons c t ih =>
    by_cases hp : d <+: c :: t
    · obtain ⟨y, hy⟩ := hp
      exact ⟨[], y, hy.symm, rfl⟩
    · rw [occurrences_cons, if_neg hp, Nat.zero_add] at h
      obtain ⟨x, y, rfl, hx⟩ := ih h
      refine ⟨c :: x, y, rfl, ?_⟩
      rw [occurrences_cons, hx, if_neg]
      intro hcx
      apply hp
      rw [List.append_assoc, ← List.cons_append]
      exact hcx.trans (List.prefix_append _ _)

end Delimiter

end Relay.Text
