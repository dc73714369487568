import Mathlib.Tactic.SplitIfs
import Relay.Text.LineCodec

/-!
# UTF-8

What is written is read back, `ofUtf8Lossy_utf8`: the bytes of a character are read as that
character whatever stands behind them.

A byte below 0x80, such as a line feed, belongs to no longer sequence of bytes.  A sequence that is
under way ends before it, well-formed or not (`readScalar_append_ascii`), so what stands before it
and behind it can be read apart (`ofUtf8Lossy_append_ascii`); and a character is written with such a
byte only if it is its character (`encodeChar_of_ascii`).
-/

namespace Relay.Text

/-! ## Writing -/

theorem utf8_append (t u : Text) : utf8 (t ++ u) = utf8 t ++ utf8 u := List.flatMap_append

theorem utf8_cons (c : Char) (t : Text) : utf8 (c :: t) = encodeChar c ++ utf8 t := rfl

theorem utf8_cons_newline (t : Text) : utf8 ('\n' :: t) = lineFeed :: utf8 t := rfl

theorem encodeChar_ne_nil (c : Char) : encodeChar c ≠ [] := by
  unfold encodeChar
  dsimp only
  split_ifs <;> exact List.cons_ne_nil _ _

theorem toNat_lead {lead k : Nat} (h : lead + k < 0x100) :
    (UInt8.ofNat (lead + k)).toNat = lead + k := by
  rw [UInt8.toNat_ofNat']
  omega

theorem toNat_tail (k : Nat) : (UInt8.ofNat (0x80 + k % 64)).toNat = 0x80 + k % 64 :=
  toNat_lead (by omega)

theorem encodeChar_of_ascii {a : UInt8} (ha : a.toNat < 0x80) {c : Char} (h : a ∈ encodeChar c) :
    c = Char.ofNat a.toNat := by
  have hvalid : c.toNat < 0xD800 ∨ 0xDFFF < c.toNat ∧ c.toNat < 0x110000 := c.valid
  have tail : ∀ k, a ≠ UInt8.ofNat (0x80 + k % 64) := by
    rintro k rfl
    rw [toNat_tail] at ha
    omega
  have lead : ∀ {base k : Nat}, 0x80 ≤ base → base + k < 0x100 → a ≠ UInt8.ofNat (base + k) := by
    rintro base k hbase hlt rfl
    rw [toNat_lead hlt] at ha
    omega
  unfold encodeChar at h
  dsimp only at h
  split_ifs at h with h₁ h₂ h₃
  · rw [List.mem_singleton.1 h, UInt8.toNat_ofNat', Nat.mod_eq_of_lt (by omega), Char.ofNat_toNat]
  · simp only [List.mem_cons, List.not_mem_nil, tail, or_false] at h
    exact absurd h (lead (by decide) (by omega))
  · simp only [List.mem_cons, List.not_mem_nil, tail, or_false] at h
    exact absurd h (lead (by decide) (by omega))
  · simp only [List.mem_cons, List.not_mem_nil, tail, or_false] at h
    exact absurd h (lead (by decide) (by omega))

/-! ## Reading one character -/

section Ascii

variable {a : UInt8} (ha : a.toNat < 0x80)
include ha

theorem isTail_of_ascii : isTail a = false := by
  have hlow : ¬ 0x80 ≤ a.toNat := Nat.not_le_of_lt ha
  simp [isTail, hlow]

theorem isSecond_of_ascii (b : UInt8) : isSecond b a = false := by
  have hlow : ∀ n m : Nat, 0x80 ≤ n → (decide (n ≤ a.toNat) && decide (a.toNat ≤ m)) = false := by
    intro n m hn
    rw [decide_eq_false (by omega), Bool.false_and]
  unfold isSecond
  split
  · exact hlow _ _ (by decide)
  · split
    · exact hlow _ _ (by decide)
    · split
      · exact hlow _ _ (by decide)
      · split
        · exact hlow _ _ (by decide)
        · exact isTail_of_ascii ha

theorem readScalar_ascii (r : Bytes) : readScalar a r = (.char (Char.ofNat a.toNat), 0) := by
  show (if a.toNat < 0x80 then _ else _) = _
  rw [if_pos ha]

/-- What is read of a sequence does not depend on a byte below 0x80 behind it, or on anything after
that. -/
theorem readScalar_append_ascii (b : UInt8) (r s : Bytes) :
    readScalar b (r ++ a :: s) = readScalar b r := by
  have htail := isTail_of_ascii ha
  have hsecond := isSecond_of_ascii ha b
  unfold readScalar
  match r with
  | [] => cases s with
    | nil => simp [htail, hsecond]
    | cons c s => cases s <;> simp [htail, hsecond]
  | [c] => cases hc : isSecond b c <;> cases s <;> simp [htail, hc]
  | [c, d] => cases hc : isSecond b c <;> cases hd : isTail d <;> simp [htail, hc, hd]
  | c :: d :: e :: r => rfl

end Ascii

theorem readScalar_le (a : UInt8) (r : Bytes) : (readScalar a r).2 ≤ r.length := by
  unfold readScalar
  match r with
  | [] => grind
  | [b] => grind
  | [b, c] => grind
  | b :: c :: d :: r => grind

section Sequence

variable {a b c d : UInt8} (s : Bytes)

theorem readScalar_two (ha : 0xC2 ≤ a.toNat) (ha' : a.toNat < 0xE0) (hb : isTail b = true) :
    readScalar a (b :: s) =
      (.char (Char.ofNat ((a.toNat - 0xC0) * 64 + (b.toNat - 0x80))), 1) := by
  have h₁ : ¬ a.toNat < 0x80 := by omega
  have h₂ : ¬ a.toNat < 0xC2 := by omega
  unfold readScalar
  simp [h₁, h₂, ha', hb]

theorem readScalar_three (ha : 0xE0 ≤ a.toNat) (ha' : a.toNat < 0xF0) (hb : isSecond a b = true)
    (hc : isTail c = true) :
    readScalar a (b :: c :: s) = (.char (Char.ofNat
      ((a.toNat - 0xE0) * 4096 + (b.toNat - 0x80) * 64 + (c.toNat - 0x80))), 2) := by
  have h₁ : ¬ a.toNat < 0x80 := by omega
  have h₂ : ¬ a.toNat < 0xC2 := by omega
  have h₃ : ¬ a.toNat < 0xE0 := by omega
  unfold readScalar
  simp [h₁, h₂, h₃, ha', hb, hc]

theorem readScalar_four (ha : 0xF0 ≤ a.toNat) (ha' : a.toNat < 0xF5) (hb : isSecond a b = true)
    (hc : isTail c = true) (hd : isTail d = true) :
    readScalar a (b :: c :: d :: s) = (.char (Char.ofNat ((a.toNat - 0xF0) * 262144
      + (b.toNat - 0x80) * 4096 + (c.toNat - 0x80) * 64 + (d.toNat - 0x80))), 3) := by
  have h₁ : ¬ a.toNat < 0x80 := by omega
  have h₂ : ¬ a.toNat < 0xC2 := by omega
  have h₃ : ¬ a.toNat < 0xE0 := by omega
  have h₄ : ¬ a.toNat < 0xF0 := by omega
  unfold readScalar
  simp [h₁, h₂, h₃, h₄, ha', hb, hc, hd]

end Sequence

theorem isTail_tail (k : Nat) : isTail (UInt8.ofNat (0x80 + k % 64)) = true := by
  rw [isTail, toNat_tail, Bool.and_eq_true, decide_eq_true_eq, decide_eq_true_eq]
  omega

theorem isSecond_iff (a b : UInt8) :
    isSecond a b = true ↔ 0x80 ≤ b.toNat ∧ b.toNat ≤ 0xBF ∧ (a.toNat = 0xE0 → 0xA0 ≤ b.toNat) ∧
      (a.toNat = 0xED → b.toNat ≤ 0x9F) ∧ (a.toNat = 0xF0 → 0x90 ≤ b.toNat) ∧
      (a.toNat = 0xF4 → b.toNat ≤ 0x8F) := by
  unfold isSecond isTail
  split_ifs <;> simp only [Bool.and_eq_true, decide_eq_true_eq] <;> omega

/-- What a character is written as is read as that character. -/
theorem readScalar_encodeChar (c : Char) :
    ∃ a r, encodeChar c = a :: r ∧ ∀ s, readScalar a (r ++ s) = (.char c, r.length) := by
  have hvalid : c.toNat < 0xD800 ∨ 0xDFFF < c.toNat ∧ c.toNat < 0x110000 := c.valid
  have whole : ∀ {n : Nat}, n = c.toNat → Char.ofNat n = c := by
    rintro n rfl
    exact Char.ofNat_toNat c
  unfold encodeChar
  dsimp only
  generalize c.toNat = n at hvalid whole
  split_ifs with h₁ h₂ h₃
  · refine ⟨_, [], rfl, fun s => ?_⟩
    have hlead : (UInt8.ofNat n).toNat = n := by
      rw [UInt8.toNat_ofNat']
      omega
    rw [readScalar_ascii (by rwa [hlead]), hlead, whole rfl]
    rfl
  · refine ⟨_, [_], rfl, fun s => ?_⟩
    have hlead := @toNat_lead 0xC0 (n / 64) (by omega)
    rw [List.singleton_append, readScalar_two s (by omega) (by omega) (isTail_tail n), hlead,
      toNat_tail, whole (by omega)]
    rfl
  · refine ⟨_, [_, _], rfl, fun s => ?_⟩
    have hlead := @toNat_lead 0xE0 (n / 4096) (by omega)
    have hsecond := toNat_tail (n / 64)
    rw [List.cons_append, List.singleton_append, readScalar_three s (by omega) (by omega)
      ((isSecond_iff _ _).2 (by omega)) (isTail_tail n), hlead, hsecond, toNat_tail,
      whole (by omega)]
    rfl
  · refine ⟨_, [_, _, _], rfl, fun s => ?_⟩
    have hlead := @toNat_lead 0xF0 (n / 262144) (by omega)
    have hsecond := toNat_tail (n / 4096)
    rw [List.cons_append, List.cons_append, List.singleton_append, readScalar_four s (by omega)
      (by omega) ((isSecond_iff _ _).2 (by omega)) (isTail_tail _) (isTail_tail n), hlead, hsecond,
      toNat_tail, toNat_tail, whole (by omega)]
    rfl

/-! ## Reading -/

@[simp] theorem ofUtf8Lossy_nil : ofUtf8Lossy [] = [] := by
  unfold ofUtf8Lossy scalars
  rw [scalarsOnto]
  rfl

theorem scalarsOnto_eq (done : List Scalar) (b : Bytes) :
    scalarsOnto done b = scalarsOnto [] b ++ done := by
  have onto : ∀ (done below : List Scalar) (b : Bytes),
      scalarsOnto (done ++ below) b = scalarsOnto done b ++ below := by
    intro done below b
    fun_induction scalarsOnto done b with
    | case1 done => rw [scalarsOnto]
    | case2 done a rest s n hread ih =>
      rw [scalarsOnto, hread]
      exact ih
  exact onto [] done b

section Ascii

variable {a : UInt8} (ha : a.toNat < 0x80)
include ha

theorem scalarsOnto_append_ascii (done : List Scalar) (l r : Bytes) :
    scalarsOnto done (l ++ a :: r) =
      scalarsOnto (.char (Char.ofNat a.toNat) :: scalarsOnto done l) r := by
  fun_induction scalarsOnto done l with
  | case1 done =>
    rw [List.nil_append, scalarsOnto, readScalar_ascii ha]
    rfl
  | case2 done b rest s n hread ih =>
    have hle : n ≤ rest.length := by
      have := readScalar_le b rest
      rwa [hread] at this
    rw [List.cons_append, scalarsOnto, readScalar_append_ascii ha, hread]
    show scalarsOnto (s :: done) ((rest ++ a :: r).drop n) = _
    rw [List.drop_append_of_le_length hle, ih]

theorem scalars_append_ascii (l r : Bytes) :
    scalars (l ++ a :: r) = scalars l ++ .char (Char.ofNat a.toNat) :: scalars r := by
  unfold scalars
  rw [scalarsOnto_append_ascii ha, scalarsOnto_eq]
  simp

/-- The bytes before a byte below 0x80 and those behind it are read apart. -/
theorem ofUtf8Lossy_append_ascii (l r : Bytes) :
    ofUtf8Lossy (l ++ a :: r) = ofUtf8Lossy l ++ Char.ofNat a.toNat :: ofUtf8Lossy r := by
  unfold ofUtf8Lossy
  rw [scalars_append_ascii ha, List.map_append, List.map_cons]
  rfl

end Ascii

theorem ofUtf8Lossy_append_lineFeed (l r : Bytes) :
    ofUtf8Lossy (l ++ lineFeed :: r) = ofUtf8Lossy l ++ '\n' :: ofUtf8Lossy r :=
  ofUtf8Lossy_append_ascii (by decide) l r

theorem scalars_utf8 (t : Text) : scalars (utf8 t) = t.map .char := by
  have onto : ∀ done, scalarsOnto done (utf8 t) = (t.map .char).reverse ++ done := by
    induction t with
    | nil =>
      intro done
      exact scalarsOnto.eq_1 done
    | cons c t ih =>
      intro done
      obtain ⟨a, r, hc, hread⟩ := readScalar_encodeChar c
      rw [utf8_cons, hc, List.cons_append, scalarsOnto, hread]
      show scalarsOnto (.char c :: done) ((r ++ utf8 t).drop r.length) = _
      rw [List.drop_left, ih]
      simp
  rw [scalars, onto]
  simp

/-- What is written is read back. -/
theorem ofUtf8Lossy_utf8 (t : Text) : ofUtf8Lossy (utf8 t) = t := by
  rw [ofUtf8Lossy, scalars_utf8, List.map_map]
  exact List.map_id t

theorem ofUtf8?_utf8 (t : Text) : ofUtf8? (utf8 t) = some t := by
  rw [ofUtf8?, scalars_utf8]
  induction t with
  | nil => rfl
  | cons c t ih =>
    rw [List.map_cons, List.mapM_cons, ih]
    rfl

end Relay.Text
