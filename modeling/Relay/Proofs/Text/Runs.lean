import Relay.Proofs.Text.Words

/-!
# Maximal runs

A maximal run of characters starts where a character of its kind stands with none of them before it,
and goes on as far as they do.  `runStarts` lists the positions where the runs of a text start,
`runs` the runs in the order of these positions.  Neither mentions separators: that the words of a
text are its runs of visible characters (`words_eq_runs`) is a theorem about cutting.

Both sides follow the same two rules.  A character of another kind parts the runs
(`runs_append_cons`), and between two of them there is one run or none (`runs_of_forall`).
-/

namespace Relay.Text

/-! ## Visible characters -/

def visible (t : Text) : Text := t.filter fun c => !isBlank c

theorem visible_append (t u : Text) : visible (t ++ u) = visible t ++ visible u :=
  List.filter_append ..

theorem visible_cons_of_blank {c : Char} (hc : isBlank c = true) (t : Text) :
    visible (c :: t) = visible t := by
  simp [visible, hc]

theorem visible_of_noBlank {t : Text} (h : ∀ c ∈ t, isBlank c = false) : visible t = t := by
  refine List.filter_eq_self.2 fun c hc => ?_
  rw [h c hc]
  rfl

theorem visible_trim (t : Text) : visible (trim t) = visible t := by
  have hend : ∀ t c, isBlank c = true → visible (t ++ [c]) = visible t := by
    intro t c hc
    rw [visible_append, visible_cons_of_blank hc]
    exact List.append_nil _
  rw [trim, apply_trimEnd hend, apply_trimStart fun _ t hc => visible_cons_of_blank hc t]

theorem flatten_words (t : Text) : (words t).flatten = visible t := by
  have piece : ∀ {p : Text}, (∀ c ∈ p, isBlank c = false) → (words p).flatten = visible p := by
    intro p hp
    rw [words, pieces_of_forall_not hp, visible_of_noBlank hp]
    cases p <;> simp
  induction t using separatorRec isBlank with
  | rest p hp => exact piece hp
  | piece p c r hp hc ih =>
    rw [words_append_cons hc, List.flatten_append, piece hp, ih, visible_append,
      visible_cons_of_blank hc]

theorem visible_join (sep : Text) (ts : List Text) :
    visible (join sep ts) = join (visible sep) (ts.map visible) := by
  induction ts with
  | nil => rfl
  | cons t ts ih =>
    cases ts with
    | nil => simp
    | cons u us =>
      rw [join_cons_cons, visible_append, visible_append, ih]
      exact (join_cons_cons _ _ _ _).symm

/-! ## Runs -/

section Runs

variable {p : Char → Bool}

/-- Whether a maximal run of characters that `p` accepts starts at a position. -/
def startsRun (p : Char → Bool) (t : Text) (i : Nat) : Bool :=
  (t.drop i).head?.any p && !(t.take i).getLast?.any p

/-- The positions of a text where a maximal run starts. -/
def runStarts (p : Char → Bool) (t : Text) : List Nat :=
  (List.range t.length).filter (startsRun p t)

/-- The maximal runs of characters that `p` accepts, in order of occurrence. -/
def runs (p : Char → Bool) (t : Text) : List Text :=
  (runStarts p t).map fun i => (t.drop i).takeWhile p

theorem startsRun_append {i : Nat} {x : Text} (hi : i < x.length) (y : Text) :
    startsRun p (x ++ y) i = startsRun p x i := by
  have hne : x.drop i ≠ [] := List.drop_eq_nil_iff.not.2 (Nat.not_le_of_lt hi)
  obtain ⟨a, r, hr⟩ := List.exists_cons_of_ne_nil hne
  rw [startsRun, startsRun, List.drop_append_of_le_length hi.le,
    List.take_append_of_le_length hi.le, hr]
  rfl

section Parted

variable {c : Char} (hc : p c = false) (x y : Text)
include hc

theorem startsRun_at : startsRun p (x ++ c :: y) x.length = false := by
  rw [startsRun, List.drop_left, List.head?_cons, Option.any_some, hc, Bool.false_and]

theorem startsRun_behind (j : Nat) :
    startsRun p (x ++ c :: y) (x.length + (j + 1)) = startsRun p y j := by
  have hlast : (x ++ c :: y.take j).getLast?.any p = (y.take j).getLast?.any p := by
    cases h : y.take j with
    | nil => simp [hc]
    | cons a r =>
      have hne := List.cons_ne_nil a r
      rw [List.append_cons, List.getLast?_append, List.getLast?_eq_some_getLast hne]
      rfl
  rw [startsRun, startsRun, List.drop_length_add_append, List.take_length_add_append,
    List.drop_succ_cons, List.take_succ_cons, hlast]

theorem runStarts_append_cons :
    runStarts p (x ++ c :: y) =
      runStarts p x ++ (runStarts p y).map fun j => x.length + (j + 1) := by
  have hfront : ∀ i ∈ List.range x.length, startsRun p (x ++ c :: y) i = startsRun p x i :=
    fun i hi => startsRun_append (List.mem_range.1 hi) _
  rw [runStarts, List.length_append, List.length_cons, List.range_add, List.filter_append,
    List.filter_congr hfront, List.range_succ_eq_map, List.map_cons, List.filter_cons_of_neg,
    List.map_map, List.filter_map]
  · have hbehind := funext (startsRun_behind hc x y)
    exact congrArg (fun q => runStarts p x ++ ((List.range y.length).filter q).map _) hbehind
  · rw [Nat.add_zero, startsRun_at hc]
    exact Bool.false_ne_true

theorem takeWhile_append_cons : (x ++ c :: y).takeWhile p = x.takeWhile p := by
  induction x with
  | nil => simp [hc]
  | cons a x ih => rw [List.cons_append, List.takeWhile_cons, List.takeWhile_cons, ih]

/-- A character of another kind parts the runs. -/
theorem runs_append_cons : runs p (x ++ c :: y) = runs p x ++ runs p y := by
  rw [runs, runStarts_append_cons hc, List.map_append, List.map_map]
  refine congrArg₂ (· ++ ·) (List.map_congr_left fun i hi => ?_) (List.map_congr_left fun j _ => ?_)
  · have hle : i ≤ x.length := (List.mem_range.1 (List.mem_filter.1 hi).1).le
    rw [List.drop_append_of_le_length hle, takeWhile_append_cons hc]
  · rw [Function.comp_apply, List.drop_length_add_append, List.drop_succ_cons]

end Parted

theorem runs_of_forall {w : Text} (h : ∀ c ∈ w, p c = true) :
    runs p w = [w].filter fun w => !w.isEmpty := by
  cases w with
  | nil => rfl
  | cons a w =>
    have hfirst : startsRun p (a :: w) 0 = true := by
      simp [startsRun, h a List.mem_cons_self]
    have hlater : ∀ i ∈ (List.range w.length).map Nat.succ, ¬ startsRun p (a :: w) i = true := by
      intro i hi
      obtain ⟨i, -, rfl⟩ := List.mem_map.1 hi
      have hne : (a :: w).take i.succ ≠ [] := List.cons_ne_nil _ _
      have hlast := h _ (List.mem_of_mem_take (List.getLast_mem hne))
      rw [startsRun, List.getLast?_eq_some_getLast hne, Option.any_some, hlast]
      simp
    have hstarts : runStarts p (a :: w) = [0] := by
      rw [runStarts, List.length_cons, List.range_succ_eq_map, List.filter_cons_of_pos hfirst,
        List.filter_eq_nil_iff.2 hlater]
    rw [runs, hstarts]
    simpa using h

theorem runs_eq (t : Text) :
    runs p t = (pieces (fun c => !p c) t).filter fun w => !w.isEmpty := by
  induction t using separatorRec fun c => !p c with
  | rest w hw =>
    rw [pieces_of_forall_not hw, runs_of_forall]
    simpa using hw
  | piece w c r hw hc ih =>
    have hsplit := @pieces_append_cons _ (fun c => !p c) c hc w r
    rw [runs_append_cons (by simpa using hc), ih, hsplit, pieces_of_forall_not hw,
      List.filter_append, runs_of_forall]
    simpa using hw

example : runs (· != '|') ['|', 'a', 'b', '|', '|', 'c'] = [['a', 'b'], ['c']] := by decide

theorem runs_congr {q : Char → Bool} {t : Text} (h : ∀ c ∈ t, p c = q c) : runs p t = runs q t := by
  rw [runs_eq, runs_eq, pieces_congr fun c hc => congrArg not (h c hc)]

end Runs

/-- The words of a text are its maximal runs of visible characters. -/
theorem words_eq_runs (t : Text) : words t = runs (fun c => !isBlank c) t := by
  rw [runs_eq]
  simp only [Bool.not_not]
  rfl

end Relay.Text
