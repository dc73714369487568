import Relay.Pipeline.Command
import Relay.Proofs.Text.Delimiter

/-!
# Reading a command

A command is read in three steps, each described here for itself: the error-output redirect is
split off, then the standard-output redirect, and what is left is cut into stages
(`parse_eq_ok_iff`).  Splitting off a redirect succeeds exactly if its delimiter occurs at most
once, and answers the two trimmed parts (`splitRedirect_delimiter_eq_ok_iff`).  The stages do not
depend on blanks at the ends (`parseStages_trim`), and their tokens are words without pipe
characters (`isToken_of_mem_parseStages`).
-/

namespace Relay.Pipeline

open Text

/-! ## Redirects -/

section Redirect

variable {m : Text}

theorem splitRedirect_of_zero {d t : Text} (h : occurrences d t = 0) :
    splitRedirect d t = .ok (t, none) := by
  simp only [splitRedirect, h]

theorem splitRedirect_delimiter (hm : m.IsWord) (x y : Text) :
    splitRedirect (' ' :: m) (x ++ (' ' :: m) ++ y) =
      if occurrences (' ' :: m) x + occurrences (' ' :: m) y = 0 then .ok (trim x, some (trim y))
      else .error (occurrences (' ' :: m) x + occurrences (' ' :: m) y + 1) := by
  have hcount := occurrences_delimiter hm x y
  by_cases h : occurrences (' ' :: m) x + occurrences (' ' :: m) y = 0
  · rw [h] at hcount
    have hcut := cut?_delimiter hm (Nat.eq_zero_of_add_eq_zero h).1 y
    simp only [splitRedirect, hcount, hcut, if_pos h]
  · obtain ⟨k, hk⟩ := Nat.exists_eq_succ_of_ne_zero h
    rw [if_neg h, hk]
    rw [hk] at hcount
    simp only [splitRedirect, hcount]

theorem splitRedirect_delimiter_eq_ok_iff (hm : m.IsWord) (x y r : Text) (target : Option Text) :
    splitRedirect (' ' :: m) (x ++ (' ' :: m) ++ y) = .ok (r, target) ↔
      occurrences (' ' :: m) x = 0 ∧ occurrences (' ' :: m) y = 0 ∧
        r = trim x ∧ target = some (trim y) := by
  rw [splitRedirect_delimiter hm]
  split
  · rename_i h
    obtain ⟨hx, hy⟩ := Nat.eq_zero_of_add_eq_zero h
    simp only [Except.ok.injEq, Prod.mk.injEq, hx, hy, true_and, eq_comm]
  · rename_i h
    constructor
    · nofun
    · rintro ⟨hx, hy, -, -⟩
      rw [hx, hy] at h
      exact absurd rfl h

/-- No target is found exactly if the delimiter does not occur, and then nothing is cut off. -/
theorem splitRedirect_eq_none_iff (hm : m.IsWord) (t r : Text) :
    splitRedirect (' ' :: m) t = .ok (r, none) ↔ occurrences (' ' :: m) t = 0 ∧ r = t := by
  by_cases h : occurrences (' ' :: m) t = 0
  · rw [splitRedirect_of_zero h]
    simp [h, eq_comm]
  · obtain ⟨x, y, rfl, -⟩ := exists_delimiter h
    rw [splitRedirect_delimiter_eq_ok_iff hm]
    simp only [h, reduceCtorEq, and_false, false_and]

theorem exists_of_splitRedirect (hm : m.IsWord) {t r target : Text}
    (h : splitRedirect (' ' :: m) t = .ok (r, some target)) :
    ∃ x y : Text, t = x ++ (' ' :: m) ++ y ∧ occurrences (' ' :: m) x = 0 ∧
      occurrences (' ' :: m) y = 0 ∧ r = trim x ∧ target = trim y := by
  by_cases hzero : occurrences (' ' :: m) t = 0
  · rw [splitRedirect_of_zero hzero] at h
    cases h
  · obtain ⟨x, y, rfl, -⟩ := exists_delimiter hzero
    obtain ⟨hx, hy, hr, htarget⟩ := (splitRedirect_delimiter_eq_ok_iff hm x y r _).1 h
    exact ⟨x, y, rfl, hx, hy, hr, Option.some.inj htarget⟩

end Redirect

def stdoutMark : Text := ['>']

def stderrMark : Text := ['2', '>']

theorem stdoutDelimiter_eq : stdoutDelimiter = ' ' :: stdoutMark := rfl

theorem stderrDelimiter_eq : stderrDelimiter = ' ' :: stderrMark := rfl

theorem isWord_stdoutMark : stdoutMark.IsWord :=
  ⟨List.cons_ne_nil _ _, List.forall_mem_cons.2 ⟨by decide, nofun⟩⟩

theorem isWord_stderrMark : stderrMark.IsWord :=
  ⟨List.cons_ne_nil _ _,
    List.forall_mem_cons.2 ⟨by decide, List.forall_mem_cons.2 ⟨by decide, nofun⟩⟩⟩

/-! ## The whole command -/

/-- A command is read if both redirects can be split off, one after the other. -/
theorem parse_eq_ok_iff (t : Text) (p : Pipeline) :
    parse t = .ok p ↔
      ∃ u v, splitRedirect stderrDelimiter t = .ok (u, p.stderrTarget) ∧
        splitRedirect stdoutDelimiter u = .ok (v, p.stdoutTarget) ∧ parseStages v = p.stages := by
  unfold parse
  cases hu : splitRedirect stderrDelimiter t with
  | error n => simp [Except.mapError, bind, Except.bind]
  | ok split =>
    obtain ⟨u, stderrTarget⟩ := split
    cases hv : splitRedirect stdoutDelimiter u with
    | error n =>
      simp only [Except.mapError, bind, Except.bind, hv, reduceCtorEq, false_iff]
      rintro ⟨u', v, hu', hv', -⟩
      cases hu'
      rw [hv] at hv'
      cases hv'
    | ok split =>
      obtain ⟨v, stdoutTarget⟩ := split
      simp only [Except.mapError, bind, Except.bind, hv, pure, Except.pure, Except.ok.injEq]
      constructor
      · rintro rfl
        exact ⟨u, v, rfl, hv, rfl⟩
      · rintro ⟨u', v', hu', hv', hstages⟩
        cases hu'
        rw [hv] at hv'
        cases hv'
        cases p
        cases hstages
        rfl

/-! ## Stages -/

theorem parseStages_ne_nil (t : Text) : parseStages t ≠ [] := by
  unfold parseStages
  simpa using pieces_ne_nil _ t

/-- A word that a command can have as a token. -/
structure IsToken (t : Text) : Prop extends t.IsWord where
  noPipe : '|' ∉ t

theorem isToken_of_mem_parseStages {t w : Text} {s : Stage} (hs : s ∈ parseStages t)
    (hw : w ∈ s.argv) : IsToken w := by
  obtain ⟨segment, hsegment, rfl⟩ := List.mem_map.1 hs
  refine ⟨isWord_of_mem_words hw, fun hm => ?_⟩
  have := (of_mem_pieces hsegment _ (mem_of_mem_words hw hm)).2
  cases this

/-- A pipe character parts the stages of a command. -/
theorem parseStages_append_cons (x y : Text) :
    parseStages (x ++ '|' :: y) = parseStages x ++ parseStages y := by
  unfold parseStages
  rw [pieces_append_cons rfl, List.map_append]

theorem parseStages_of_not_mem {t : Text} (h : '|' ∉ t) : parseStages t = [⟨words t⟩] := by
  unfold parseStages
  rw [pieces_of_not_mem h]
  rfl

theorem ne_pipe_of_isBlank {c : Char} (hc : isBlank c = true) : (c == '|') = false := by
  rw [beq_eq_false_iff_ne]
  rintro rfl
  revert hc
  decide

theorem parseStages_cons {c : Char} (hc : isBlank c = true) (t : Text) :
    parseStages (c :: t) = parseStages t := by
  unfold parseStages
  rw [pieces_cons, ne_pipe_of_isBlank hc]
  cases hps : pieces (· == '|') t with
  | nil => exact absurd hps (pieces_ne_nil _ t)
  | cons p ps =>
    simp only [Bool.false_eq_true, if_false, consFirst, List.map_cons, words_cons hc]

theorem parseStages_concat {c : Char} (hc : isBlank c = true) (t : Text) :
    parseStages (t ++ [c]) = parseStages t := by
  have hlast : pieces (· == '|') (t ++ [c]) =
      (pieces (· == '|') t).dropLast ++ [(pieces (· == '|') t).getLastD [] ++ [c]] := by
    refine pieces_concat ?_ t
    exact ne_pipe_of_isBlank hc
  unfold parseStages
  rw [hlast]
  conv_rhs => rw [pieces_eq_concat t]
  simp only [List.map_append, List.map_cons, List.map_nil, words_concat hc]

theorem parseStages_trim (t : Text) : parseStages (trim t) = parseStages t := by
  unfold trim
  rw [apply_trimEnd fun t _ hc => parseStages_concat hc t,
    apply_trimStart fun _ t hc => parseStages_cons hc t]

theorem parseStages_ne_of_cons {c : Char} (hc : isBlank c = false) (t : Text) :
    parseStages (c :: t) ≠ [⟨[]⟩] := by
  by_cases hp : c = '|'
  · subst hp
    rw [← List.nil_append ('|' :: t), parseStages_append_cons]
    have hne := parseStages_ne_nil t
    simp [parseStages_of_not_mem, hne]
  · have hp' : (c == '|') = false := beq_eq_false_iff_ne.2 hp
    unfold parseStages
    rw [pieces_cons, hp']
    cases hps : pieces (· == '|') t with
    | nil => exact absurd hps (pieces_ne_nil _ t)
    | cons p ps =>
      simp only [Bool.false_eq_true, if_false, consFirst, List.map_cons, ne_eq, List.cons.injEq,
        Stage.mk.injEq]
      intro h
      exact words_ne_nil hc p h.1

/-- Splitting a redirect off a trimmed text leaves something in front of it: with nothing there the
delimiter would have lost its space. -/
theorem parseStages_ne_of_splitRedirect_trim {m : Text} (hm : m.IsWord) {t r target : Text}
    (h : splitRedirect (' ' :: m) (trim t) = .ok (r, some target)) :
    parseStages r ≠ [⟨[]⟩] := by
  obtain ⟨x, y, hxy, -, -, rfl, -⟩ := exists_of_splitRedirect hm h
  rw [parseStages_trim]
  rcases trim_cases t with hnil | ⟨c, s, hc, hs⟩
  · rw [hnil] at hxy
    simp at hxy
  · rw [hs] at hxy
    cases x with
    | nil =>
      obtain ⟨rfl, -⟩ := List.cons.inj hxy
      cases hc
    | cons d x =>
      obtain ⟨rfl, -⟩ := List.cons.inj hxy
      exact parseStages_ne_of_cons hc x

end Relay.Pipeline
