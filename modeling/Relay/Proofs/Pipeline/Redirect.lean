import Relay.Proofs.Pipeline.Command

/-!
# Adding an error-output redirect

An error-output redirect is written behind a command (`redirect`).  The command in front of it is
trimmed before it is read further, and this is all that the redirect does to it (`parse_redirect`).

Trimming takes away the space that a standard-output delimiter starts with if nothing but blanks
stands before it (`StartsRedirected`).  Then one delimiter fewer is found, which shows in every
answer that reading can give (`stdoutCount_readRest`).  So the redirect leaves the reading of the
command alone exactly if the command does not start that way (`parse_redirect_eq_iff`).
-/

namespace Relay.Pipeline

open Text

def redirect (command target : Text) : Text := command ++ stderrDelimiter ++ ' ' :: target

def withStderr (target : Text) (p : Pipeline) : Pipeline := { p with stderrTarget := some target }

/-- Nothing but blanks stands before the first standard-output delimiter of a command. -/
def StartsRedirected (command : Text) : Prop :=
  ∃ b r : Text, (∀ c ∈ b, isBlank c = true) ∧ command = b ++ stdoutDelimiter ++ r

/-! ## What is read behind the error-output redirect -/

/-- Reads a command from which the error-output redirect was split off. -/
def readRest (stderrTarget : Option Text) (rest : Text) : Except ParseError Pipeline := do
  let (rest, stdoutTarget) ← (splitRedirect stdoutDelimiter rest).mapError .repeatedStdout
  return { stages := parseStages rest, stdoutTarget, stderrTarget }

theorem parse_of_splitRedirect {t u : Text} {target : Option Text}
    (h : splitRedirect stderrDelimiter t = .ok (u, target)) : parse t = readRest target u := by
  unfold parse
  rw [h]
  rfl

theorem readRest_some (target t : Text) :
    readRest (some target) t = (readRest none t).map (withStderr target) := by
  unfold readRest
  cases splitRedirect stdoutDelimiter t with
  | error n => rfl
  | ok split => rfl

theorem readRest_eq_ok {rest t : Text} {stdoutTarget stderrTarget : Option Text}
    (h : splitRedirect stdoutDelimiter t = .ok (rest, stdoutTarget)) :
    readRest stderrTarget t = .ok ⟨parseStages rest, stdoutTarget, stderrTarget⟩ := by
  unfold readRest
  rw [h]
  rfl

theorem readRest_congr {t u : Text} (target : Option Text)
    (h : splitRedirect stdoutDelimiter t = splitRedirect stdoutDelimiter u) :
    readRest target t = readRest target u := by
  unfold readRest
  rw [h]

/-- How often a command was found to have a standard-output redirect, by what reading it
answered. -/
def stdoutCount : Except ParseError Pipeline → Nat
  | .ok p => if p.stdoutTarget.isSome then 1 else 0
  | .error (.repeatedStdout n) => n
  | .error (.repeatedStderr _) => 0

theorem stdoutCount_readRest (target : Option Text) (t : Text) :
    stdoutCount (readRest target t) = occurrences stdoutDelimiter t := by
  by_cases h : occurrences stdoutDelimiter t = 0
  · rw [readRest_eq_ok (splitRedirect_of_zero h), h]
    rfl
  · obtain ⟨x, y, rfl, -⟩ := exists_delimiter h
    have hsplit := splitRedirect_delimiter isWord_stdoutMark x y
    have hcount := occurrences_delimiter isWord_stdoutMark x y
    rw [← stdoutDelimiter_eq] at hsplit hcount
    split at hsplit
    · rename_i hzero
      rw [readRest_eq_ok hsplit, hcount, hzero]
      rfl
    · unfold readRest
      rw [hsplit, hcount]
      rfl

theorem stdoutCount_map (target : Text) (r : Except ParseError Pipeline) :
    stdoutCount (r.map (withStderr target)) = stdoutCount r := by
  cases r with
  | ok p => rfl
  | error e => rfl

/-! ## Trimming before the standard-output redirect -/

/-- A delimiter with blanks only in front of it loses its space. -/
theorem trim_delimiter_of_blank {m b : Text} (hm : m.IsWord) (hb : ∀ c ∈ b, isBlank c = true)
    (y : Text) : trim (b ++ (' ' :: m) ++ y) = m ++ trimEnd y := by
  have hword : trimStart (m ++ y) = m ++ y := by
    obtain ⟨c, m', rfl⟩ := List.exists_cons_of_ne_nil hm.ne_nil
    exact trimStart_of_cons (hm.noBlank c List.mem_cons_self) _
  rw [List.append_assoc, trim, trimStart_append_of_blank hb, List.cons_append, trimStart_cons,
    if_pos isBlank_space, hword]
  exact hm.trimEnd_append [] y

/-- With blanks only in front of it a delimiter is lost. -/
theorem occurrences_of_startsRedirected {t : Text} (h : StartsRedirected t) :
    occurrences stdoutDelimiter t = occurrences stdoutDelimiter (trim t) + 1 := by
  obtain ⟨b, r, hb, rfl⟩ := h
  have hmark : occurrences (' ' :: stdoutMark) (stdoutMark ++ trimEnd r) =
      occurrences (' ' :: stdoutMark) r := by
    have hnot : ¬ (' ' :: stdoutMark) <+: '>' :: trimEnd r := by
      rw [List.cons_prefix_cons]
      rintro ⟨h, -⟩
      revert h
      decide
    rw [← occurrences_trimEnd isWord_stdoutMark r, stdoutMark, List.singleton_append,
      ← stdoutMark, occurrences_cons, if_neg hnot, Nat.zero_add]
  rw [stdoutDelimiter_eq, trim_delimiter_of_blank isWord_stdoutMark hb, hmark,
    occurrences_delimiter isWord_stdoutMark, occurrences_of_forall_blank isWord_stdoutMark hb,
    Nat.zero_add]

theorem splitRedirect_trim {m x : Text} (hm : m.IsWord) (hx : trimStart x ≠ [])
    (hzero : occurrences (' ' :: m) x = 0) (y : Text) :
    splitRedirect (' ' :: m) (trim (x ++ (' ' :: m) ++ y)) =
      splitRedirect (' ' :: m) (x ++ (' ' :: m) ++ y) := by
  have htrim : trim (x ++ (' ' :: m) ++ y) = trimStart x ++ (' ' :: m) ++ trimEnd y := by
    have hend := hm.trimEnd_append (trimStart x ++ [' ']) y
    rw [trim, List.append_assoc, trimStart_append hx]
    simpa using hend
  have hstart : occurrences (' ' :: m) (trimStart x) = 0 := by
    have : occurrences (' ' :: m) (trim x) = 0 := occurrences_trim_of_zero hzero
    rwa [trim, occurrences_trimEnd hm] at this
  rw [htrim, splitRedirect_delimiter hm, splitRedirect_delimiter hm, trim_trimStart, trim_trimEnd,
    occurrences_trimEnd hm, hstart, hzero]

theorem readRest_trim {t : Text} (h : ¬ StartsRedirected t) (target : Option Text) :
    readRest target (trim t) = readRest target t := by
  by_cases hzero : occurrences stdoutDelimiter t = 0
  · rw [readRest_eq_ok (splitRedirect_of_zero hzero),
      readRest_eq_ok (splitRedirect_of_zero (occurrences_trim_of_zero hzero)), parseStages_trim]
  · obtain ⟨x, y, rfl, hx⟩ := exists_delimiter hzero
    have hfront : trimStart x ≠ [] := fun hnil => h ⟨x, y, forall_blank_of_trimStart hnil, rfl⟩
    exact readRest_congr target (splitRedirect_trim isWord_stdoutMark hfront hx y)

/-! ## The redirect and the command in front of it -/

section Redirect

variable {c p : Text} (hc : ¬ stderrDelimiter <:+: c) (hp : ¬ stderrDelimiter <:+: ' ' :: p)
include hc

theorem parse_eq_readRest : parse c = readRest none c := by
  have hzero := (occurrences_eq_zero_iff (List.cons_ne_nil _ _) c).2 hc
  exact parse_of_splitRedirect (splitRedirect_of_zero hzero)

include hp

theorem parse_redirect :
    parse (redirect c p) = (readRest none (trim c)).map (withStderr (trim p)) := by
  have hne : stderrDelimiter ≠ [] := List.cons_ne_nil _ _
  rw [← occurrences_eq_zero_iff hne] at hc hp
  have hsplit : splitRedirect stderrDelimiter (redirect c p) =
      .ok (trim c, some (trim p)) := by
    rw [stderrDelimiter_eq] at hc hp
    rw [redirect, stderrDelimiter_eq, splitRedirect_delimiter isWord_stderrMark, hc, hp, if_pos rfl,
      trim_cons isBlank_space]
  rw [parse_of_splitRedirect hsplit, readRest_some]

/-- **A redirect behind a command leaves the reading of the command alone exactly if the command
does not start with a standard-output redirect**, blanks in front of it apart. -/
theorem parse_redirect_eq_iff :
    parse (redirect c p) = (parse c).map (withStderr (trim p)) ↔ ¬ StartsRedirected c := by
  rw [parse_redirect hc hp, parse_eq_readRest hc]
  constructor
  · intro h hstart
    have hcount := congrArg stdoutCount h
    rw [stdoutCount_map, stdoutCount_map, stdoutCount_readRest, stdoutCount_readRest,
      occurrences_of_startsRedirected hstart] at hcount
    omega
  · intro h
    rw [readRest_trim h]

end Redirect

/-- A command that is read with the redirect behind it, and refused without. -/
theorem parse_redirect_ne_map :
    let c : Text := [' ', '>', ' ', 'a', ' ', '>', ' ', 'b']
    ¬ stderrDelimiter <:+: c ∧ ¬ stderrDelimiter <:+: [' ', 'e'] ∧
      parse c = .error (.repeatedStdout 2) ∧
      parse (redirect c ['e']) = .ok ⟨[⟨[['>'], ['a']]⟩], some ['b'], some ['e']⟩ ∧
      parse (redirect c ['e']) ≠ (parse c).map (withStderr (trim ['e'])) := by
  refine ⟨?_, ?_, rfl, rfl, nofun⟩
  · exact (occurrences_eq_zero_iff (List.cons_ne_nil _ _) _).1 rfl
  · exact (occurrences_eq_zero_iff (List.cons_ne_nil _ _) _).1 rfl

/-- With a program in front the redirect is read for itself. -/
theorem parse_redirect_of_program :
    let c : Text := ['a', ' ', '>', ' ', 'b']
    parse (redirect c ['e']) = (parse c).map (withStderr (trim ['e'])) := by
  have hne : stderrDelimiter ≠ [] := List.cons_ne_nil _ _
  refine (parse_redirect_eq_iff ((occurrences_eq_zero_iff hne _).1 rfl)
    ((occurrences_eq_zero_iff hne _).1 rfl)).2 ?_
  rintro ⟨b, r, hb, h⟩
  cases b with
  | nil => cases h
  | cons d b =>
    obtain ⟨rfl, -⟩ := List.cons.inj h
    have := hb 'a' List.mem_cons_self
    revert this
    decide

end Relay.Pipeline
