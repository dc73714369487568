import Relay.Proofs.Pipeline.Acceptance

/-!
# Two commands with a pipe character between them

`parse_pipe`: a command without redirects, a pipe character and another command are read as the
other command, with the stages of the first in front of its own.

1. No delimiter holds a pipe character.  So delimiters are counted, and found, in the second command
   alone (`SplitOnce.behind`), and reading it answers what it would answer without the first
   (`readRest_pipe`).
2. An error-output redirect trims what it is split off from.  Behind a pipe character the second
   command keeps the blanks it starts with.  They make a difference in one place only, where the
   space of a standard-output delimiter is one of them; then the first visible character of the
   second command is that delimiter's (`find?_of_startsRedirected`).
-/

namespace Relay

open Text

namespace Text

section Behind

variable {d a : Text} {c : Char} (hd : d ≠ []) (hc : c ∉ d) (ha : occurrences d a = 0)
include hd hc ha

theorem length_starts_behind (t : Text) :
    (starts d (a ++ c :: t)).length = (starts d t).length := by
  rw [length_starts, length_starts, occurrences_append_of_not_mem hd hc, ha, Nat.zero_add]

theorem SplitOnce.behind {t x : Text} {y : Option Text} (h : SplitOnce d t x y) :
    SplitOnce d (a ++ c :: t) (a ++ c :: x) y := by
  cases h with
  | whole h => exact .whole ((length_starts_behind hd hc ha t).trans h)
  | @cut x y h =>
    have hassoc : a ++ c :: (x ++ d ++ y) = a ++ c :: x ++ d ++ y := by simp
    rw [← length_starts_behind hd hc ha, hassoc] at h
    rw [hassoc]
    exact .cut h

end Behind

end Text

namespace Pipeline

def prepend (stages : List Stage) (p : Pipeline) : Pipeline :=
  { p with stages := stages ++ p.stages }

theorem stdoutDelimiter_ne_nil : stdoutDelimiter ≠ [] := List.cons_ne_nil _ _

theorem stderrDelimiter_ne_nil : stderrDelimiter ≠ [] := List.cons_ne_nil _ _

theorem pipe_not_mem_stdoutDelimiter : '|' ∉ stdoutDelimiter := by decide

theorem pipe_not_mem_stderrDelimiter : '|' ∉ stderrDelimiter := by decide

theorem parseStages_trimStart (t : Text) : parseStages (trimStart t) = parseStages t :=
  apply_trimStart (fun _ t hc => parseStages_cons hc t) t

/-! ## The standard-output redirect -/

/-- What stands in front of a pipe character adds its stages, whatever is read behind it. -/
theorem readRest_pipe {a : Text} (ha : occurrences stdoutDelimiter a = 0) (target : Option Text)
    (u : Text) :
    readRest target (a ++ '|' :: u) = (readRest target u).map (prepend (parseStages a)) := by
  by_cases hlt : (starts stdoutDelimiter u).length < 2
  · obtain ⟨x, y, hx⟩ := exists_splitOnce hlt
    have hbehind := hx.behind stdoutDelimiter_ne_nil pipe_not_mem_stdoutDelimiter ha
    rw [readRest_of_splitOnce hx, readRest_of_splitOnce hbehind, parseStages_append_cons]
    rfl
  · have hcount := length_starts_behind stdoutDelimiter_ne_nil pipe_not_mem_stdoutDelimiter ha u
    have hle : 2 ≤ (starts stdoutDelimiter u).length := Nat.le_of_not_lt hlt
    rw [(readRest_eq_error_iff target u _).2 ⟨_, rfl, rfl, hle⟩,
      (readRest_eq_error_iff target _ _).2 ⟨_, rfl, hcount.symm, hle⟩]
    rfl

/-! ## The error-output redirect -/

theorem find?_of_startsRedirected {t u : Text} (h : StartsRedirected t) (hp : t <+: u) :
    u.find? (fun c => !isBlank c) = some '>' := by
  obtain ⟨b, r, hb, rfl⟩ := h
  obtain ⟨s, rfl⟩ := hp
  have hblank : b.find? (fun c => !isBlank c) = none := by simpa using hb
  rw [List.append_assoc, List.append_assoc, List.find?_append, hblank]
  rfl

/-- Behind a pipe character it makes no difference that the blanks in front of the second command
are kept, unless it starts with a standard-output redirect. -/
theorem readRest_trim_pipe {a x : Text} (ha : occurrences stdoutDelimiter a = 0)
    (hx : ¬ StartsRedirected (trimEnd x)) (target : Option Text) :
    readRest target (trim (a ++ '|' :: x)) =
      (readRest target (trim x)).map (prepend (parseStages a)) := by
  have hstart : occurrences stdoutDelimiter (trimStart a) = 0 := by
    rw [occurrences_eq_zero_iff stdoutDelimiter_ne_nil] at ha ⊢
    exact fun hi => ha (hi.trans (List.dropWhile_suffix _).isInfix)
  calc readRest target (trim (a ++ '|' :: x))
      = readRest target (trimStart a ++ '|' :: trimEnd x) := by
        rw [trim_append_cons (by decide)]
    _ = (readRest target (trimEnd x)).map (prepend (parseStages a)) := by
        rw [readRest_pipe hstart, parseStages_trimStart]
    _ = (readRest target (trim x)).map (prepend (parseStages a)) := by
        rw [← trim_trimEnd, readRest_trim hx]

/-- **The stages of a command without redirects stand in front of those of the command behind its
pipe character**, which is otherwise read as if it stood alone: with the same redirects, or with the
same error.  Only a second command that starts with a standard-output redirect is excepted. -/
theorem parse_pipe {a b : Text} (hout : ¬ stdoutDelimiter <:+: a) (herr : ¬ stderrDelimiter <:+: a)
    (hb : b.find? (fun c => !isBlank c) ≠ some '>') :
    ∃ p, parse a = .ok p ∧ p.stdoutTarget = none ∧ p.stderrTarget = none ∧
      parse (a ++ '|' :: b) = (parse b).map (prepend p.stages) := by
  have hout' := (occurrences_eq_zero_iff stdoutDelimiter_ne_nil a).2 hout
  have herr' := (occurrences_eq_zero_iff stderrDelimiter_ne_nil a).2 herr
  have hfirst : parse a = .ok ⟨parseStages a, none, none⟩ := by
    rw [parse_eq_readRest herr, readRest_eq_ok (splitRedirect_of_zero hout')]
  refine ⟨_, hfirst, rfl, rfl, ?_⟩
  by_cases hlt : (starts stderrDelimiter b).length < 2
  · obtain ⟨x, err, hx⟩ := exists_splitOnce hlt
    have hbehind := hx.behind stderrDelimiter_ne_nil pipe_not_mem_stderrDelimiter herr'
    rw [parse_of_splitOnce hx, parse_of_splitOnce hbehind]
    cases hx with
    | whole => exact readRest_pipe hout' _ b
    | @cut x y =>
      refine readRest_trim_pipe hout' (fun hstart => hb ?_) _
      refine find?_of_startsRedirected hstart ((isPrefix_trimEnd x).trans ?_)
      rw [List.append_assoc]
      exact List.prefix_append _ _
  · have hcount := length_starts_behind stderrDelimiter_ne_nil pipe_not_mem_stderrDelimiter herr' b
    have hle : 2 ≤ (starts stderrDelimiter b).length := Nat.le_of_not_lt hlt
    rw [(parse_eq_error_repeatedStderr_iff _).2 ⟨rfl, hle⟩,
      (parse_eq_error_repeatedStderr_iff _).2 ⟨hcount.symm, hle⟩]
    rfl

/-- Behind a first command that ends in a pipe character of its own. -/
theorem parse_pipe_of_empty_stage :
    let a : Text := ['a', ' ', '|']
    let b : Text := [' ', 'b', ' ', '>', ' ', 'o', ' ', '2', '>', 'e']
    parse (a ++ '|' :: b) = .ok ⟨[⟨[['a']]⟩, ⟨[]⟩, ⟨[['b']]⟩], some ['o'], some ['e']⟩ := by
  intro a b
  obtain ⟨p, hp, -, -, hpipe⟩ := parse_pipe (a := a) (b := b)
    ((occurrences_eq_zero_iff stdoutDelimiter_ne_nil a).1 rfl)
    ((occurrences_eq_zero_iff stderrDelimiter_ne_nil a).1 rfl) (by decide)
  obtain rfl : ⟨[⟨[['a']]⟩, ⟨[]⟩], none, none⟩ = p := Except.ok.inj hp
  exact hpipe

end Pipeline

end Relay
