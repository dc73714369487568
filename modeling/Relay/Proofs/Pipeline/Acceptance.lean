import Relay.Orchestrator
import Relay.Proofs.Pipeline.Redirect
import Relay.Proofs.Validation

/-!
# Which commands are accepted

`Orchestrator.ofCommand_answers` says, for every command, what asking for its orchestrator answers.

The command is taken apart as it is written.  A delimiter has positions where it starts (`starts`),
and at one of them at most a text is split, into what stands in front and what stands behind
(`SplitOnce`).  Reading follows this exactly: it counts the same positions
(`splitRedirect_eq_error_iff`) and answers the same parts (`splitRedirect_of_splitOnce`), so every
pipeline that is read is laid out from them (`parse_eq_ok_iff_laidOut`).  What validation then finds
is a list that can be read off the segments and the targets, blank or not (`complaints`,
`reasons_laidOut`).
-/

namespace Relay

open Text

namespace Text

/-! ## Where a delimiter starts -/

/-- The positions of a text where a delimiter starts. -/
def starts (d t : Text) : List Nat := (List.range t.length).filter fun i => d.isPrefixOf (t.drop i)

theorem length_starts (d t : Text) : (starts d t).length = occurrences d t := by
  unfold starts
  rw [← List.countP_eq_length_filter]
  induction t with
  | nil => rfl
  | cons c t ih =>
    rw [List.length_cons, List.range_succ_eq_map, List.countP_cons, List.countP_map, occurrences,
      Nat.add_comm, ← ih]
    rfl

/-- A text with at most one delimiter, what stands in front of it, and what stands behind it if
there is one. -/
inductive SplitOnce (d : Text) : Text → Text → Option Text → Prop where
  | whole {t : Text} (h : (starts d t).length = 0) : SplitOnce d t t none
  | cut {x y : Text} (h : (starts d (x ++ d ++ y)).length = 1) :
      SplitOnce d (x ++ d ++ y) x (some y)

theorem exists_splitOnce {d t : Text} (h : (starts d t).length < 2) : ∃ x y, SplitOnce d t x y := by
  by_cases hzero : (starts d t).length = 0
  · exact ⟨t, none, .whole hzero⟩
  · have hone : (starts d t).length = 1 := by omega
    rw [length_starts] at hzero
    obtain ⟨x, y, rfl, -⟩ := exists_delimiter hzero
    exact ⟨x, some y, .cut hone⟩

end Text

namespace Pipeline

/-! ## Splitting off a redirect -/

/-- What is read on in front of a redirect: trimmed if there is one. -/
def remainder (x : Text) (target : Option Text) : Text := if target.isSome then trim x else x

theorem splitRedirect_eq_error_iff (d t : Text) (n : Nat) :
    splitRedirect d t = .error n ↔ n = (starts d t).length ∧ 2 ≤ n := by
  rw [length_starts]
  rcases Nat.lt_or_ge (occurrences d t) 2 with h | h
  · have hcases : occurrences d t = 0 ∨ occurrences d t = 1 := by omega
    refine iff_of_false ?_ (by omega)
    rcases hcases with h | h <;> simp only [splitRedirect, h]
    · intro he
      cases he
    · intro he
      split at he <;> cases he
  · obtain ⟨k, hk⟩ := Nat.exists_eq_add_of_le' h
    simp only [splitRedirect, hk, Except.error.injEq]
    omega

theorem splitRedirect_of_splitOnce {m t x : Text} {y : Option Text} (hm : m.IsWord)
    (h : SplitOnce (' ' :: m) t x y) :
    splitRedirect (' ' :: m) t = .ok (remainder x y, y.map trim) := by
  cases h with
  | whole h =>
    rw [length_starts] at h
    exact splitRedirect_of_zero h
  | @cut x y h =>
    have hcount := occurrences_delimiter hm x y
    rw [length_starts, hcount] at h
    rw [splitRedirect_delimiter hm, if_pos (by omega)]
    rfl

/-! ## The answers of reading -/

section Reading

variable {command x : Text} {err : Option Text}

theorem parse_eq_error_repeatedStderr_iff (n : Nat) :
    parse command = .error (.repeatedStderr n) ↔
      n = (starts stderrDelimiter command).length ∧ 2 ≤ n := by
  rw [← splitRedirect_eq_error_iff]
  cases h : splitRedirect stderrDelimiter command with
  | error k =>
    have hparse : parse command = .error (.repeatedStderr k) := by
      unfold parse
      rw [h]
      rfl
    rw [hparse, Except.error.injEq, ParseError.repeatedStderr.injEq, Except.error.injEq]
  | ok parts =>
    obtain ⟨u, target⟩ := parts
    rw [parse_of_splitRedirect h, readRest]
    cases splitRedirect stdoutDelimiter u with
    | error k => exact iff_of_false nofun nofun
    | ok parts => exact iff_of_false nofun nofun

theorem parse_of_splitOnce (h : SplitOnce stderrDelimiter command x err) :
    parse command = readRest (err.map trim) (remainder x err) :=
  parse_of_splitRedirect (splitRedirect_of_splitOnce isWord_stderrMark h)

theorem readRest_eq_error_iff (target : Option Text) (u : Text) (e : ParseError) :
    readRest target u = .error e ↔
      ∃ m, e = .repeatedStdout m ∧ m = (starts stdoutDelimiter u).length ∧ 2 ≤ m := by
  simp only [← splitRedirect_eq_error_iff]
  unfold readRest
  cases splitRedirect stdoutDelimiter u with
  | error k =>
    constructor
    · intro h
      cases h
      exact ⟨k, rfl, rfl⟩
    · rintro ⟨m, rfl, h⟩
      cases h
      rfl
  | ok parts => exact iff_of_false nofun nofun

theorem parseStages_remainder (x : Text) (target : Option Text) :
    parseStages (remainder x target) = parseStages x := by
  unfold remainder
  split
  · exact parseStages_trim x
  · rfl

theorem readRest_of_splitOnce {u : Text} {y : Option Text} (h : SplitOnce stdoutDelimiter u x y)
    (target : Option Text) : readRest target u = .ok ⟨parseStages x, y.map trim, target⟩ := by
  rw [readRest_eq_ok (splitRedirect_of_splitOnce isWord_stdoutMark h), parseStages_remainder]

/-- The pipeline of a command that is split at both redirects. -/
def laidOut (r : Text) (out err : Option Text) : Pipeline :=
  { stages := (pieces (· == '|') r).map fun segment => ⟨words segment⟩
    stdoutTarget := out.map trim
    stderrTarget := err.map trim }

theorem parse_of_splitOnce_splitOnce {r : Text} {out : Option Text}
    (hx : SplitOnce stderrDelimiter command x err)
    (hr : SplitOnce stdoutDelimiter (remainder x err) r out) :
    parse command = .ok (laidOut r out err) := by
  rw [parse_of_splitOnce hx, readRest_of_splitOnce hr]
  rfl

/-- What is read is laid out from a command that is split at both redirects. -/
theorem parse_eq_ok_iff_laidOut (p : Pipeline) :
    parse command = .ok p ↔ ∃ x err r out, SplitOnce stderrDelimiter command x err ∧
      SplitOnce stdoutDelimiter (remainder x err) r out ∧ p = laidOut r out err := by
  constructor
  · intro h
    have hstderr : (starts stderrDelimiter command).length < 2 := by
      by_contra hle
      have herror := (parse_eq_error_repeatedStderr_iff _).2 ⟨rfl, Nat.le_of_not_lt hle⟩
      rw [h] at herror
      cases herror
    obtain ⟨x, err, hx⟩ := exists_splitOnce hstderr
    have hstdout : (starts stdoutDelimiter (remainder x err)).length < 2 := by
      by_contra hle
      have herror := (readRest_eq_error_iff (err.map trim) _ _).2
        ⟨_, rfl, rfl, Nat.le_of_not_lt hle⟩
      rw [← parse_of_splitOnce hx, h] at herror
      cases herror
    obtain ⟨r, out, hr⟩ := exists_splitOnce hstdout
    have hread := parse_of_splitOnce_splitOnce hx hr
    rw [h, Except.ok.injEq] at hread
    exact ⟨x, err, r, out, hx, hr, hread⟩
  · rintro ⟨x, err, r, out, hx, hr, rfl⟩
    exact parse_of_splitOnce_splitOnce hx hr

end Reading

/-! ## What validation finds -/

theorem isEmpty_words (t : Text) : (words t).isEmpty = t.all isBlank := by
  rw [Bool.eq_iff_iff, List.isEmpty_iff, words_eq_nil_iff, List.all_eq_true]

theorem map_trim_eq_some_nil_iff (target : Option Text) :
    target.map trim = some [] ↔ target.any (List.all · isBlank) := by
  cases target with
  | none => simp
  | some t => simp [trim_eq_nil_iff]

theorem stageIssues_eq (stages : List Stage) :
    stageIssues stages = ((List.range stages.length).filter fun k =>
      stages[k]?.any Stage.isEmpty).map emptyStageIssue := by
  induction stages using List.reverseRecOn with
  | nil => rfl
  | append_singleton stages s ih =>
    have hfirst : ∀ k ∈ List.range stages.length,
        (stages ++ [s])[k]?.any Stage.isEmpty = stages[k]?.any Stage.isEmpty := by
      intro k hk
      rw [List.getElem?_append_left (List.mem_range.1 hk)]
    rw [stageIssues, List.zipIdx_append, List.filter_append, List.map_append, ← stageIssues, ih,
      List.length_append, List.length_singleton, List.range_succ, List.filter_append,
      List.map_append, List.filter_congr hfirst]
    cases hs : s.isEmpty <;> simp [hs]

/-- The reasons against a command: one for each blank segment, in the order of the segments, then
one for each blank target. -/
def complaints (segments : List Text) (out err : Option Text) : List String :=
  ((List.range segments.length).filter fun k => segments[k]?.any (List.all · isBlank)).map
      (fun k => s!"stage {k + 1} has no program")
    ++ (if out.any (List.all · isBlank) then ["standard-output redirect has no target"] else [])
    ++ (if err.any (List.all · isBlank) then ["error-output redirect has no target"] else [])

theorem laidOut_stages_ne_nil (r : Text) (out err : Option Text) :
    (laidOut r out err).stages ≠ [] := parseStages_ne_nil r

theorem reasons_laidOut (r : Text) (out err : Option Text) :
    (laidOut r out err).reasons = complaints (pieces (· == '|') r) out err := by
  have hblank : ∀ k : Nat, (laidOut r out err).stages[k]?.any Stage.isEmpty =
      (pieces (· == '|') r)[k]?.any (List.all · isBlank) := by
    intro k
    rw [laidOut, List.getElem?_map, Option.any_map]
    simp only [Stage.isEmpty, isEmpty_words]
  have hne : (laidOut r out err).stages.isEmpty = false :=
    List.isEmpty_eq_false_iff.2 (laidOut_stages_ne_nil r out err)
  unfold reasons issues complaints
  rw [hne, stageIssues_eq]
  simp only [hblank]
  simp only [laidOut, map_trim_eq_some_nil_iff, List.length_map, List.map_append, List.map_map,
    apply_ite (List.map Issue.message)]
  rfl

/-- A command that is read has stages, whatever is wrong with them. -/
theorem kind_ne_noStages_of_parse {command : Text} {p : Pipeline} (h : parse command = .ok p) :
    ∀ issue ∈ p.issues, issue.kind ≠ .noStages := by
  obtain ⟨u, v, -, -, hstages⟩ := (parse_eq_ok_iff command p).1 h
  have hne : p.stages.isEmpty = false := by
    rw [List.isEmpty_eq_false_iff, ← hstages]
    exact parseStages_ne_nil v
  intro issue hissue
  unfold issues at hissue
  rw [hne] at hissue
  simp only [Bool.false_eq_true, if_false, List.nil_append, List.mem_append,
    List.mem_ite_nil_right, List.mem_singleton] at hissue
  rcases hissue with (hstage | ⟨-, rfl⟩) | ⟨-, rfl⟩
  · obtain ⟨k, -, rfl⟩ := List.mem_map.1 hstage
    nofun
  · nofun
  · nofun

def hasBlank (segments : List Text) (out err : Option Text) : Bool :=
  segments.any (List.all · isBlank) || out.any (List.all · isBlank) || err.any (List.all · isBlank)

theorem complaints_eq_nil_iff (segments : List Text) (out err : Option Text) :
    complaints segments out err = [] ↔ hasBlank segments out err = false := by
  have hsegments : ((List.range segments.length).filter fun k =>
      segments[k]?.any (List.all · isBlank)) = [] ↔ ¬ segments.any (List.all · isBlank) := by
    rw [List.filter_eq_nil_iff, List.any_eq_true, not_exists]
    constructor
    · rintro h t ⟨ht, hblank⟩
      obtain ⟨k, hk, rfl⟩ := List.getElem_of_mem ht
      refine h k (List.mem_range.2 hk) ?_
      rw [List.getElem?_eq_getElem hk, Option.any_some, hblank]
    · intro h k hk hblank
      rw [List.getElem?_eq_getElem (List.mem_range.1 hk), Option.any_some] at hblank
      exact h _ ⟨List.getElem_mem _, hblank⟩
  unfold complaints hasBlank
  rw [List.append_eq_nil_iff, List.append_eq_nil_iff, List.map_eq_nil_iff, hsegments]
  simp

end Pipeline

namespace Orchestrator

open Pipeline

variable {ω : Type}

theorem ofCommand_of_parse_error {command : Text} {e : ParseError} (h : parse command = .error e)
    (settings : Settings) (world : ω) :
    ofCommand command settings world = .error (.parse e) := by
  unfold ofCommand Pipeline.read
  rw [h]
  rfl

theorem ofCommand_of_parse {command : Text} {p : Pipeline} (h : parse command = .ok p)
    (settings : Settings) (world : ω) :
    ofCommand command settings world =
      if p.reasons = [] then .ok { pipeline := p, settings, world }
      else .error (.invalid p.reasons) := by
  have hvalid : p.isValid = true ↔ p.reasons = [] := by
    rw [isValid, reasons, List.isEmpty_iff, List.map_eq_nil_iff]
  unfold ofCommand Pipeline.read
  rw [h]
  by_cases hnil : p.reasons = []
  · rw [if_pos hnil]
    simp only [Except.mapError, bind, Except.bind, ofPipeline, check, hvalid.2 hnil, if_true]
    rfl
  · rw [if_neg hnil]
    simp only [Except.mapError, bind, Except.bind, ofPipeline, check, mt hvalid.1 hnil, if_false,
      Bool.false_eq_true]

theorem ofCommand_eq_error_parse_iff (command : Text) (settings : Settings) (world : ω)
    (e : ParseError) :
    ofCommand command settings world = .error (.parse e) ↔ parse command = .error e := by
  cases h : parse command with
  | error e' =>
    rw [ofCommand_of_parse_error h, Except.error.injEq, Refusal.parse.injEq, Except.error.injEq]
  | ok p =>
    rw [ofCommand_of_parse h]
    split <;> exact iff_of_false nofun nofun

/-- **What every command is answered.**  A redirect that is written more than once is an error with
its count, the error-output redirect first.  Without such an error the command is split twice, and
is invalid exactly if a segment or a target is blank, with one reason for each of them; otherwise it
is accepted with one stage for each segment.  No command lacks stages. -/
theorem ofCommand_answers (command : Text) (settings : Settings) (world : ω) :
    (∀ n, ofCommand command settings world = .error (.parse (.repeatedStderr n)) ↔
        n = (starts stderrDelimiter command).length ∧ 2 ≤ n) ∧
      ((starts stderrDelimiter command).length < 2 →
        ∃ x err, SplitOnce stderrDelimiter command x err) ∧
      (∀ x err, SplitOnce stderrDelimiter command x err →
        (∀ m, ofCommand command settings world = .error (.parse (.repeatedStdout m)) ↔
            m = (starts stdoutDelimiter (remainder x err)).length ∧ 2 ≤ m) ∧
          ((starts stdoutDelimiter (remainder x err)).length < 2 →
            ∃ r out, SplitOnce stdoutDelimiter (remainder x err) r out) ∧
          ∀ r out, SplitOnce stdoutDelimiter (remainder x err) r out →
            (∀ reasons, ofCommand command settings world = .error (.invalid reasons) ↔
                hasBlank (pieces (· == '|') r) out err = true ∧
                  reasons = complaints (pieces (· == '|') r) out err) ∧
              (hasBlank (pieces (· == '|') r) out err = false →
                ∃ o, ofCommand command settings world = .ok o ∧ o.running = false ∧
                  o.pipeline = laidOut r out err)) ∧
      ∀ p, parse command = .ok p → ∀ issue ∈ p.issues, issue.kind ≠ .noStages := by
  refine ⟨?_, exists_splitOnce, ?_, fun p hp => kind_ne_noStages_of_parse hp⟩
  · intro n
    rw [ofCommand_eq_error_parse_iff, parse_eq_error_repeatedStderr_iff]
  · intro x err hx
    refine ⟨?_, exists_splitOnce, ?_⟩
    · intro m
      rw [ofCommand_eq_error_parse_iff, parse_of_splitOnce hx, readRest_eq_error_iff]
      constructor
      · rintro ⟨k, hk, hm⟩
        cases hk
        exact hm
      · intro hm
        exact ⟨m, rfl, hm⟩
    · intro r out hr
      rw [ofCommand_of_parse (parse_of_splitOnce_splitOnce hx hr), reasons_laidOut]
      have hnil := complaints_eq_nil_iff (pieces (· == '|') r) out err
      cases hblank : hasBlank (pieces (· == '|') r) out err with
      | false =>
        rw [if_pos (hnil.2 hblank)]
        exact ⟨fun reasons => iff_of_false nofun nofun, fun _ => ⟨_, rfl, rfl, rfl⟩⟩
      | true =>
        have hne : complaints (pieces (· == '|') r) out err ≠ [] := by
          rw [ne_eq, hnil, hblank]
          nofun
        rw [if_neg hne]
        refine ⟨?_, nofun⟩
        intro reasons
        rw [Except.error.injEq, Refusal.invalid.injEq, and_iff_right rfl, eq_comm]

/-- A command with nothing in front of its pipe character and nothing behind its second redirect. -/
theorem ofCommand_answers_blank :
    let front : Text := ['|', ' ', 'a', ' ', '>', ' ', 'b']
    let command : Text := front ++ stderrDelimiter ++ [' ']
    SplitOnce stderrDelimiter command front (some [' ']) ∧
      SplitOnce stdoutDelimiter front ['|', ' ', 'a'] (some [' ', 'b']) ∧
      ofCommand command {} () = .error (.invalid
        ["stage 1 has no program", "error-output redirect has no target"]) := by
  intro front command
  have herr : SplitOnce stderrDelimiter command front (some [' ']) := .cut (by decide)
  have hout : SplitOnce stdoutDelimiter front ['|', ' ', 'a'] (some [' ', 'b']) :=
    @SplitOnce.cut _ ['|', ' ', 'a'] [' ', 'b'] (by decide)
  obtain ⟨-, -, hsplit, -⟩ := ofCommand_answers command {} ()
  obtain ⟨-, -, hanswer⟩ := hsplit _ _ herr
  exact ⟨herr, hout, ((hanswer _ _ hout).1 _).2 ⟨by decide, by decide⟩⟩

end Orchestrator

end Relay
