import Relay.Proofs.Pipeline.Redirect

/-!
# What commands are read as

`exists_parse_eq_ok_iff`: a pipeline is read from some command exactly if it is `Readable`.

What is read is readable because each redirect is split off at its only delimiter: none is left in
the target, and none in what is read on (`readable_of_parse`).  For the converse a readable pipeline
is written without any space but those of its delimiters (`compact`): tabs part the tokens, and
neither a pipe character nor a target has a space next to it.  So a delimiter can only start where
one is written, and the command is read back (`parse_compact`).
-/

namespace Relay.Pipeline

open Text

/-- The pipelines that are read from some command. -/
structure Readable (p : Pipeline) : Prop where
  stages_ne_nil : p.stages ≠ []
  tokens : ∀ s ∈ p.stages, ∀ t ∈ s.argv, IsToken t
  stdout : ∀ t ∈ p.stdoutTarget, trim t = t ∧ ¬ stdoutDelimiter <:+: t ∧ ¬ stderrDelimiter <:+: t
  stderr : ∀ t ∈ p.stderrTarget, trim t = t ∧ ¬ stderrDelimiter <:+: t
  /-- With both redirects something stands in front of the first one. -/
  apart : ¬ (p.stages = [⟨[]⟩] ∧ p.stdoutTarget.isSome ∧ p.stderrTarget.isSome)

/-! ## What is read is readable -/

section Split

variable {m t r : Text} {target : Option Text} (hm : m.IsWord)
include hm

theorem target_of_splitRedirect (h : splitRedirect (' ' :: m) t = .ok (r, target)) :
    ∀ y ∈ target, trim y = y ∧ ¬ (' ' :: m) <:+: y ∧ y <:+: t := by
  rintro y rfl
  obtain ⟨x, z, rfl, -, hz, -, rfl⟩ := exists_of_splitRedirect hm h
  have hzero := occurrences_trim_of_zero hz
  refine ⟨trim_trim z, (occurrences_eq_zero_iff (List.cons_ne_nil _ _) _).1 hzero, ?_⟩
  exact (isInfix_trim z).trans (List.suffix_append _ z).isInfix

theorem isInfix_of_splitRedirect (h : splitRedirect (' ' :: m) t = .ok (r, target)) : r <:+: t := by
  cases target with
  | none =>
    obtain ⟨-, rfl⟩ := (splitRedirect_eq_none_iff hm t r).1 h
    exact List.infix_rfl
  | some y =>
    obtain ⟨x, z, rfl, -, -, rfl, -⟩ := exists_of_splitRedirect hm h
    rw [List.append_assoc]
    exact (isInfix_trim x).trans (List.prefix_append x _).isInfix

theorem not_infix_of_splitRedirect (h : splitRedirect (' ' :: m) t = .ok (r, target)) :
    ¬ (' ' :: m) <:+: r := by
  rw [← occurrences_eq_zero_iff (List.cons_ne_nil _ _)]
  cases target with
  | none =>
    obtain ⟨hzero, rfl⟩ := (splitRedirect_eq_none_iff hm t r).1 h
    exact hzero
  | some y =>
    obtain ⟨x, z, -, hx, -, rfl, -⟩ := exists_of_splitRedirect hm h
    exact occurrences_trim_of_zero hx

end Split

theorem readable_of_parse {t : Text} {p : Pipeline} (h : parse t = .ok p) : p.Readable := by
  obtain ⟨u, v, hu, hv, hstages⟩ := (parse_eq_ok_iff t p).1 h
  have hfree : ¬ stderrDelimiter <:+: u := not_infix_of_splitRedirect isWord_stderrMark hu
  refine ⟨?_, ?_, ?_, ?_, ?_⟩
  · rw [← hstages]
    exact parseStages_ne_nil v
  · intro s hs w hw
    rw [← hstages] at hs
    exact isToken_of_mem_parseStages hs hw
  · intro y hy
    obtain ⟨htrim, hout, hinfix⟩ := target_of_splitRedirect isWord_stdoutMark hv y hy
    exact ⟨htrim, hout, fun hi => hfree (hi.trans hinfix)⟩
  · intro y hy
    obtain ⟨htrim, herr, -⟩ := target_of_splitRedirect isWord_stderrMark hu y hy
    exact ⟨htrim, herr⟩
  · rintro ⟨hempty, hout, herr⟩
    obtain ⟨out, hout⟩ := Option.isSome_iff_exists.1 hout
    obtain ⟨err, herr⟩ := Option.isSome_iff_exists.1 herr
    rw [herr] at hu
    rw [hout] at hv
    -- the error-output redirect left its front trimmed
    obtain ⟨x, -, -, -, -, rfl, -⟩ := exists_of_splitRedirect isWord_stderrMark hu
    exact parseStages_ne_of_splitRedirect_trim isWord_stdoutMark hv (hstages.trans hempty)

/-! ## Writing without spaces -/

/-- A stage with tabs between its tokens. -/
def compactStage (s : Stage) : Text := join ['\t'] s.argv

/-- The stages with nothing but pipe characters between them. -/
def compactStages (ss : List Stage) : Text := join ['|'] (ss.map compactStage)

/-- A redirect whose target stands right behind the delimiter. -/
def attached (delimiter : Text) : Option Text → Text
  | none => []
  | some target => delimiter ++ target

/-- The pipeline as a command without spaces but for those of its delimiters. -/
def compact (p : Pipeline) : Text :=
  compactStages p.stages ++ attached stdoutDelimiter p.stdoutTarget
    ++ attached stderrDelimiter p.stderrTarget

section Compact

variable {ss : List Stage} (htok : ∀ s ∈ ss, ∀ t ∈ s.argv, IsToken t)

theorem space_not_mem_compactStage {s : Stage} (hs : ∀ t ∈ s.argv, IsToken t) :
    ' ' ∉ compactStage s :=
  not_mem_join (by decide) fun t ht => (hs t ht).not_mem isBlank_space

theorem pipe_not_mem_compactStage {s : Stage} (hs : ∀ t ∈ s.argv, IsToken t) :
    '|' ∉ compactStage s :=
  not_mem_join (by decide) fun t ht => (hs t ht).noPipe

include htok

theorem occurrences_compactStages (m : Text) : occurrences (' ' :: m) (compactStages ss) = 0 := by
  have hspace : ' ' ∉ compactStages ss := by
    refine not_mem_join (by decide) ?_
    rw [List.forall_mem_map]
    exact fun s hs => space_not_mem_compactStage (htok s hs)
  exact occurrences_of_not_mem hspace

/-- Compact stages are read back. -/
theorem parseStages_compactStages (hne : ss ≠ []) : parseStages (compactStages ss) = ss := by
  have hpieces : pieces (· == '|') (compactStages ss) = ss.map compactStage := by
    refine pieces_join rfl (by simpa using hne) ?_
    rw [List.forall_mem_map]
    exact fun s hs => forall_beq_eq_false_iff.2 (pipe_not_mem_compactStage (htok s hs))
  have hwords : ∀ s ∈ ss, (⟨words (compactStage s)⟩ : Stage) = s := by
    intro s hs
    rw [compactStage, words_join (by decide) fun t ht => (htok s hs t ht).toIsWord]
  rw [parseStages, hpieces, List.map_map]
  exact (List.map_congr_left hwords).trans (List.map_id' ss)

theorem trimStart_compactStages_ne_nil (hne : ss ≠ []) (hss : ss ≠ [⟨[]⟩]) :
    trimStart (compactStages ss) ≠ [] := by
  intro hnil
  have hread := parseStages_compactStages htok hne
  rw [← parseStages_trim, trim, hnil] at hread
  exact hss hread.symm

end Compact

/-! ## Reading it back -/

section Attached

variable {x : Text}

theorem occurrences_attached (hx : occurrences stderrDelimiter x = 0) {out : Option Text}
    (hout : ∀ t ∈ out, ¬ stderrDelimiter <:+: t) :
    occurrences stderrDelimiter (x ++ attached stdoutDelimiter out) = 0 := by
  cases out with
  | none => rwa [attached, List.append_nil]
  | some t =>
    have ht : occurrences stderrDelimiter t = 0 :=
      (occurrences_eq_zero_iff (List.cons_ne_nil _ _) t).2 (hout t rfl)
    have hmark : occurrences (' ' :: stderrMark) (' ' :: '>' :: t) = 0 := by
      rw [occurrences_space, occurrences_cons, ← stderrDelimiter_eq, ht]
      simp [stderrDelimiter, stderrMark]
    rw [attached, stdoutDelimiter, List.cons_append, stderrDelimiter_eq,
      occurrences_append_cons isWord_stderrMark isBlank_space]
    exact Nat.add_eq_zero_iff.2 ⟨hx, hmark⟩

/-- An attached redirect is split off if neither side of it holds its delimiter. -/
theorem splitRedirect_attached {m : Text} (hm : m.IsWord) (hx : occurrences (' ' :: m) x = 0)
    {target : Option Text} (h : ∀ t ∈ target, trim t = t ∧ ¬ (' ' :: m) <:+: t) :
    splitRedirect (' ' :: m) (x ++ attached (' ' :: m) target) =
      .ok (if target.isSome then trim x else x, target) := by
  cases target with
  | none =>
    rw [attached, List.append_nil, splitRedirect_of_zero hx]
    rfl
  | some t =>
    obtain ⟨htrim, hfree⟩ := h t rfl
    rw [attached, ← List.append_assoc, splitRedirect_delimiter_eq_ok_iff hm]
    exact ⟨hx, (occurrences_eq_zero_iff (List.cons_ne_nil _ _) t).2 hfree, rfl, by rw [htrim]⟩

/-- The standard-output redirect is split off in front of an error-output redirect as well, if
something stands before it. -/
theorem exists_splitRedirect_attached (hx : occurrences stdoutDelimiter x = 0) {out : Option Text}
    (h : ∀ t ∈ out, trim t = t ∧ ¬ stdoutDelimiter <:+: t) (isTrimmed : Bool)
    (hfront : isTrimmed → out.isSome → trimStart x ≠ []) :
    ∃ v, splitRedirect stdoutDelimiter
        (if isTrimmed then trim (x ++ attached stdoutDelimiter out)
          else x ++ attached stdoutDelimiter out) = .ok (v, out) ∧
      parseStages v = parseStages x := by
  have hsplit := splitRedirect_attached isWord_stdoutMark hx h
  have hstages : parseStages (if out.isSome then trim x else x) = parseStages x := by
    split
    · exact parseStages_trim x
    · rfl
  cases isTrimmed with
  | false => exact ⟨_, hsplit, hstages⟩
  | true =>
    cases out with
    | none =>
      refine ⟨trim x, ?_, parseStages_trim x⟩
      rw [if_pos rfl, attached, List.append_nil]
      exact splitRedirect_of_zero (occurrences_trim_of_zero hx)
    | some t =>
      have htrim := splitRedirect_trim isWord_stdoutMark (hfront rfl rfl) hx t
      rw [List.append_assoc] at htrim
      exact ⟨_, htrim.trans hsplit, hstages⟩

end Attached

theorem parse_compact {p : Pipeline} (h : p.Readable) : parse p.compact = .ok p := by
  have hzero := occurrences_compactStages h.tokens
  have hfront : p.stderrTarget.isSome → p.stdoutTarget.isSome →
      trimStart (compactStages p.stages) ≠ [] := by
    intro herr hout
    refine trimStart_compactStages_ne_nil h.tokens h.stages_ne_nil ?_
    exact fun hempty => h.apart ⟨hempty, hout, herr⟩
  have hstderr := splitRedirect_attached isWord_stderrMark
    (occurrences_attached (hzero stderrMark) fun t ht => (h.stdout t ht).2.2) h.stderr
  obtain ⟨v, hstdout, hstages⟩ := exists_splitRedirect_attached (hzero stdoutMark)
    (fun t ht => ⟨(h.stdout t ht).1, (h.stdout t ht).2.1⟩) p.stderrTarget.isSome hfront
  rw [parse_eq_ok_iff]
  refine ⟨_, v, hstderr, hstdout, ?_⟩
  rw [hstages, parseStages_compactStages h.tokens h.stages_ne_nil]

/-- Tokens and a target that look like redirects. -/
example :
    let p : Pipeline := ⟨[⟨[['>', 'x'], ['2', '>', 'y']]⟩], some ['2', '>'], some []⟩
    parse p.compact = .ok p := rfl

/-- **A pipeline is read from some command exactly if it is readable.** -/
theorem exists_parse_eq_ok_iff (p : Pipeline) : (∃ t, parse t = .ok p) ↔ p.Readable := by
  constructor
  · rintro ⟨t, h⟩
    exact readable_of_parse h
  · intro h
    exact ⟨p.compact, parse_compact h⟩

end Relay.Pipeline
