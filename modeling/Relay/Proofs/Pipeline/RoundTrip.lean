import Relay.Proofs.Pipeline.Command

/-!
# Writing and reading a command

`parse_render_iff`: a pipeline is read back from the command it is written as exactly if it is
`Legible`.

The two directions share one argument.  Either way the tokens are words without pipe characters, so
the written stages are read back (`parseStages_renderStages`), and a delimiter can only start where
a command has a space.  In the stages that is in front of a token that starts with a mark
(`occurrences_renderStages_eq_zero_iff`), in a redirect at the start of its target or inside it
(`occurrences_append_renderRedirect_eq_zero_iff`).  Splitting off the error-output redirect trims
what is left, which makes a difference in one place: with nothing in front of the standard-output
redirect its delimiter loses its space (`parseStages_ne_of_splitRedirect_trim`).
-/

namespace Relay.Pipeline

open Text

/-! ## Legible pipelines -/

/-- The tokens of some stages except the one that a command starts with: the first token of the
first stage. -/
def laterTokens : List Stage → List Text
  | [] => []
  | s :: ss => s.argv.tail ++ ss.flatMap Stage.argv

/-- The text does not start with the mark and does not have it behind a space. -/
def Unmarked (m t : Text) : Prop := ¬ m <+: t ∧ ¬ (' ' :: m) <:+: t

/-- The pipelines that can be read back from the command they are written as. -/
structure Legible (p : Pipeline) : Prop where
  stages_ne_nil : p.stages ≠ []
  tokens : ∀ s ∈ p.stages, ∀ t ∈ s.argv, IsToken t
  starts : ∀ t ∈ laterTokens p.stages, ¬ stdoutMark <+: t ∧ ¬ stderrMark <+: t
  stdout : ∀ t ∈ p.stdoutTarget, trim t = t ∧ Unmarked stdoutMark t ∧ Unmarked stderrMark t
  stderr : ∀ t ∈ p.stderrTarget, trim t = t ∧ Unmarked stderrMark t
  /-- Nothing in front of two redirects: the first one loses its space. -/
  apart : ¬ (p.stages = [⟨[]⟩] ∧ p.stdoutTarget.isSome ∧ p.stderrTarget.isSome)

/-! ## The stages of a command -/

/-- Some stages as a command writes them. -/
def renderStages (ss : List Stage) : Text := join [' ', '|', ' '] (ss.map Stage.render)

theorem render_eq (p : Pipeline) :
    p.render = renderStages p.stages ++ renderRedirect stdoutDelimiter p.stdoutTarget
      ++ renderRedirect stderrDelimiter p.stderrTarget := rfl

@[simp] theorem renderStages_singleton (s : Stage) : renderStages [s] = s.render :=
  join_singleton _ _

theorem renderStages_cons_cons (s s' : Stage) (ss : List Stage) :
    renderStages (s :: s' :: ss) = s.render ++ [' '] ++ '|' :: ' ' :: renderStages (s' :: ss) := by
  unfold renderStages
  rw [List.map_cons, List.map_cons, join_cons_cons, List.append_assoc]
  rfl

section Tokens

variable {ss : List Stage} (htok : ∀ s ∈ ss, ∀ t ∈ s.argv, IsToken t)

theorem parseStages_render {s : Stage} (hs : ∀ t ∈ s.argv, IsToken t) :
    parseStages s.render = [s] := by
  have hpipe : '|' ∉ s.render := not_mem_join (by decide) fun t ht => (hs t ht).noPipe
  rw [parseStages_of_not_mem hpipe, Stage.render,
    words_join isBlank_space fun t ht => (hs t ht).toIsWord]

include htok

theorem parseStages_renderStages (hne : ss ≠ []) : parseStages (renderStages ss) = ss := by
  induction ss with
  | nil => contradiction
  | cons s ss ih =>
    obtain ⟨hs, hss⟩ := List.forall_mem_cons.1 htok
    cases ss with
    | nil => rw [renderStages_singleton, parseStages_render hs]
    | cons s' ss =>
      rw [renderStages_cons_cons, parseStages_append_cons, parseStages_concat isBlank_space,
        parseStages_cons isBlank_space, parseStages_render hs, ih hss (List.cons_ne_nil _ _)]
      rfl

/-- How written stages start: with a token, with a pipe character that follows an empty stage, or
not at all, if there is at most an empty stage. -/
theorem renderStages_cases :
    (ss = [] ∨ ss = [⟨[]⟩]) ∧ renderStages ss = [] ∨
      (∃ c r, isBlank c = false ∧ renderStages ss = c :: r) ∨
      ∃ r, renderStages ss = ' ' :: '|' :: r := by
  match ss, htok with
  | [], _ => exact .inl ⟨.inl rfl, rfl⟩
  | [⟨[]⟩], _ => exact .inl ⟨.inr rfl, rfl⟩
  | ⟨[]⟩ :: s' :: ss, _ =>
    rw [renderStages_cons_cons]
    exact .inr (.inr ⟨_, rfl⟩)
  | ⟨t :: ts⟩ :: ss, htok =>
    have ht : IsToken t := htok _ List.mem_cons_self t List.mem_cons_self
    obtain ⟨c, t', rfl⟩ := List.exists_cons_of_ne_nil ht.ne_nil
    obtain ⟨r, hr⟩ := exists_join_cons [' '] (c :: t') ts
    obtain ⟨r', hr'⟩ := exists_join_cons [' ', '|', ' '] (join [' '] ((c :: t') :: ts))
      (ss.map Stage.render)
    refine .inr (.inl ⟨c, t' ++ r ++ r', ht.noBlank c List.mem_cons_self, ?_⟩)
    calc renderStages (⟨(c :: t') :: ts⟩ :: ss) = join [' '] ((c :: t') :: ts) ++ r' := hr'
      _ = c :: (t' ++ r ++ r') := by rw [hr]; rfl

end Tokens

/-! ## Delimiters in a command -/

section Delimiter

variable {m : Text}

theorem occurrences_space_eq_zero_iff (t : Text) :
    occurrences (' ' :: m) (' ' :: t) = 0 ↔ Unmarked m t := by
  rw [occurrences_space, Nat.add_eq_zero_iff, occurrences_eq_zero_iff (List.cons_ne_nil _ _)]
  simp [Unmarked]

variable (hm : m.IsWord)
include hm

omit hm in
theorem unmarked_iff_of_isToken {t : Text} (ht : IsToken t) : Unmarked m t ↔ ¬ m <+: t := by
  rw [← occurrences_space_eq_zero_iff, occurrences_space, Nat.add_eq_zero_iff,
    occurrences_of_not_mem (ht.not_mem isBlank_space)]
  simp

/-- In a stage a delimiter can start in front of every token but the first. -/
theorem occurrences_render_eq_zero_iff {s : Stage} (hs : ∀ t ∈ s.argv, IsToken t) :
    occurrences (' ' :: m) s.render = 0 ↔ ∀ t ∈ s.argv.tail, ¬ m <+: t := by
  obtain ⟨argv⟩ := s
  cases argv with
  | nil => exact iff_of_true rfl nofun
  | cons t ts =>
    obtain ⟨ht, hts⟩ := List.forall_mem_cons.1 hs
    rw [Stage.render, occurrences_join_cons_eq_zero_iff hm (fun _ => rfl),
      occurrences_of_not_mem (ht.not_mem isBlank_space)]
    refine (and_iff_right rfl).trans (forall₂_congr fun u hu => ?_)
    rw [occurrences_space_eq_zero_iff, unmarked_iff_of_isToken (hts u hu)]

theorem occurrences_space_render_eq_zero_iff {s : Stage} (hs : ∀ t ∈ s.argv, IsToken t) :
    occurrences (' ' :: m) (' ' :: s.render) = 0 ↔ ∀ t ∈ s.argv, ¬ m <+: t := by
  rw [Stage.render, occurrences_space_join_eq_zero_iff hm (fun _ => rfl)]
  refine forall₂_congr fun t ht => ?_
  rw [occurrences_space_eq_zero_iff, unmarked_iff_of_isToken (hs t ht)]

theorem not_prefix_pipe (hpipe : '|' ∉ m) (r : Text) : ¬ m <+: '|' :: r := by
  obtain ⟨c, m, rfl⟩ := List.exists_cons_of_ne_nil hm.ne_nil
  rw [List.cons_prefix_cons]
  rintro ⟨rfl, -⟩
  exact hpipe List.mem_cons_self

theorem occurrences_pipe (hpipe : '|' ∉ m) (r : Text) :
    occurrences (' ' :: m) (' ' :: '|' :: r) = occurrences (' ' :: m) r := by
  rw [occurrences_space, if_neg (not_prefix_pipe hm hpipe r), occurrences_cons, if_neg]
  · omega
  · rw [List.cons_prefix_cons]
    rintro ⟨h, -⟩
    revert h
    decide

theorem occurrences_renderStages_eq_zero_iff (hpipe : '|' ∉ m) {ss : List Stage}
    (htok : ∀ s ∈ ss, ∀ t ∈ s.argv, IsToken t) :
    occurrences (' ' :: m) (renderStages ss) = 0 ↔ ∀ t ∈ laterTokens ss, ¬ m <+: t := by
  cases ss with
  | nil => exact iff_of_true rfl nofun
  | cons s ss =>
    obtain ⟨hs, hss⟩ := List.forall_mem_cons.1 htok
    have hsep : ∀ y, occurrences (' ' :: m) ([' ', '|', ' '] ++ y) =
        occurrences (' ' :: m) (' ' :: y) := fun y => occurrences_pipe hm hpipe (' ' :: y)
    rw [renderStages, List.map_cons, occurrences_join_cons_eq_zero_iff hm hsep,
      occurrences_render_eq_zero_iff hm hs, laterTokens, List.forall_mem_append,
      List.forall_mem_map, List.forall_mem_flatMap]
    refine and_congr_right fun _ => forall₂_congr fun s' hs' => ?_
    rw [occurrences_space_render_eq_zero_iff hm (hss s' hs')]

theorem occurrences_trimStart_renderStages (hpipe : '|' ∉ m) {ss : List Stage}
    (htok : ∀ s ∈ ss, ∀ t ∈ s.argv, IsToken t) :
    occurrences (' ' :: m) (trimStart (renderStages ss)) =
      occurrences (' ' :: m) (renderStages ss) := by
  rcases renderStages_cases htok with ⟨-, h⟩ | ⟨c, r, hc, h⟩ | ⟨r, h⟩
  · rw [h, trimStart_nil]
  · rw [h, trimStart_of_cons hc]
  · rw [h, trimStart_cons, if_pos isBlank_space, trimStart_of_cons (by decide), occurrences_space,
      if_neg (not_prefix_pipe hm hpipe r), Nat.zero_add]

/-- In a redirect another delimiter can start at the target or inside it. -/
theorem occurrences_append_renderRedirect_eq_zero_iff {n : Text} (hn : n.IsWord)
    (hnm : ¬ m <+: n) (x : Text) (target : Option Text) :
    occurrences (' ' :: m) (x ++ renderRedirect (' ' :: n) target) = 0 ↔
      occurrences (' ' :: m) x = 0 ∧ ∀ t ∈ target, Unmarked m t := by
  cases target with
  | none => simp [renderRedirect]
  | some t =>
    have hmark : occurrences (' ' :: m) (' ' :: n) = 0 := by
      rw [occurrences_space, if_neg hnm, occurrences_of_not_mem (hn.not_mem isBlank_space)]
    rw [renderRedirect, List.cons_append, occurrences_append_cons hm isBlank_space,
      ← List.cons_append, occurrences_append_cons hm isBlank_space, hmark, Nat.zero_add,
      Nat.add_eq_zero_iff, occurrences_space_eq_zero_iff]
    simp

/-! ## Splitting off a written redirect -/

/-- A written redirect is split off if there is no other delimiter, and its target survives if it is
trimmed. -/
theorem splitRedirect_renderRedirect (x r : Text) (target : Option Text) :
    splitRedirect (' ' :: m) (x ++ renderRedirect (' ' :: m) target) = .ok (r, target) ↔
      occurrences (' ' :: m) x = 0 ∧ (∀ t ∈ target, trim t = t ∧ Unmarked m t) ∧
        r = if target.isSome then trim x else x := by
  cases target with
  | none =>
    rw [renderRedirect, List.append_nil, splitRedirect_eq_none_iff hm]
    simp
  | some t =>
    rw [renderRedirect, ← List.append_assoc, splitRedirect_delimiter_eq_ok_iff hm,
      occurrences_space_eq_zero_iff, trim_cons isBlank_space]
    simp only [Option.some.injEq, Option.mem_def, forall_eq', Option.isSome_some, if_true]
    tauto

theorem splitRedirect_trim_renderRedirect {x : Text} (r : Text) {target : Option Text}
    (hx : target.isSome → trimStart x ≠ []) :
    splitRedirect (' ' :: m) (trim (x ++ renderRedirect (' ' :: m) target)) = .ok (r, target) ↔
      occurrences (' ' :: m) (trimStart x) = 0 ∧ (∀ t ∈ target, trim t = t ∧ Unmarked m t) ∧
        r = trim x := by
  cases target with
  | none =>
    rw [renderRedirect, List.append_nil, splitRedirect_eq_none_iff hm, trim,
      occurrences_trimEnd hm]
    simp
  | some t =>
    have htrim : trim (x ++ ((' ' :: m) ++ ' ' :: t)) =
        trimStart x ++ (' ' :: m) ++ trimEnd (' ' :: t) := by
      have hend := hm.trimEnd_append (trimStart x ++ [' ']) (' ' :: t)
      rw [trim, trimStart_append (hx rfl)]
      simpa using hend
    rw [renderRedirect, htrim, splitRedirect_delimiter_eq_ok_iff hm, occurrences_trimEnd hm,
      occurrences_space_eq_zero_iff, trim_trimStart, trim_trimEnd, trim_cons isBlank_space]
    simp only [Option.some.injEq, Option.mem_def, forall_eq']
    tauto

end Delimiter

/-! ## The round trip -/

section RoundTrip

variable {ss : List Stage} (hne : ss ≠ []) (htok : ∀ s ∈ ss, ∀ t ∈ s.argv, IsToken t)
include hne htok

theorem exists_splitRedirect_renderStages_iff (target : Option Text) :
    (∃ r, splitRedirect stdoutDelimiter
        (renderStages ss ++ renderRedirect stdoutDelimiter target) = .ok (r, target) ∧
        parseStages r = ss) ↔
      (∀ t ∈ laterTokens ss, ¬ stdoutMark <+: t) ∧
        ∀ t ∈ target, trim t = t ∧ Unmarked stdoutMark t := by
  have hstages : parseStages (if target.isSome then trim (renderStages ss) else renderStages ss) =
      ss := by
    split
    · rw [parseStages_trim, parseStages_renderStages htok hne]
    · exact parseStages_renderStages htok hne
  simp only [stdoutDelimiter_eq, splitRedirect_renderRedirect isWord_stdoutMark,
    occurrences_renderStages_eq_zero_iff isWord_stdoutMark (by decide) htok]
  constructor
  · rintro ⟨r, ⟨hstarts, htarget, -⟩, -⟩
    exact ⟨hstarts, htarget⟩
  · rintro ⟨hstarts, htarget⟩
    exact ⟨_, ⟨hstarts, htarget, rfl⟩, hstages⟩

theorem exists_splitRedirect_trim_renderStages_iff (target : Option Text) :
    (∃ r, splitRedirect stdoutDelimiter
        (trim (renderStages ss ++ renderRedirect stdoutDelimiter target)) = .ok (r, target) ∧
        parseStages r = ss) ↔
      (∀ t ∈ laterTokens ss, ¬ stdoutMark <+: t) ∧
        (∀ t ∈ target, trim t = t ∧ Unmarked stdoutMark t) ∧
        ¬ (ss = [⟨[]⟩] ∧ target.isSome) := by
  by_cases hlost : ss = [⟨[]⟩] ∧ target.isSome
  · obtain ⟨rfl, hsome⟩ := hlost
    obtain ⟨t, rfl⟩ := Option.isSome_iff_exists.1 hsome
    constructor
    · rintro ⟨r, hsplit, hstages⟩
      exact absurd hstages (parseStages_ne_of_splitRedirect_trim isWord_stdoutMark hsplit)
    · rintro ⟨-, -, hnot⟩
      exact absurd ⟨rfl, rfl⟩ hnot
  · have hfront : target.isSome → trimStart (renderStages ss) ≠ [] := by
      intro hsome
      rcases renderStages_cases htok with ⟨rfl | rfl, -⟩ | ⟨c, r, hc, h⟩ | ⟨r, h⟩
      · contradiction
      · exact absurd ⟨rfl, hsome⟩ hlost
      · rw [h, trimStart_of_cons hc]
        exact List.cons_ne_nil c r
      · rw [h, trimStart_cons, if_pos isBlank_space, trimStart_of_cons (by decide)]
        exact List.cons_ne_nil _ r
    have hstages : parseStages (trim (renderStages ss)) = ss := by
      rw [parseStages_trim, parseStages_renderStages htok hne]
    simp only [stdoutDelimiter_eq, splitRedirect_trim_renderRedirect isWord_stdoutMark _ hfront,
      occurrences_trimStart_renderStages isWord_stdoutMark (by decide) htok,
      occurrences_renderStages_eq_zero_iff isWord_stdoutMark (by decide) htok]
    constructor
    · rintro ⟨r, ⟨hstarts, htarget, -⟩, -⟩
      exact ⟨hstarts, htarget, hlost⟩
    · rintro ⟨hstarts, htarget, -⟩
      exact ⟨_, ⟨hstarts, htarget, rfl⟩, hstages⟩

/-- What is left of a command after its error-output redirect is read if no later token and no
target brings a delimiter, and the standard-output redirect keeps its space. -/
theorem exists_splitRedirect_rest_iff (out err : Option Text) :
    (∃ u r, (u = if err.isSome then trim (renderStages ss ++ renderRedirect stdoutDelimiter out)
          else renderStages ss ++ renderRedirect stdoutDelimiter out) ∧
        splitRedirect stdoutDelimiter u = .ok (r, out) ∧ parseStages r = ss) ↔
      (∀ t ∈ laterTokens ss, ¬ stdoutMark <+: t) ∧
        (∀ t ∈ out, trim t = t ∧ Unmarked stdoutMark t) ∧
        ¬ (ss = [⟨[]⟩] ∧ out.isSome ∧ err.isSome) := by
  cases err with
  | none =>
    have := exists_splitRedirect_renderStages_iff hne htok out
    simpa using this
  | some err =>
    have := exists_splitRedirect_trim_renderStages_iff hne htok out
    simpa using this

/-- With tokens that can be read at all, a pipeline is read back exactly if it is legible. -/
theorem parse_render_iff_of_isToken (out err : Option Text) :
    parse (render ⟨ss, out, err⟩) = .ok ⟨ss, out, err⟩ ↔ Legible ⟨ss, out, err⟩ := by
  have hrest := exists_splitRedirect_rest_iff hne htok out err
  have hstderr : ∀ u, splitRedirect stderrDelimiter (render ⟨ss, out, err⟩) = .ok (u, err) ↔
      ((∀ t ∈ laterTokens ss, ¬ stderrMark <+: t) ∧ ∀ t ∈ out, Unmarked stderrMark t) ∧
        (∀ t ∈ err, trim t = t ∧ Unmarked stderrMark t) ∧
        u = if err.isSome then trim (renderStages ss ++ renderRedirect stdoutDelimiter out)
          else renderStages ss ++ renderRedirect stdoutDelimiter out := by
    intro u
    rw [render_eq, stderrDelimiter_eq, splitRedirect_renderRedirect isWord_stderrMark,
      stdoutDelimiter_eq,
      occurrences_append_renderRedirect_eq_zero_iff isWord_stderrMark isWord_stdoutMark (by decide),
      occurrences_renderStages_eq_zero_iff isWord_stderrMark (by decide) htok]
  rw [parse_eq_ok_iff]
  constructor
  · rintro ⟨u, r, hu, hsplit, hstages⟩
    obtain ⟨⟨hlater, hout⟩, herr, hu⟩ := (hstderr u).1 hu
    obtain ⟨hlater', hout', hapart⟩ := hrest.1 ⟨u, r, hu, hsplit, hstages⟩
    exact
      { stages_ne_nil := hne
        tokens := htok
        starts := fun t ht => ⟨hlater' t ht, hlater t ht⟩
        stdout := fun t ht => ⟨(hout' t ht).1, (hout' t ht).2, hout t ht⟩
        stderr := herr
        apart := hapart }
  · intro h
    obtain ⟨u, r, hu, hsplit, hstages⟩ := hrest.2
      ⟨fun t ht => (h.starts t ht).1, fun t ht => ⟨(h.stdout t ht).1, (h.stdout t ht).2.1⟩, h.apart⟩
    refine ⟨u, r, (hstderr u).2 ⟨⟨?_, ?_⟩, h.stderr, hu⟩, hsplit, hstages⟩
    · exact fun t ht => (h.starts t ht).2
    · exact fun t ht => (h.stdout t ht).2.2

end RoundTrip

/-- A pipeline is read back from the command it is written as exactly if it is legible. -/
theorem parse_render_iff (p : Pipeline) : parse p.render = .ok p ↔ p.Legible := by
  obtain ⟨ss, out, err⟩ := p
  constructor
  · intro h
    -- what was read has tokens, whatever it was read from
    obtain ⟨u, r, -, -, hstages⟩ := (parse_eq_ok_iff _ _).1 h
    obtain rfl : parseStages r = ss := hstages
    refine (parse_render_iff_of_isToken (parseStages_ne_nil r) ?_ out err).1 h
    exact fun s hs t ht => isToken_of_mem_parseStages hs ht
  · intro h
    exact (parse_render_iff_of_isToken h.stages_ne_nil h.tokens out err).2 h

end Relay.Pipeline
