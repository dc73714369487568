import Relay.CommandLine
import Relay.Proofs.Pipeline.Image

/-!
# What a description tells

`answer_parse_eq_iff`: two commands without line feeds are shown in the same way exactly if they are
read as the same pipeline.

A description is read back (`ofDescription_describe`).  Its lines are found again because no text in
it holds a line feed: tokens are words, and targets are parts of the command (`plain_of_parse`).
Each line tells by its label what it is about (`Label.telling_lines`), an empty target has a line of
its own, and the tokens of a stage are the words of its line.
-/

namespace Relay.Pipeline

open Text

/-! ## The lines of a description -/

/-- What a line of a description is about. -/
inductive Label where
  | stage
  | stdout
  | stderr
  deriving DecidableEq

def Label.text : Label → Text
  | stage => "Program call: ".toList
  | stdout => "Standard output: ".toList
  | stderr => "Error output: ".toList

def Label.lines (k : Label) (ts : List Text) : List Text := ts.map (k.text ++ ·)

def descriptionLines (p : Pipeline) : List Text :=
  Label.stage.lines (p.stages.map Stage.render) ++ Label.stdout.lines p.stdoutTarget.toList
    ++ Label.stderr.lines p.stderrTarget.toList

theorem printed_append (ls ls' : List Text) :
    CommandLine.printed (ls ++ ls') = CommandLine.printed ls ++ CommandLine.printed ls' :=
  List.flatMap_append

theorem describe_eq (p : Pipeline) : p.describe = CommandLine.printed p.descriptionLines := by
  have stages : p.stages.flatMap (fun s => labelled "Program call: " s.render) =
      CommandLine.printed (Label.stage.lines (p.stages.map Stage.render)) := by
    rw [CommandLine.printed, Label.lines, List.flatMap_map, List.flatMap_map]
    rfl
  have target : ∀ (label : String) (k : Label) (t : Option Text), label.toList = k.text →
      (t.map (labelled label)).getD [] = CommandLine.printed (k.lines t.toList) := by
    intro label k t hk
    cases t with
    | none => rfl
    | some t => simp [CommandLine.printed, Label.lines, labelled, hk]
  rw [describe, stages, target _ .stdout _ rfl, target _ .stderr _ rfl, descriptionLines,
    printed_append, printed_append]

/-- What is printed line by line is cut into the lines again; nothing stands behind the last. -/
theorem pieces_printed {ls : List Text} (h : ∀ l ∈ ls, '\n' ∉ l) :
    pieces (· == '\n') (CommandLine.printed ls) = ls ++ [[]] := by
  induction ls with
  | nil => rfl
  | cons l ls ih =>
    obtain ⟨hl, hls⟩ := List.forall_mem_cons.1 h
    have hparts : CommandLine.printed (l :: ls) = l ++ '\n' :: CommandLine.printed ls :=
      List.append_assoc l ['\n'] _
    rw [hparts, pieces_append_of_not_mem hl, ih hls]
    rfl

/-! ## Reading a description -/

/-- What a line tells behind a label, if it has this label. -/
def Label.behind? (k : Label) (l : Text) : Option Text :=
  if k.text.isPrefixOf l then some (l.drop k.text.length) else none

/-- What the lines with a label tell. -/
def Label.telling (k : Label) (ls : List Text) : List Text := ls.filterMap k.behind?

/-- The pipeline that a description tells of. -/
def ofDescription (d : Text) : Pipeline :=
  let ls := pieces (· == '\n') d
  { stages := (Label.stage.telling ls).map fun t => ⟨words t⟩
    stdoutTarget := (Label.stdout.telling ls).head?
    stderrTarget := (Label.stderr.telling ls).head? }

namespace Label

theorem behind?_text_append (k k' : Label) (t : Text) :
    k.behind? (k'.text ++ t) = if k = k' then some t else none := by
  by_cases h : k = k'
  · subst h
    rw [if_pos rfl, behind?, if_pos (List.isPrefixOf_iff_prefix.2 (List.prefix_append _ _)),
      List.drop_left]
  · rw [if_neg h]
    -- two labels differ in their first characters
    cases k <;> cases k' <;> first | exact absurd rfl h | rfl

theorem telling_append (k : Label) (ls ls' : List Text) :
    k.telling (ls ++ ls') = k.telling ls ++ k.telling ls' := List.filterMap_append

theorem telling_lines (k k' : Label) (ts : List Text) :
    k.telling (k'.lines ts) = if k = k' then ts else [] := by
  rw [telling, lines, List.filterMap_map]
  have hbehind : k.behind? ∘ (k'.text ++ ·) = fun t => if k = k' then some t else none :=
    funext (k.behind?_text_append k')
  rw [hbehind]
  split
  · exact List.filterMap_some
  · exact List.filterMap_eq_nil_iff.2 fun _ _ => rfl

theorem telling_rest (k : Label) : k.telling [[]] = [] := by
  cases k <;> rfl

theorem newline_not_mem_lines (k : Label) {ts : List Text} (h : ∀ t ∈ ts, '\n' ∉ t) :
    ∀ l ∈ k.lines ts, '\n' ∉ l := by
  have hk : '\n' ∉ k.text := by cases k <;> decide
  unfold lines
  rw [List.forall_mem_map]
  intro t ht hm
  rcases List.mem_append.1 hm with hm | hm
  · exact hk hm
  · exact h t ht hm

end Label

/-- The texts of a pipeline fit into the lines of a description. -/
structure Plain (p : Pipeline) : Prop where
  tokens : ∀ s ∈ p.stages, ∀ t ∈ s.argv, t.IsWord
  stdout : ∀ t ∈ p.stdoutTarget, '\n' ∉ t
  stderr : ∀ t ∈ p.stderrTarget, '\n' ∉ t

theorem Plain.newline_not_mem {p : Pipeline} (hp : p.Plain) :
    ∀ l ∈ p.descriptionLines, '\n' ∉ l := by
  have hstages : ∀ t ∈ p.stages.map Stage.render, '\n' ∉ t := by
    rw [List.forall_mem_map]
    exact fun s hs => not_mem_join (by decide) fun t ht => (hp.tokens s hs t ht).not_mem (by decide)
  unfold descriptionLines
  rw [List.forall_mem_append, List.forall_mem_append]
  exact ⟨⟨Label.newline_not_mem_lines _ hstages,
    Label.newline_not_mem_lines _ fun t ht => hp.stdout t (Option.mem_toList.1 ht)⟩,
    Label.newline_not_mem_lines _ fun t ht => hp.stderr t (Option.mem_toList.1 ht)⟩

/-- **A description is read back.** -/
theorem ofDescription_describe {p : Pipeline} (hp : p.Plain) : ofDescription p.describe = p := by
  have hstages : (p.stages.map Stage.render).map (fun t => (⟨words t⟩ : Stage)) = p.stages := by
    rw [List.map_map]
    refine (List.map_congr_left fun s hs => ?_).trans (List.map_id' p.stages)
    show (⟨words s.render⟩ : Stage) = s
    rw [Stage.render, words_join isBlank_space (hp.tokens s hs)]
  have htelling : ∀ k : Label, k.telling (p.descriptionLines ++ [[]]) =
      (if k = .stage then p.stages.map Stage.render else [])
        ++ (if k = .stdout then p.stdoutTarget.toList else [])
        ++ (if k = .stderr then p.stderrTarget.toList else []) := by
    intro k
    rw [Label.telling_append, Label.telling_rest, List.append_nil, descriptionLines,
      Label.telling_append, Label.telling_append, Label.telling_lines, Label.telling_lines,
      Label.telling_lines]
  unfold ofDescription
  rw [describe_eq, pieces_printed hp.newline_not_mem]
  simp only [htelling, reduceCtorEq, if_true, if_false, List.append_nil, List.nil_append, hstages,
    Option.head?_toList]

theorem plain_of_parse {c : Text} {p : Pipeline} (h : parse c = .ok p) (hc : '\n' ∉ c) :
    p.Plain := by
  obtain ⟨u, v, hu, hv, -⟩ := (parse_eq_ok_iff c p).1 h
  have hinfix := isInfix_of_splitRedirect isWord_stderrMark hu
  refine ⟨fun s hs t ht => ((readable_of_parse h).tokens s hs t ht).toIsWord, ?_, ?_⟩
  · intro t ht hm
    obtain ⟨-, -, htarget⟩ := target_of_splitRedirect isWord_stdoutMark hv t ht
    exact hc ((htarget.trans hinfix).subset hm)
  · intro t ht hm
    obtain ⟨-, -, htarget⟩ := target_of_splitRedirect isWord_stderrMark hu t ht
    exact hc (htarget.subset hm)

/-! ## What is shown of a command -/

theorem answer_parse {c : Text} {p : Pipeline} (h : parse c = .ok p) (host : Host) :
    (CommandLine.answer ["--parse".toList, c] host).1 = { out := p.describe } := by
  have hread : Pipeline.read c = .ok p := by
    rw [Pipeline.read, h]
    rfl
  show CommandLine.shown c = _
  rw [CommandLine.shown, hread]

/-- **What is shown of a command tells what it is read as.**  Commands without line feeds that are
read are shown in the same way exactly if they are read as the same stages, empty ones included, and
the same targets. -/
theorem answer_parse_eq_iff {c c' : Text} {p p' : Pipeline} (hc : '\n' ∉ c) (hc' : '\n' ∉ c')
    (h : parse c = .ok p) (h' : parse c' = .ok p') (host host' : Host) :
    (CommandLine.answer ["--parse".toList, c] host).1.out =
        (CommandLine.answer ["--parse".toList, c'] host').1.out ↔ p = p' := by
  rw [answer_parse h, answer_parse h']
  constructor
  · intro hout
    have hread := congrArg ofDescription hout
    rwa [ofDescription_describe (plain_of_parse h hc), ofDescription_describe (plain_of_parse h' hc')]
      at hread
  · rintro rfl
    rfl

/-- Two ways to write one pipeline with an empty stage, and the pipeline without that stage. -/
theorem answer_parse_eq_iff_spaced :
    let c : Text := "ls  -l| |wc > out".toList
    let c' : Text := " ls -l |  | wc  >out".toList
    let d : Text := "ls -l | wc > out".toList
    let p : Pipeline := ⟨[⟨["ls".toList, "-l".toList]⟩, ⟨[]⟩, ⟨["wc".toList]⟩], "out".toList, none⟩
    let q : Pipeline := ⟨[⟨["ls".toList, "-l".toList]⟩, ⟨["wc".toList]⟩], "out".toList, none⟩
    (parse c = .ok p ∧ parse c' = .ok p ∧ parse d = .ok q) ∧
      (CommandLine.answer ["--parse".toList, c] {}).1.out =
        (CommandLine.answer ["--parse".toList, c'] {}).1.out ∧
      (CommandLine.answer ["--parse".toList, c] {}).1.out ≠
        (CommandLine.answer ["--parse".toList, d] {}).1.out := by
  intro c c' d p q
  have hc : parse c = .ok p := by decide +kernel
  have hc' : parse c' = .ok p := by decide +kernel
  have hd : parse d = .ok q := by decide +kernel
  refine ⟨⟨hc, hc', hd⟩, ?_, ?_⟩
  · exact (answer_parse_eq_iff (by decide) (by decide) hc hc' {} {}).2 rfl
  · exact fun h => absurd ((answer_parse_eq_iff (by decide) (by decide) hc hd {} {}).1 h) (by decide)

/-- A target with a line feed in it can look like another line. -/
example :
    let p : Pipeline := ⟨[⟨["a".toList]⟩], "b\nError output: c".toList, none⟩
    let q : Pipeline := ⟨[⟨["a".toList]⟩], "b".toList, "c".toList⟩
    parse "a > b\nError output: c".toList = .ok p ∧ parse "a > b 2> c".toList = .ok q ∧
      p.describe = q.describe := by
  decide +kernel

end Relay.Pipeline
