import Relay.Proofs.Pipeline.Acceptance
import Relay.Proofs.Pipeline.Image
import Relay.Proofs.Pipeline.RoundTrip
import Relay.Proofs.Text.Runs

/-!
# Reading a command loses no text

`parse_conserves`: a command that is read is written back with the same visible characters in the
same order, and its tokens are the maximal runs of token characters in front of its redirects.

A redirect is split off at its delimiter, so a command is its three parts, one behind the other,
and what was read is laid out from them (`exists_layout`).  The parts that reading goes on with are
trimmed, so the blanks that trimming takes away are given to the parts beside them
(`SplitOnce.exists_attached`).
-/

namespace Relay

open Text

/-! ## The parts of a command -/

namespace Text

open Pipeline (attached)

theorem SplitOnce.eq_attached {d t x : Text} {y : Option Text} (h : SplitOnce d t x y) :
    t = x ++ attached d y := by
  cases h with
  | whole => exact (List.append_nil t).symm
  | cut => exact List.append_assoc _ _ _

/-- Blanks around a text that is split belong to its parts. -/
theorem SplitOnce.exists_attached {d t r b b' : Text} {out : Option Text} (h : SplitOnce d t r out)
    (hb : ∀ c ∈ b, isBlank c = true) (hb' : ∀ c ∈ b', isBlank c = true) :
    ∃ r' out', b ++ t ++ b' = r' ++ attached d out' ∧ trim r' = trim r ∧
      out'.map trim = out.map trim := by
  cases h with
  | whole => exact ⟨b ++ t ++ b', none, (List.append_nil _).symm, trim_of_between hb hb' t, rfl⟩
  | @cut _ y =>
    have hfront : trim (b ++ r) = trim r := by
      have hright := @trim_of_between b [] hb nofun r
      rwa [List.append_nil] at hright
    have htarget : trim (y ++ b') = trim y := @trim_of_between [] b' nofun hb' y
    refine ⟨b ++ r, some (y ++ b'), ?_, hfront, congrArg some htarget⟩
    simp [attached]

end Text

namespace Pipeline

theorem exists_remainder (x : Text) (target : Option Text) :
    ∃ b b' : Text, (∀ c ∈ b, isBlank c = true) ∧ (∀ c ∈ b', isBlank c = true) ∧
      x = b ++ remainder x target ++ b' := by
  unfold remainder
  split
  · exact exists_trim x
  · exact ⟨[], [], nofun, nofun, (List.append_nil x).symm⟩

/-- A command that is read has stages and at most two redirects, one behind the other. -/
theorem exists_layout {s : Text} {p : Pipeline} (h : parse s = .ok p) :
    ∃ command out err,
      s = command ++ attached stdoutDelimiter out ++ attached stderrDelimiter err ∧
        p = laidOut command out err := by
  obtain ⟨x, err, r, out, hx, hr, rfl⟩ := (parse_eq_ok_iff_laidOut p).1 h
  obtain ⟨b, b', hb, hb', hbetween⟩ := exists_remainder x err
  obtain ⟨r', out', hparts, hcommand, hout⟩ := hr.exists_attached hb hb'
  refine ⟨r', out', err, ?_, ?_⟩
  · rw [← hparts, ← hbetween]
    exact hx.eq_attached
  · have hstages : parseStages r' = parseStages r := by
      rw [← parseStages_trim, hcommand, parseStages_trim]
    rw [laidOut, laidOut, hout]
    exact congrArg (Pipeline.mk · _ _) hstages.symm

/-! ## Visible characters -/

theorem visible_render_stage (t : Text) : visible (Stage.render ⟨words t⟩) = visible t := by
  have hwords : (words t).map visible = words t := by
    refine (List.map_congr_left fun w hw => ?_).trans (List.map_id _)
    exact visible_of_noBlank (isWord_of_mem_words hw).noBlank
  rw [Stage.render, visible_join, hwords]
  exact (join_of_nil _).trans (flatten_words t)

theorem visible_renderStages (t : Text) : visible (renderStages (parseStages t)) = visible t := by
  have hrender : (parseStages t).map (fun s => visible s.render) =
      (pieces (· == '|') t).map visible := by
    rw [parseStages, List.map_map]
    exact List.map_congr_left fun segment _ => visible_render_stage segment
  calc visible (renderStages (parseStages t))
      = join ['|'] ((parseStages t).map fun s => visible s.render) := by
        rw [renderStages, visible_join, List.map_map]
        rfl
    _ = visible (join ['|'] (pieces (· == '|') t)) := by
        rw [hrender, visible_join]
        rfl
    _ = visible t := by rw [join_pieces]

theorem visible_renderRedirect (d : Text) (target : Option Text) :
    visible (renderRedirect d (target.map trim)) = visible (attached d target) := by
  cases target with
  | none => rfl
  | some t =>
    show visible (d ++ ' ' :: trim t) = visible (d ++ t)
    rw [visible_append, visible_append, visible_cons_of_blank isBlank_space, visible_trim]

/-! ## Tokens -/

def isTokenChar (c : Char) : Bool := !isBlank c && c != '|'

theorem tokens_parseStages (t : Text) :
    (parseStages t).flatMap Stage.argv = runs isTokenChar t := by
  have segment : ∀ {r : Text}, (∀ c ∈ r, (c == '|') = false) →
      (parseStages r).flatMap Stage.argv = runs isTokenChar r := by
    intro r hr
    rw [parseStages, pieces_of_forall_not hr]
    have hruns : words r = runs isTokenChar r := by
      rw [words_eq_runs]
      exact runs_congr fun c hc => by simp [isTokenChar, bne, hr c hc]
    simp [hruns]
  induction t using separatorRec (· == '|') with
  | rest r hr => exact segment hr
  | piece r c t hr hc ih =>
    obtain rfl := beq_iff_eq.1 hc
    rw [parseStages_append_cons, List.flatMap_append, segment hr, ih,
      runs_append_cons (by decide)]

/-- **Reading a command loses no text and reorders none.**  Blanks apart, the command is written
back as it was.  It consists of a front and what its redirects add, whose trimmed texts are the
targets, and the tokens of all stages are the maximal runs of token characters in the front, in
order of occurrence. -/
theorem parse_conserves {s : Text} {p : Pipeline} (h : parse s = .ok p) :
    visible p.render = visible s ∧
      ∃ command out err,
        s = command ++ attached stdoutDelimiter out ++ attached stderrDelimiter err ∧
          p.stdoutTarget = out.map trim ∧ p.stderrTarget = err.map trim ∧
          p.stages.flatMap Stage.argv = runs isTokenChar command := by
  obtain ⟨command, out, err, hs, rfl⟩ := exists_layout h
  refine ⟨?_, command, out, err, hs, rfl, rfl, tokens_parseStages command⟩
  rw [render_eq, hs, visible_append, visible_append, visible_append, visible_append]
  refine congrArg₂ (· ++ ·) (congrArg₂ (· ++ ·) (visible_renderStages command) ?_) ?_
  · exact visible_renderRedirect stdoutDelimiter out
  · exact visible_renderRedirect stderrDelimiter err

/-- With an empty stage, redirects without spaces and a token that looks like one. -/
theorem parse_conserves_crowded :
    let s : Text :=
      ['a', '>', 'b', '\t', 'c', '|', '|', ' ', 'd', ' ', '>', 'o', ' ', '2', '>', 'e']
    let p : Pipeline := ⟨[⟨[['a', '>', 'b'], ['c']]⟩, ⟨[]⟩, ⟨[['d']]⟩], some ['o'], some ['e']⟩
    parse s = .ok p ∧ visible p.render = visible s := by
  intro s p
  have h : parse s = .ok p := rfl
  exact ⟨h, (parse_conserves h).1⟩

end Pipeline

end Relay
