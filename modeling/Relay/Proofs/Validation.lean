import Relay.Refusal

/-!
# Valid pipelines

`Pipeline.isValid_iff` says what a pipeline without issues looks like.
-/

namespace Relay.Pipeline

/-- The stages of a pipeline have no issues exactly if each of them names a program. -/
theorem stageIssues_eq_nil_iff (stages : List Stage) :
    stageIssues stages = [] ↔ ∀ s ∈ stages, s.argv ≠ [] := by
  unfold stageIssues
  rw [List.map_eq_nil_iff, List.filter_eq_nil_iff]
  constructor
  · intro h s hs
    obtain ⟨i, hi, rfl⟩ := List.getElem_of_mem hs
    have hm : (stages[i], i) ∈ stages.zipIdx := by
      rw [List.mk_mem_zipIdx_iff_getElem?, List.getElem?_eq_getElem hi]
    have hz := h (stages[i], i) hm
    simpa [Stage.isEmpty] using hz
  · rintro h ⟨s, i⟩ hs
    have hm := List.mem_of_getElem? (List.mk_mem_zipIdx_iff_getElem?.1 hs)
    simpa [Stage.isEmpty] using h s hm

/-- A pipeline is valid exactly if it has stages, each of them names a program, and no redirect
target is empty. -/
theorem isValid_iff (p : Pipeline) :
    p.isValid = true ↔ p.stages ≠ [] ∧ (∀ s ∈ p.stages, s.argv ≠ []) ∧
      p.stdoutTarget ≠ some [] ∧ p.stderrTarget ≠ some [] := by
  unfold isValid issues
  rw [List.isEmpty_iff, List.append_eq_nil_iff, List.append_eq_nil_iff, List.append_eq_nil_iff,
    stageIssues_eq_nil_iff]
  simp [List.isEmpty_iff, and_assoc]

theorem isValid_of_check {p q : Pipeline} (h : p.check = .ok q) : q = p ∧ p.isValid = true := by
  unfold check at h
  split at h
  · rename_i hv
    cases h
    exact ⟨rfl, hv⟩
  · cases h

end Relay.Pipeline
