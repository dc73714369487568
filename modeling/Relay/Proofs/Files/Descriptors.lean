import Relay.Proofs.Gathering

/-!
# Open descriptors

A store has open descriptors (`Descriptors`): opening a target opens one, closing closes one, and
writing opens none.  Whatever becomes of a sink, it opens nothing more, and finishing it or giving
it up closes its descriptor.

A task ends with both sinks finished or given up, whatever the path (`Task.step_ending`).  So its
redirect files are closed then (`Task.not_isOpen_of_step`).
-/

namespace Relay

/-- A store with open descriptors. -/
class Descriptors (ω : Type) [FileStore ω] where
  /-- Whether a descriptor is open for writing. -/
  IsOpen : ω → Nat → Prop
  /-- Opening a target opens nothing but the descriptor that it answers. -/
  of_openTarget {w w' : ω} {target : Text} {mode : OpenMode} {d x : Nat} :
    FileStore.openTarget w target mode = .ok (d, w') → IsOpen w' x → x = d ∨ IsOpen w x
  of_write {w : ω} {d x : Nat} {b : Bytes} : IsOpen (FileStore.write w d b).2 x → IsOpen w x
  of_close {w : ω} {d x : Nat} : IsOpen (FileStore.close w d) x → x ≠ d ∧ IsOpen w x

open Descriptors (IsOpen)

/-! ## The descriptors of a host -/

theorem FileTree.openFile?_of_openWrite {t t' : FileTree} {cwd : Location} {path : Bytes}
    {mode : OpenMode} {d x : Nat} (h : t.openWrite cwd path mode = .ok (d, t')) (hx : x ≠ d) :
    t'.openFile? x = t.openFile? x := by
  have added : ∀ (u : FileTree) (f : OpenFile), u.openFiles = t.openFiles →
      (d, t') = u.addOpen f → t'.openFile? x = t.openFile? x := by
    intro u f hu heq
    obtain ⟨hd, ht⟩ := Prod.ext_iff.1 heq
    obtain rfl : d = u.openFiles.length := hd
    obtain rfl : t' = (u.addOpen f).2 := ht
    rw [openFile?_addOpen, if_neg hx]
    unfold FileTree.openFile?
    rw [hu]
  obtain ⟨l, -, ⟨device, -, heq⟩ | ⟨n, -, heq⟩ | ⟨-, heq⟩⟩ := openWrite_cases h
  · exact added t _ rfl heq
  · refine added _ _ ?_ heq
    split
    · exact openFiles_setContent t n []
    · rfl
  · exact added (t.addFile l []) _ rfl heq

theorem Host.openFile?_openTarget_of_ne {h h' : Host} {target : Text} {mode : OpenMode} {d x : Nat}
    (ho : h.openTarget target mode = .ok (d, h')) (hx : x ≠ d) :
    h'.files.openFile? x = h.files.openFile? x := by
  cases hp : Path.ofText target with
  | error e =>
    unfold Host.openTarget at ho
    rw [hp] at ho
    cases ho
  | ok path =>
    rw [openTarget_of_path hp] at ho
    split at ho
    · rename_i hopen
      cases ho
      exact FileTree.openFile?_of_openWrite hopen hx
    · cases ho

instance : Descriptors Host where
  IsOpen h d := (h.files.openFile? d).isSome
  of_openTarget {h h' target mode d x} ho hx := by
    by_cases hd : x = d
    · exact .inl hd
    · rw [Host.openFile?_openTarget_of_ne ho hd] at hx
      exact .inr hx
  of_write {h d x b} hx := by
    obtain ⟨f', hf'⟩ := Option.isSome_iff_exists.1 hx
    obtain ⟨f, hf, -⟩ := (h.wrote_write d b).files.entry x f' hf'
    rw [hf]
    rfl
  of_close {h d x} hx := by
    obtain ⟨f', hf'⟩ := Option.isSome_iff_exists.1 hx
    constructor
    · rintro rfl
      have hnone : (h.close x).files.openFile? x = none := h.files.openFile?_close_self x
      cases hnone.symm.trans hf'
    · obtain ⟨f, hf, -⟩ := (h.wrote_close d).files.entry x f' hf'
      rw [hf]
      rfl

variable {ω : Type} [FileStore ω] [Descriptors ω]

/-! ## Sinks -/

def OpensNone (w w' : ω) : Prop := ∀ x, IsOpen w' x → IsOpen w x

namespace Sink

theorem keeps_opensNone (k : Sink) : k.Keeps (OpensNone (ω := ω)) where
  refl _ _ hx := hx
  trans h h' x hx := h x (h' x hx)
  write _ _ _ _ _ hx := Descriptors.of_write hx
  close _ _ _ _ hx := (Descriptors.of_close hx).2

/-- A finished sink has closed its descriptor. -/
theorem not_isOpen_finish {k : Sink} {d : Nat} (hd : k.descriptor? = some d) (w : ω) :
    ¬ IsOpen (k.finish w).2 d := by
  cases k with
  | memory lines => cases hd
  | file f =>
    have hflush := FileSink.flush_within (Sink.file f).keeps_true w
    have hsame : (f.flush w).2.1.descriptor = d := Option.some.inj (hflush.descriptor?.trans hd)
    intro hx
    exact (Descriptors.of_close hx).1 hsame.symm

theorem not_isOpen_abandon {k : Sink} {d : Nat} (hd : k.descriptor? = some d) (w : ω) :
    ¬ IsOpen (k.abandon w) d := by
  cases k with
  | memory lines => cases hd
  | file f =>
    cases hd
    exact fun hx => (Descriptors.of_close hx).1 rfl

end Sink

/-! ## Tasks -/

namespace Task

omit [FileStore ω] [Descriptors ω] in
theorem descriptors_of_within {R : ω → ω → Prop} {t : Task} {w : ω} {r : Task × ω}
    (h : t.Within R w r) : r.1.descriptors = t.descriptors := by
  have hsame : ∀ s, (r.1.drain s).sink.descriptor? = (t.drain s).sink.descriptor? :=
    fun s => congrArg (Option.map Prod.snd) (h.identity s)
  exact congrArg₂ (fun out err => out.toList ++ err.toList) (hsame .stdout) (hsame .stderr)

/-- A task opens nothing. -/
theorem step_opensNone (t : Task) (w : ω) (s : Signal) :
    t.Within OpensNone w (t.step w s) :=
  step_within (fun x => (t.drain x).sink.keeps_opensNone) w s

theorem not_isOpen_conclude {t : Task} {d : Nat} (hd : d ∈ t.descriptors) (w : ω)
    (status : Status) : ¬ IsOpen (t.conclude w status).2 d := by
  obtain ⟨s, hs⟩ := mem_descriptors.1 hd
  cases s with
  | stdout =>
    have herr := Sink.finish_within t.stderr.sink.keeps_opensNone (t.stdout.sink.finish w).2
    exact fun hx => Sink.not_isOpen_finish hs w (herr d hx)
  | stderr => exact Sink.not_isOpen_finish hs (t.stdout.sink.finish w).2

theorem not_isOpen_giveUp {t : Task} {d : Nat} (hd : d ∈ t.descriptors) (w : ω) :
    ¬ IsOpen (t.giveUp w).2 d := by
  obtain ⟨s, hs⟩ := mem_descriptors.1 hd
  cases s with
  | stdout =>
    have herr := Sink.abandon_within t.stderr.sink.keeps_opensNone (t.stdout.sink.abandon w)
    exact fun hx => Sink.not_isOpen_abandon hs w (herr d hx)
  | stderr => exact Sink.not_isOpen_abandon hs (t.stdout.sink.abandon w)

/-- **A task that ends has closed its redirect files**, on whatever path it ends. -/
theorem not_isOpen_of_step {t : Task} {w : ω} {s : Signal} {r : Outcome} (ht : t.outcome? = none)
    (h : (t.step w s).1.outcome? = some r) {d : Nat} (hd : d ∈ t.descriptors) :
    ¬ IsOpen (t.step w s).2 d := by
  rcases step_ending ht h with hg | ⟨status, -, hc⟩ | ⟨-, hc⟩
  · rw [hg]
    exact not_isOpen_giveUp hd w
  · rw [hc]
    exact not_isOpen_conclude hd w status
  · rw [hc]
    exact not_isOpen_conclude hd w .stopped

end Task

end Relay
