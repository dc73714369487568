import Relay.Sink

/-!
# What sinks keep

Whatever is pushed into a sink and whatever becomes of it, the sink stays what it was opened as: in
memory, or a file with its target and descriptor.  And all it does to the world is writing to that
descriptor and closing it, so every relation that these two keep holds across the sink's work
(`Sink.Within`).
-/

namespace Relay

namespace Sink

/-! ## What a sink was opened as -/

/-- The redirect target and the descriptor of a sink, if it has them. -/
def identity? : Sink → Option (Text × Nat)
  | .memory _ => none
  | .file f => some (f.target, f.descriptor)

def target? (k : Sink) : Option Text := k.identity?.map Prod.fst

def descriptor? (k : Sink) : Option Nat := k.identity?.map Prod.snd

variable {ω : Type} [FileStore ω]

section Open

variable {w w' : ω} {target : Text} {mode : OpenMode} {k : Sink}
  (h : openTarget w target mode = .ok (k, w'))
include h

theorem eq_file_of_openTarget :
    ∃ d, FileStore.openTarget w target mode = .ok (d, w') ∧
      k = .file { target, descriptor := d } := by
  unfold openTarget FileSink.openTarget at h
  cases ho : FileStore.openTarget w target mode with
  | error e => rw [ho] at h; cases h
  | ok x => rw [ho] at h; cases h; exact ⟨x.1, rfl, rfl⟩

theorem target?_of_openTarget : k.target? = some target := by
  obtain ⟨d, -, rfl⟩ := eq_file_of_openTarget h
  rfl

end Open

/-! ## What a sink does to the world -/

/-- A relation between worlds that writing to a sink's file and closing it keep. -/
structure Keeps (R : ω → ω → Prop) (k : Sink) : Prop where
  refl : ∀ w, R w w
  trans : ∀ {w w' w'' : ω}, R w w' → R w' w'' → R w w''
  write : ∀ d, k.descriptor? = some d → ∀ w b, R w (FileStore.write w d b).2
  close : ∀ d, k.descriptor? = some d → ∀ w, R w (FileStore.close w d)

/-- A sink and the world at two times: the sink is what it was opened as, and the relation holds
between the worlds. -/
structure Within (R : ω → ω → Prop) (k : Sink) (w : ω) (k' : Sink) (w' : ω) : Prop where
  identity : k'.identity? = k.identity?
  world : R w w'

theorem keeps_true (k : Sink) : k.Keeps fun _ _ : ω => True :=
  ⟨fun _ => trivial, fun _ _ => trivial, fun _ _ _ _ => trivial, fun _ _ _ => trivial⟩

variable {R : ω → ω → Prop} {k k' k'' : Sink} {w w' w'' : ω}

omit [FileStore ω] in
theorem Within.target? (h : k.Within R w k' w') : k'.target? = k.target? := by
  unfold Sink.target?
  rw [h.identity]

omit [FileStore ω] in
theorem Within.descriptor? (h : k.Within R w k' w') : k'.descriptor? = k.descriptor? := by
  unfold Sink.descriptor?
  rw [h.identity]

theorem Keeps.within (K : k.Keeps R) (h : k.Within R w k' w') : k'.Keeps R := by
  refine ⟨K.refl, K.trans, ?_, ?_⟩
  · rw [h.descriptor?]
    exact K.write
  · rw [h.descriptor?]
    exact K.close

theorem Keeps.refl_within (K : k.Keeps R) (w : ω) : k.Within R w k w := ⟨rfl, K.refl w⟩

theorem Within.trans (h : k.Within R w k' w') (h' : k'.Within R w' k'' w'') (K : k.Keeps R) :
    k.Within R w k'' w'' :=
  ⟨h'.identity.trans h.identity, K.trans h.world h'.world⟩

end Sink

variable {ω : Type} [FileStore ω] {R : ω → ω → Prop}

/-! ### Redirect files -/

namespace FileSink

variable {s : FileSink} (K : (Sink.file s).Keeps R) (w : ω)
include K

theorem handOn_within (b : Bytes) :
    (Sink.file s).Within R w (.file (s.handOn w b).2.1) (s.handOn w b).2.2 := by
  have hw := K.write s.descriptor rfl w b
  unfold handOn
  split
  · exact ⟨rfl, K.refl w⟩
  · split
    · rename_i heq
      rw [heq] at hw
      exact ⟨rfl, hw⟩
    · rename_i heq
      rw [heq] at hw
      exact ⟨rfl, hw⟩

theorem flush_within :
    (Sink.file s).Within R w (.file (s.flush w).2.1) (s.flush w).2.2 := by
  have h := handOn_within K w s.buffer.toList
  unfold flush
  split
  · exact K.refl_within w
  · split
    · rename_i heq
      rw [heq] at h
      exact ⟨h.identity, h.world⟩
    · exact h

theorem within_of_room {c : Prop} [Decidable c] {r : Except IoError Unit} {s' : FileSink} {w' : ω}
    (h : (if c then s.flush w else (.ok (), s, w)) = (r, s', w')) :
    (Sink.file s).Within R w (.file s') w' := by
  by_cases hc : c
  · rw [if_pos hc] at h
    have := flush_within K w
    rw [h] at this
    exact this
  · rw [if_neg hc] at h
    cases h
    exact K.refl_within w

omit K in
theorem put_within (s : FileSink) (w : ω) (b : Bytes) (K : (Sink.file s).Keeps R) :
    (Sink.file s).Within R w (.file (s.put w b).2.1) (s.put w b).2.2 := by
  fun_induction put s w b with
  | case1 => exact K.refl_within _
  | case2 s w b n hn s' w' e hroom => exact within_of_room K w hroom
  | case3 s w b n hn s' w' hlt hroom =>
    have h := within_of_room K w hroom
    exact ⟨h.identity, h.world⟩
  | case4 s w b n hn s' w' hlt s'' w'' hmade hroom ih =>
    have h := within_of_room K w hroom
    have h' := handOn_within (K.within h) w' (b.take largestWrite)
    rw [hmade] at h'
    exact (h.trans h' K).trans (ih ((K.within h).within h')) K
  | case5 s w b n hn s' w' hlt hroom hfailed =>
    have h := within_of_room K w hroom
    exact h.trans (handOn_within (K.within h) w' _) K

theorem putLine_within (line : Text) :
    (Sink.file s).Within R w (.file (s.putLine w line).2.1) (s.putLine w line).2.2 := by
  unfold putLine
  have h := s.put_within w (Text.utf8 line) K
  split
  · rename_i s' w' heq
    rw [heq] at h
    exact h.trans (s'.put_within w' _ (K.within h)) K
  · exact h

theorem finish_within : R w (s.finish w).2 := by
  have h := flush_within K w
  have hd : (s.flush w).2.1.descriptor = s.descriptor :=
    congrArg Prod.snd (Option.some.inj h.identity)
  show R w (FileStore.close (s.flush w).2.2 (s.flush w).2.1.descriptor)
  rw [hd]
  exact K.trans h.world (K.close s.descriptor rfl _)

end FileSink

/-! ### All sinks -/

namespace Sink

variable {k : Sink} (K : k.Keeps R) (w : ω)
include K

theorem push_within (line : Text) : k.Within R w (k.push w line).2.1 (k.push w line).2.2 := by
  cases k with
  | memory lines => exact ⟨rfl, K.refl w⟩
  | file f => exact FileSink.putLine_within K w line

omit K in
theorem pushAll_within (k : Sink) (K : k.Keeps R) (w : ω) (lines : List Text) :
    k.Within R w (k.pushAll w lines).2.1 (k.pushAll w lines).2.2 := by
  induction lines generalizing k w with
  | nil => exact K.refl_within w
  | cons line rest ih =>
    have h := push_within K w line
    unfold pushAll
    split
    · rename_i k' w' heq
      rw [heq] at h
      exact h.trans (ih k' (K.within h) w') K
    · exact h

theorem pushPart_within (line : Text) (n : Nat) :
    k.Within R w (k.pushPart w line n).1 (k.pushPart w line n).2 := by
  cases k with
  | memory lines => exact ⟨rfl, K.refl w⟩
  | file f => exact f.put_within w _ K

theorem finish_within : R w (k.finish w).2 := by
  cases k with
  | memory lines => exact K.refl w
  | file f => exact FileSink.finish_within K w

theorem abandon_within : R w (k.abandon w) := by
  cases k with
  | memory lines => exact K.refl w
  | file f => exact K.close f.descriptor rfl w

end Sink

end Relay
