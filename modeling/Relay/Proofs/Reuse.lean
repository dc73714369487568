import Relay.Proofs.Gathering

/-!
# One target used again and again

A redirect target can be used several times: a sink is opened on it, which empties the file or adds
to it, takes lines in and is finished (`Sink.Use`).  `composed_of_uses` says what the file holds in
the end: the lines of all uses from the last one on that emptied it, and in front of them what was
there at first if none did.

One use makes of the file what `Use.after` says, whether it was there before or not
(`Use.of_perform`); a sequence of uses is then followed one by one (`bytes?_of_performAll`).
-/

namespace Relay

/-- A target at which a regular file stands or can be made: it is no device. -/
structure Host.Plain (h : Host) (x : Text) : Prop where
  sound : h.files.Sound
  regular : ∀ device, h.entry? x ≠ some (.device device)

namespace Sink

/-! ## Uses -/

/-- One use of a target: whether opening it empties the file, and the lines that the sink takes
in. -/
structure Use where
  empties : Bool
  lines : List Text

def Use.mode (u : Use) : OpenMode := if u.empties then .truncate else .append

/-- What the file holds after the use, given what it held before. -/
def Use.after (u : Use) (held : Option Bytes) : Option Bytes :=
  some ((if u.empties then [] else held.getD []) ++ Text.encodeLines u.lines)

section Perform

variable {ω : Type} [FileStore ω]

/-- Pushes lines into a sink and finishes it; answers what finishing answers. -/
def fill (k : Sink) (w : ω) (lines : List Text) : Except IoError (List Text × ω) :=
  match k.pushAll w lines with
  | (.error e, _, _) => .error e
  | (.ok (), k, w) =>
    match k.finish w with
    | (.error e, _) => .error e
    | (.ok kept, w) => .ok (kept, w)

/-- Uses a target, unless something fails. -/
def Use.perform (u : Use) (w : ω) (x : Text) : Except Refusal (List Text × ω) :=
  match openTarget w x u.mode with
  | .error e => .error e
  | .ok (k, w) => (k.fill w u.lines).mapError .io

def performAll (w : ω) (x : Text) : List Use → Except Refusal (List (List Text) × ω)
  | [] => .ok ([], w)
  | u :: us =>
    match u.perform w x with
    | .error e => .error e
    | .ok (kept, w) => (performAll w x us).map fun (rest, w) => (kept :: rest, w)

/-- A sink in memory gives back what it was given, behind what it held, and leaves the world
alone. -/
theorem fill_memory (held : Array Text) (w : ω) (lines : List Text) :
    (Sink.memory held).fill w lines = .ok (held.toList ++ lines, w) := by
  simp [fill, pushAll_memory, finish]

end Perform

/-! ## One use -/

section One

variable {h h' h₁ : Host} {x : Text} {k : Sink} {n : Nat} {c : Bytes} {u : Use}

theorem Gathers.finish_eq (hg : k.Gathers h n c) :
    ∃ h', k.finish h = (.ok [], h') ∧ h'.files.content n = c := by
  have hcontent := hg.finish
  obtain ⟨f, rfl, hf⟩ := hg
  refine ⟨(f.finish h).2, ?_, hcontent⟩
  show ((f.finish h).1.map fun _ => [], (f.finish h).2) = _
  rw [hf.finish.1]
  rfl

theorem Gathers.fill (hg : k.Gathers h n c) (lines : List Text) :
    ∃ h', k.fill h lines = .ok ([], h') ∧ h.Wrote k.descriptor?.toList h' ∧
      h'.files.content n = c ++ Text.encodeLines lines := by
  obtain ⟨hok, hpushed⟩ := hg.pushAll lines
  have hwithin := pushAll_within k k.keeps_wrote h lines
  rcases hpush : k.pushAll h lines with ⟨made, k', h₁⟩
  rw [hpush] at hok hpushed hwithin
  obtain rfl : made = .ok () := hok
  obtain ⟨h', hfinish, hcontent⟩ := hpushed.finish_eq
  have hfinished := finish_within (k.keeps_wrote.within hwithin) h₁
  rw [hfinish] at hfinished
  refine ⟨h', ?_, hwithin.world.trans hfinished, hcontent⟩
  simp only [Sink.fill, hpush, hfinish]

theorem Use.mode_ne_update (u : Use) : u.mode ≠ .update := by
  unfold Use.mode
  split <;> nofun

theorem Use.mode_eq_truncate_iff : u.mode = .truncate ↔ u.empties = true := by
  unfold Use.mode
  split <;> simp_all

/-- Once a target is open nothing fails, and the file holds what the use makes of it. -/
theorem Use.perform_eq (hx : h.Plain x) (ho : openTarget h x u.mode = .ok (k, h₁)) :
    ∃ h', u.perform h x = .ok ([], h') ∧ h'.Plain x ∧ h'.bytes? x = u.after (h.bytes? x) := by
  obtain ⟨d, hopen, rfl⟩ := eq_file_of_openTarget ho
  obtain ⟨n, hn⟩ := Host.exists_number? hx.sound hopen hx.regular
  obtain ⟨h', hfill, hw, hcontent⟩ :=
    (gathers_opened hx.sound hopen u.mode_ne_update hn).fill u.lines
  have hn' : h'.number? x = some n := (hw.number? x).trans hn
  refine ⟨h', ?_, ⟨hw.files.sound (Host.sound_of_openTarget hx.sound hopen), ?_⟩, ?_⟩
  · simp only [Use.perform, ho, hfill]
    rfl
  · rw [Host.number?_eq_some_iff.1 hn']
    nofun
  · rw [Host.bytes?, hn', Option.map_some, hcontent]
    simp only [Use.after, mode_eq_truncate_iff]

theorem Use.of_perform {kept : List Text} (hx : h.Plain x)
    (hp : u.perform h x = .ok (kept, h')) :
    kept = [] ∧ h'.Plain x ∧ h'.bytes? x = u.after (h.bytes? x) := by
  cases ho : openTarget h x u.mode with
  | error e =>
    unfold Use.perform at hp
    rw [ho] at hp
    cases hp
  | ok r =>
    obtain ⟨h₂, hp', hplain, hbytes⟩ := Use.perform_eq hx ho
    cases hp'.symm.trans hp
    exact ⟨rfl, hplain, hbytes⟩

end One

/-! ## Uses one after another -/

section All

variable {h h' : Host} {x : Text} {us : List Use}

/-- What the file holds after several uses, given what it held before. -/
def afterAll (us : List Use) (held : Option Bytes) : Option Bytes :=
  us.foldl (fun held u => u.after held) held

theorem bytes?_of_performAll {kept : List (List Text)} (hx : h.Plain x)
    (hp : performAll h x us = .ok (kept, h')) :
    h'.bytes? x = afterAll us (h.bytes? x) ∧ kept = us.map fun _ => [] := by
  induction us generalizing h kept with
  | nil =>
    cases hp
    exact ⟨rfl, rfl⟩
  | cons u us ih =>
    unfold performAll at hp
    cases hu : u.perform h x with
    | error e =>
      rw [hu] at hp
      cases hp
    | ok r =>
      obtain ⟨first, h₁⟩ := r
      rw [hu] at hp
      obtain ⟨rfl, hx₁, hbytes⟩ := Use.of_perform hx hu
      cases hus : performAll h₁ x us with
      | error e =>
        simp only [hus] at hp
        cases hp
      | ok r =>
        simp only [hus] at hp
        cases hp
        obtain ⟨hrest, hkept⟩ := ih hx₁ hus
        rw [hrest, hbytes, hkept]
        exact ⟨rfl, rfl⟩

/-- Uses that do not empty the file add to it. -/
theorem getD_afterAll (hadd : ∀ u ∈ us, u.empties = false) (held : Option Bytes) :
    (afterAll us held).getD [] = held.getD [] ++ Text.encodeLines (us.flatMap Use.lines) := by
  induction us generalizing held with
  | nil => exact (List.append_nil _).symm
  | cons u us ih =>
    obtain ⟨hu, hus⟩ := List.forall_mem_cons.1 hadd
    have hrest := ih hus (u.after held)
    rw [Use.after, hu, Option.getD_some, if_neg Bool.false_ne_true, List.append_assoc] at hrest
    rw [List.flatMap_cons, Drain.encodeLines_append, ← hrest]
    simp only [afterAll, List.foldl_cons, Use.after, hu, if_neg Bool.false_ne_true]

/-- A use that empties the file makes up for everything before it. -/
theorem afterAll_emptied {u : Use} (hu : u.empties = true) (before after : List Use)
    (held : Option Bytes) :
    afterAll (before ++ u :: after) held = afterAll (u :: after) none := by
  simp only [afterAll, List.foldl_append, List.foldl_cons, Use.after, hu, if_true]

theorem isSome_afterAll (us : List Use) (held : Option Bytes) :
    (afterAll us held).isSome = true ↔ us ≠ [] ∨ held.isSome = true := by
  rcases us.eq_nil_or_concat with rfl | ⟨us, u, rfl⟩
  · simp [afterAll]
  · simp [afterAll, Use.after]

/-- What a file holds after some uses, compared with what it held before them. -/
structure Composed (h : Host) (x : Text) (us : List Use) (h' : Host) : Prop where
  /-- If no use emptied the file, everything was added to what was there. -/
  added : (∀ u ∈ us, u.empties = false) →
    (h'.bytes? x).getD [] = (h.bytes? x).getD [] ++ Text.encodeLines (us.flatMap Use.lines)
  /-- Otherwise everything from the last use on that emptied it is there, and nothing else. -/
  emptied : ∀ before u after, us = before ++ u :: after → u.empties = true →
    (∀ v ∈ after, v.empties = false) →
    (h'.bytes? x).getD [] = Text.encodeLines ((u :: after).flatMap Use.lines)
  /-- Every use makes the file. -/
  present : (h'.bytes? x).isSome = true ↔ us ≠ [] ∨ (h.bytes? x).isSome = true

theorem composed_of_bytes? (heq : h'.bytes? x = afterAll us (h.bytes? x)) :
    Composed h x us h' where
  added hadd := by
    rw [heq]
    exact getD_afterAll hadd _
  emptied := by
    rintro before u after rfl hu hadd
    have hrest := getD_afterAll hadd (some (Text.encodeLines u.lines))
    rw [heq, afterAll_emptied hu, List.flatMap_cons, Drain.encodeLines_append]
    simpa [afterAll, Use.after, hu] using hrest
  present := by
    rw [heq]
    exact isSome_afterAll us _

/-- **Uses of one redirect target compose.**  If nothing fails, the file holds the lines of all
uses from the last one on that emptied it, behind what it held at first if none did.  Finishing
answers no lines each time, where a sink in memory answers those that it was given and leaves the
host alone. -/
theorem composed_of_uses {kept : List (List Text)} (hx : h.Plain x)
    (hp : performAll h x us = .ok (kept, h')) :
    Composed h x us h' ∧ kept = us.map (fun _ => []) ∧
      ∀ (m : Host), ∀ u ∈ us, Sink.empty.fill m u.lines = .ok (u.lines, m) := by
  obtain ⟨heq, hkept⟩ := bytes?_of_performAll hx hp
  exact ⟨composed_of_bytes? heq, hkept, fun m u _ => fill_memory #[] m u.lines⟩

end All

/-! ### A file with something in it -/

def worn : Host :=
  { files :=
      { entries := [([[102]], .regular 0)]
        records := [⟨[111, 108, 100, 10], { mode := 420 }⟩] } }

theorem plain_worn : worn.Plain ['f'] := by
  have hf : worn.entry? ['f'] = some (.regular 0) := by decide +kernel
  refine ⟨⟨fun l n hl => ?_, nofun⟩, fun device hd => ?_⟩
  · simp only [FileTree.entry?, worn, List.lookup_cons, List.lookup_nil] at hl
    split at hl
    · cases hl
    · split at hl
      · cases hl
        exact Nat.one_pos
      · cases hl
  · cases hf.symm.trans hd

/-- Four uses, of which the second one empties the file. -/
def wearing : List Use :=
  [⟨false, ["a".toList]⟩, ⟨true, ["b".toList, "c".toList]⟩, ⟨false, []⟩, ⟨false, ["d".toList]⟩]

/-- The line that was there at first and the one of the first use are gone. -/
theorem composed_wearing :
    ∃ kept h', performAll worn ['f'] wearing = .ok (kept, h') ∧ Composed worn ['f'] wearing h' ∧
      (h'.bytes? ['f']).getD [] = [98, 10, 99, 10, 100, 10] := by
  have hok : (performAll worn ['f'] wearing).isOk = true := by decide +kernel
  cases hp : performAll worn ['f'] wearing with
  | error e =>
    rw [hp] at hok
    cases hok
  | ok r =>
    obtain ⟨hc, -⟩ := composed_of_uses plain_worn hp
    refine ⟨r.1, r.2, rfl, hc, ?_⟩
    rw [hc.emptied [⟨false, ["a".toList]⟩] ⟨true, ["b".toList, "c".toList]⟩ _ rfl rfl (by decide)]
    decide +kernel

end Sink

end Relay
