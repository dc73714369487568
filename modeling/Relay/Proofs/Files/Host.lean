import Relay.Files.Store
import Relay.Proofs.Files.Tree

/-!
# Redirect targets seen from a host

A redirect target has a place, which may stand for a regular file, and that file may hold something
(`Host.look`).  This module says what becomes of one target, the watched one, when another target is
opened or files are written elsewhere, namely nothing, and what opening the watched target makes of
it.

Two targets are different (`Host.Different`) if their places are and no file stands at both; names
of one file at several places are one file here.
-/

namespace Relay.Host

theorem sound_empty : ({} : Host).files.Sound := by
  refine ⟨fun l n hl => ?_, nofun⟩
  cases l with
  | nil => cases hl
  | cons => cases hl

/-! ## What a target is -/

def place? (h : Host) (target : Text) : Option Location :=
  match Path.ofText target with
  | .ok path => h.files.place? h.cwd path
  | .error _ => none

def entry? (h : Host) (target : Text) : Option Entry := (h.place? target).bind h.files.entry?

def number? (h : Host) (target : Text) : Option Nat :=
  match h.entry? target with
  | some (.regular n) => some n
  | _ => none

def bytes? (h : Host) (target : Text) : Option Bytes := (h.number? target).map h.files.content

/-- All that is to be seen of a target: what stands there, and what it holds. -/
def look (h : Host) (target : Text) : Option Entry × Option Bytes :=
  (h.entry? target, h.bytes? target)

theorem number?_eq_some_iff {h : Host} {target : Text} {n : Nat} :
    h.number? target = some n ↔ h.entry? target = some (.regular n) := by
  unfold number?
  split
  · rename_i m hm
    rw [hm]
    simp
  · rename_i hnot
    exact iff_of_false nofun (hnot n)

/-- Two targets are at different places, and no file stands at both. -/
structure Different (h : Host) (x y : Text) : Prop where
  place : ∀ l, h.place? x = some l → h.place? y ≠ some l
  regular : ∀ n, h.number? x = some n → h.number? y ≠ some n
  device : ∀ device, h.entry? x = some (.device device) → h.entry? y ≠ some (.device device)

/-- A descriptor is not open on what a target stands for. -/
def Elsewhere (h : Host) (d : Nat) (target : Text) : Prop :=
  ∀ f, h.files.openFile? d = some f → ∀ n, h.number? target = some n → f.entry ≠ .regular n

/-! ## Writing and closing -/

/-- What writing to some descriptors and closing them can change. -/
structure Wrote (ds : List Nat) (h h' : Host) : Prop where
  cwd : h'.cwd = h.cwd
  files : h.files.Wrote ds h'.files

theorem Wrote.refl (ds : List Nat) (h : Host) : h.Wrote ds h := ⟨rfl, .refl ds _⟩

theorem Wrote.trans {ds : List Nat} {h h' h'' : Host} (hw : h.Wrote ds h') (hw' : h'.Wrote ds h'') :
    h.Wrote ds h'' :=
  ⟨hw'.cwd.trans hw.cwd, hw.files.trans hw'.files⟩

theorem Wrote.mono {ds ds' : List Nat} {h h' : Host} (hw : h.Wrote ds h') (hle : ds ⊆ ds') :
    h.Wrote ds' h' :=
  ⟨hw.cwd, hw.files.mono hle⟩

theorem wrote_write (h : Host) (d : Nat) (b : Bytes) : h.Wrote [d] (h.write d b).2 :=
  ⟨rfl, h.files.wrote_write d b⟩

theorem wrote_close (h : Host) (d : Nat) : h.Wrote [d] (h.close d) := ⟨rfl, h.files.wrote_close d⟩

section Wrote

variable {ds : List Nat} {h h' : Host} (hw : h.Wrote ds h')
include hw

theorem Wrote.place? (x : Text) : h'.place? x = h.place? x := by
  have hfolders : h.files.SameFolders h'.files := by
    intro l
    rw [FileTree.entry?_of_entries hw.files.entries]
  unfold Host.place?
  rw [hw.cwd]
  split
  · exact hfolders.place? _ _
  · rfl

theorem Wrote.entry? (x : Text) : h'.entry? x = h.entry? x := by
  unfold Host.entry?
  rw [hw.place?]
  cases h.place? x with
  | none => rfl
  | some l => exact FileTree.entry?_of_entries hw.files.entries l

theorem Wrote.number? (x : Text) : h'.number? x = h.number? x := by
  unfold Host.number?
  rw [hw.entry?]

theorem Wrote.different {x y : Text} (hd : h.Different x y) : h'.Different x y := by
  refine ⟨?_, ?_, ?_⟩
  · rw [hw.place?, hw.place?]
    exact hd.place
  · rw [hw.number?, hw.number?]
    exact hd.regular
  · rw [hw.entry?, hw.entry?]
    exact hd.device

theorem Wrote.elsewhere {d : Nat} {x : Text} (he : h.Elsewhere d x) : h'.Elsewhere d x := by
  intro f' hf' n hn
  obtain ⟨f, hf, hentry⟩ := hw.files.entry d f' hf'
  rw [hw.number?] at hn
  rw [hentry]
  exact he f hf n hn

theorem Wrote.look {x : Text} (he : ∀ d ∈ ds, h.Elsewhere d x) : h'.look x = h.look x := by
  unfold Host.look bytes?
  rw [hw.entry?, hw.number?]
  cases hn : h.number? x with
  | none => rfl
  | some n =>
    have hcontent := hw.files.content n fun d hd f hf => he d hd f hf n hn
    rw [Option.map_some, Option.map_some, hcontent]

end Wrote

/-! ## Opening -/

theorem openTarget_of_path {x : Text} {path : Bytes} (hp : Path.ofText x = .ok path) (h : Host)
    (mode : OpenMode) : h.openTarget x mode =
      match h.files.openWrite h.cwd path mode with
      | .ok (d, files) => .ok (d, { h with files })
      | .error e => .error (.os e) := by
  simp only [Host.openTarget, hp, bind, Except.bind]
  cases h.files.openWrite h.cwd path mode <;> rfl

theorem openTarget_eq_ok {h h' : Host} {x : Text} {mode : OpenMode} {d : Nat}
    (ho : h.openTarget x mode = .ok (d, h')) (hs : h.files.Sound) :
    h'.cwd = h.cwd ∧ ∃ l, h.place? x = some l ∧ h.files.Opened l mode d h'.files ∧
      h.files.SameFolders h'.files := by
  unfold Host.place?
  cases hp : Path.ofText x with
  | error e =>
    unfold Host.openTarget at ho
    rw [hp] at ho
    cases ho
  | ok path =>
    rw [openTarget_of_path hp] at ho
    cases hf : h.files.openWrite h.cwd path mode with
    | error e =>
      rw [hf] at ho
      cases ho
    | ok r =>
      rw [hf] at ho
      cases ho
      exact ⟨rfl, FileTree.opened_of_openWrite hf hs⟩

section Open

variable {h h' : Host} {x y : Text} {mode : OpenMode} {d : Nat}

/-- Opening changes no place. -/
theorem place?_of_openTarget (hs : h.files.Sound) (ho : h.openTarget x mode = .ok (d, h'))
    (z : Text) : h'.place? z = h.place? z := by
  obtain ⟨hcwd, -, -, -, hfolders⟩ := openTarget_eq_ok ho hs
  unfold Host.place?
  rw [hcwd]
  split
  · exact hfolders.place? _ _
  · rfl

theorem sound_of_openTarget (hs : h.files.Sound) (ho : h.openTarget x mode = .ok (d, h')) :
    h'.files.Sound := by
  obtain ⟨-, l, -, hopened, -⟩ := openTarget_eq_ok ho hs
  exact hopened.sound

theorem entry?_of_openTarget (hs : h.files.Sound) (ho : h.openTarget y mode = .ok (d, h'))
    (hp : ∀ l, h.place? x = some l → h.place? y ≠ some l) : h'.entry? x = h.entry? x := by
  obtain ⟨-, l, hl, hopened, -⟩ := openTarget_eq_ok ho hs
  unfold Host.entry?
  rw [place?_of_openTarget hs ho]
  cases hx : h.place? x with
  | none => rfl
  | some l' =>
    refine hopened.entry? l' ?_
    rintro rfl
    exact hp l' hx hl

/-- What the opened target is afterwards: what it was, or a new regular file. -/
theorem entry?_self_of_openTarget (hs : h.files.Sound) (ho : h.openTarget x mode = .ok (d, h')) :
    h'.entry? x = some ((h.entry? x).getD (.regular h.files.records.length)) := by
  obtain ⟨-, l, hl, hopened, -⟩ := openTarget_eq_ok ho hs
  have hentry : h.entry? x = h.files.entry? l := by
    unfold Host.entry?
    rw [hl]
    rfl
  have hentry' : h'.entry? x = h'.files.entry? l := by
    unfold Host.entry?
    rw [place?_of_openTarget hs ho, hl]
    rfl
  rw [hentry, hentry']
  cases he : h.files.entry? l with
  | none => exact hopened.fresh he
  | some e => exact hopened.same e he

theorem number?_self_of_openTarget (hs : h.files.Sound) (ho : h.openTarget x mode = .ok (d, h'))
    {n : Nat} (hn : h'.number? x = some n) :
    h.number? x = some n ∨ h.entry? x = none ∧ n = h.files.records.length := by
  have he := number?_eq_some_iff.1 hn
  rw [entry?_self_of_openTarget hs ho] at he
  cases hx : h.entry? x with
  | none =>
    rw [hx] at he
    cases he
    exact .inr ⟨rfl, rfl⟩
  | some e =>
    rw [hx] at he
    cases he
    exact .inl (number?_eq_some_iff.2 hx)

theorem number?_of_openTarget (hs : h.files.Sound) (ho : h.openTarget x mode = .ok (d, h'))
    {n : Nat} (hn : h.number? x = some n) : h'.number? x = some n := by
  rw [number?_eq_some_iff] at hn ⊢
  rw [entry?_self_of_openTarget hs ho, hn]
  rfl

theorem lt_of_number? (hs : h.files.Sound) {n : Nat} (hn : h.number? x = some n) :
    n < h.files.records.length := by
  obtain ⟨l, -, hl⟩ := Option.bind_eq_some_iff.1 (number?_eq_some_iff.1 hn)
  exact hs.named l n hl

/-- A target that is opened stays different from others. -/
theorem Different.opened (hd : h.Different x y) (hs : h.files.Sound)
    (ho : h.openTarget x mode = .ok (d, h')) : h'.Different x y := by
  have hplace := place?_of_openTarget hs ho
  have hy : h'.entry? y = h.entry? y :=
    entry?_of_openTarget hs ho fun l hl hx => hd.place l hx hl
  have hynum : h'.number? y = h.number? y := by
    unfold Host.number?
    rw [hy]
  refine ⟨fun l => ?_, fun n hn => ?_, fun device hx => ?_⟩
  · rw [hplace, hplace]
    exact hd.place l
  · rw [hynum]
    rcases number?_self_of_openTarget hs ho hn with hx | ⟨-, rfl⟩
    · exact hd.regular n hx
    · intro hlt
      exact Nat.lt_irrefl _ (lt_of_number? hs hlt)
  · rw [hy]
    rw [entry?_self_of_openTarget hs ho] at hx
    cases he : h.entry? x with
    | none =>
      rw [he] at hx
      cases hx
    | some e =>
      rw [he] at hx
      cases hx
      exact hd.device device he

theorem Different.symm (hd : h.Different x y) : h.Different y x :=
  ⟨fun l hy hx => hd.place l hx hy, fun n hy hx => hd.regular n hx hy,
    fun device hy hx => hd.device device hx hy⟩

/-- A target is not touched when a different one is opened. -/
theorem look_of_openTarget (hs : h.files.Sound) (hd : h.Different x y)
    (ho : h.openTarget y mode = .ok (d, h')) : h'.look x = h.look x := by
  have hx := entry?_of_openTarget hs ho hd.place
  have hxnum : h'.number? x = h.number? x := by
    unfold Host.number?
    rw [hx]
  unfold Host.look bytes?
  rw [hx, hxnum]
  cases hn : h.number? x with
  | none => rfl
  | some n =>
    obtain ⟨-, l, hl, hopened, -⟩ := openTarget_eq_ok ho hs
    have hother : h.files.entry? l ≠ some (.regular n) := by
      intro he
      refine hd.regular n hn (number?_eq_some_iff.2 ?_)
      unfold Host.entry?
      rw [hl]
      exact he
    rw [Option.map_some, Option.map_some, hopened.content n (lt_of_number? hs hn) hother]

theorem openFile?_of_openTarget (hs : h.files.Sound) (ho : h.openTarget x mode = .ok (d, h')) :
    ∃ entry, h'.entry? x = some entry ∧ FileTree.takesBytes entry = true ∧
      h'.files.openFile? d = some (FileTree.opening mode entry) := by
  obtain ⟨-, l, hl, hopened, -⟩ := openTarget_eq_ok ho hs
  obtain ⟨entry, he, htakes, hf⟩ := hopened.opened
  refine ⟨entry, ?_, htakes, hf⟩
  unfold Host.entry?
  rw [place?_of_openTarget hs ho, hl]
  exact he

/-- The open file of a target is not on a different one. -/
theorem elsewhere_of_openTarget (hs : h.files.Sound) (hd : h.Different x y)
    (ho : h.openTarget y mode = .ok (d, h')) : h'.Elsewhere d x := by
  obtain ⟨entry, he, -, hf⟩ := openFile?_of_openTarget hs ho
  intro f hf' n hn hfn
  rw [hf] at hf'
  cases hf'
  have hentry : entry = .regular n := hfn
  rw [hentry] at he
  exact (hd.symm.opened hs ho).regular n (number?_eq_some_iff.2 he) hn

theorem Elsewhere.opened {d' : Nat} (he : h.Elsewhere d' x) (hs : h.files.Sound)
    (ho : h.openTarget y mode = .ok (d, h')) (hne : d' ≠ d)
    (hxy : y = x ∨ h.Different x y) : h'.Elsewhere d' x := by
  intro f hf n hn
  obtain ⟨-, l, hl, hopened, -⟩ := openTarget_eq_ok ho hs
  rw [hopened.openFile? d' hne] at hf
  rcases hxy with rfl | hd
  · rcases number?_self_of_openTarget hs ho hn with hx | ⟨-, rfl⟩
    · exact he f hf n hx
    · intro hfn
      exact Nat.lt_irrefl _ (hs.opened d' f _ hf hfn)
  · have hx := entry?_of_openTarget hs ho hd.place
    unfold Host.number? at hn
    rw [hx] at hn
    exact he f hf n hn

/-- A target that is opened to be emptied or added to, and is a regular file then, is open at its
end. -/
theorem atEnd_of_openTarget (hs : h.files.Sound) (ho : h.openTarget x mode = .ok (d, h'))
    (hmode : mode ≠ .update) {n : Nat} (hn : h'.number? x = some n) :
    h'.files.AtEnd d n ∧
      h'.files.content n = if mode = .truncate then [] else (h.bytes? x).getD [] := by
  obtain ⟨-, l, hl, hopened, -⟩ := openTarget_eq_ok ho hs
  obtain ⟨entry, he, -, hf⟩ := openFile?_of_openTarget hs ho
  obtain rfl : entry = .regular n := Option.some.inj (he.symm.trans (number?_eq_some_iff.1 hn))
  have hentry : h.entry? x = h.files.entry? l := by
    unfold Host.entry?
    rw [hl]
    rfl
  have hcontent : h'.files.content n = if mode = .truncate then [] else (h.bytes? x).getD [] := by
    rcases number?_self_of_openTarget hs ho hn with hx | ⟨hnone, rfl⟩
    · rw [hopened.kept n (hentry.symm.trans (number?_eq_some_iff.1 hx)), bytes?, hx]
      rfl
    · have hnum : h.number? x = none := by
        unfold number?
        rw [hnone]
      rw [hopened.empty (hentry.symm.trans hnone), bytes?, hnum]
      split <;> rfl
  refine ⟨⟨⟨_, hf, rfl, rfl, ?_⟩, lt_of_number? hopened.sound hn⟩, hcontent⟩
  cases mode with
  | truncate => exact .inr (by rw [hcontent]; rfl)
  | append => exact .inl rfl
  | update => exact absurd rfl hmode

theorem exists_number? (hs : h.files.Sound) (ho : h.openTarget x mode = .ok (d, h'))
    (plain : ∀ device, h.entry? x ≠ some (.device device)) : ∃ n, h'.number? x = some n := by
  obtain ⟨entry, he, htakes, -⟩ := openFile?_of_openTarget hs ho
  cases entry with
  | regular n => exact ⟨n, number?_eq_some_iff.2 he⟩
  | device device =>
    rw [entry?_self_of_openTarget hs ho] at he
    cases hx : h.entry? x with
    | none =>
      rw [hx] at he
      cases he
    | some e =>
      rw [hx] at he
      cases he
      exact absurd hx (plain device)
  | directory => cases htakes
  | program name => cases htakes

end Open

/-! ### Whether a target was opened -/

/-- A new open file is on what the target stands for. -/
def Opens (h h' : Host) (x : Text) : Prop :=
  ∃ d f, h.files.openFile? d = none ∧ h'.files.openFile? d = some f ∧ h'.entry? x = some f.entry

section Opens

variable {h h' : Host} {x y : Text} {mode : OpenMode} {d : Nat}

theorem not_opens_self (h : Host) (x : Text) : ¬ h.Opens h x := by
  rintro ⟨d, f, hnone, hf, -⟩
  rw [hnone] at hf
  cases hf

theorem Wrote.not_opens {ds : List Nat} (hw : h.Wrote ds h') (x : Text) : ¬ h.Opens h' x := by
  rintro ⟨d, f', hnone, hf', -⟩
  obtain ⟨f, hf, -⟩ := hw.files.entry d f' hf'
  rw [hnone] at hf
  cases hf

theorem opens_of_openTarget {h₀ : Host} (hs : h.files.Sound)
    (ho : h.openTarget x mode = .ok (d, h'))
    (hle : h₀.files.openFiles.length ≤ h.files.openFiles.length) : h₀.Opens h' x := by
  obtain ⟨-, l, -, hopened, -⟩ := openTarget_eq_ok ho hs
  obtain ⟨entry, he, -, hf⟩ := openFile?_of_openTarget hs ho
  refine ⟨d, _, FileTree.openFile?_eq_none ?_, hf, he⟩
  rw [hopened.descriptor]
  exact hle

theorem not_opens_of_openTarget (hs : h.files.Sound) (hd : h.Different x y)
    (ho : h.openTarget y mode = .ok (d, h')) : ¬ h.Opens h' x := by
  obtain ⟨-, l, -, hopened, -⟩ := openTarget_eq_ok ho hs
  obtain ⟨entry, he, htakes, hf⟩ := openFile?_of_openTarget hs ho
  have hd' := hd.symm.opened hs ho
  rintro ⟨d', f, hnone, hf', hx⟩
  by_cases hdd : d' = d
  · rw [hdd, hf] at hf'
    cases hf'
    cases entry with
    | regular n => exact hd'.regular n (number?_eq_some_iff.2 he) (number?_eq_some_iff.2 hx)
    | device device => exact hd'.device device he hx
    | directory => cases htakes
    | program name => cases htakes
  · rw [hopened.openFile? d' hdd, hnone] at hf'
    cases hf'

/-- A target that is closed again was not opened. -/
theorem not_opens_of_close (hs : h.files.Sound) (ho : h.openTarget y mode = .ok (d, h'))
    (x : Text) : ¬ h.Opens (h'.close d) x := by
  obtain ⟨-, l, -, hopened, -⟩ := openTarget_eq_ok ho hs
  rintro ⟨d', f, hnone, hf', -⟩
  by_cases hdd : d' = d
  · rw [hdd] at hf'
    cases hf'.symm.trans (FileTree.openFile?_close_self h'.files d)
  · have hkeep := (h'.files.wrote_close d).openFile? d' (by simpa using hdd)
    rw [show (h'.close d).files = h'.files.close d from rfl, hkeep, hopened.openFile? d' hdd,
      hnone] at hf'
    cases hf'

end Opens

end Relay.Host
