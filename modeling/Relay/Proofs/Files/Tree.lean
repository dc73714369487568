import Relay.Files.Tree

/-!
# What opening, writing and closing do to a file tree

A path that can be opened for writing leads to a place (`FileTree.place?`), and which place that is
depends on the directories only.  `openWrite_cases` says everything that opening can do there: it
adds an open file, and it may empty the regular file or make a new one.

Writing and closing change the file that a descriptor is open on and nothing else
(`FileTree.Wrote`); what is written to a file that is open at its end is added to it
(`FileTree.AtEnd.write`).
-/

namespace Relay.FileTree

/-! ## Records -/

def openFile? (t : FileTree) (d : Nat) : Option OpenFile := t.openFiles.getD d none

/-- Every number that a name or an open file stands for is that of a record. -/
structure Sound (t : FileTree) : Prop where
  named : ∀ l n, t.entry? l = some (.regular n) → n < t.records.length
  opened : ∀ d f n, t.openFile? d = some f → f.entry = .regular n → n < t.records.length

theorem records_setContent (t : FileTree) (n : Nat) (b : Bytes) :
    (t.setContent n b).records.length = t.records.length := by
  unfold setContent changeRecord
  split
  · exact List.length_set
  · rfl

@[simp]
theorem entries_setContent (t : FileTree) (n : Nat) (b : Bytes) :
    (t.setContent n b).entries = t.entries := by
  unfold setContent changeRecord
  split <;> rfl

@[simp]
theorem openFiles_setContent (t : FileTree) (n : Nat) (b : Bytes) :
    (t.setContent n b).openFiles = t.openFiles := by
  unfold setContent changeRecord
  split <;> rfl

theorem content_setContent {t : FileTree} {n : Nat} (hn : n < t.records.length) (b : Bytes) :
    (t.setContent n b).content n = b := by
  unfold setContent changeRecord content
  rw [List.getElem?_eq_getElem hn]
  simp [hn]

theorem content_setContent_of_ne {t : FileTree} {m n : Nat} (h : m ≠ n) (b : Bytes) :
    (t.setContent n b).content m = t.content m := by
  unfold setContent changeRecord content
  split
  · simp [List.getElem?_set_ne (Ne.symm h)]
  · rfl

/-! ## Directories -/

theorem entry?_of_entries {t t' : FileTree} (h : t'.entries = t.entries) (l : Location) :
    t'.entry? l = t.entry? l := by
  unfold entry?
  rw [h]

/-- The same locations are directories. -/
def SameFolders (t t' : FileTree) : Prop :=
  ∀ l, t'.entry? l = some .directory ↔ t.entry? l = some .directory

theorem SameFolders.descend {t t' : FileTree} (h : t.SameFolders t') (cs : List FileName)
    (l : Location) : (t'.descend l cs).toOption = (t.descend l cs).toOption := by
  induction cs generalizing l with
  | nil => rfl
  | cons c cs ih =>
    unfold FileTree.descend
    split
    · exact ih l
    · split
      · exact ih l.dropLast
      · split
        · rfl
        · by_cases hd : t.entry? (l ++ [c]) = some .directory
          · rw [hd, (h _).2 hd]
            exact ih (l ++ [c])
          · have hd' : t'.entry? (l ++ [c]) ≠ some .directory := fun hx => hd ((h _).1 hx)
            split
            · contradiction
            · split
              · contradiction
              · rfl
              · rfl
            · split
              · contradiction
              · rfl
              · rfl

/-- Where a path ends that can be opened for writing: at a name, which may or may not exist, in a
directory. -/
def place? (t : FileTree) (cwd : Location) (path : Bytes) : Option Location :=
  if Path.endsInSlash path then none
  else
    match (t.destination cwd path).toOption with
    | some (.named parent name) => some (parent ++ [name])
    | _ => none

theorem SameFolders.destination {t t' : FileTree} (h : t.SameFolders t') (cwd : Location)
    (path : Bytes) : (t'.destination cwd path).toOption = (t.destination cwd path).toOption := by
  unfold FileTree.destination
  split
  · rfl
  · split
    · rfl
    · dsimp only
      split
      · rfl
      · rename_i last before _
        have hd := h.descend before.reverse (if Path.isAbsolute path then [] else cwd)
        cases h₁ : t'.descend (if Path.isAbsolute path then [] else cwd) before.reverse with
        | error e =>
          cases h₂ : t.descend (if Path.isAbsolute path then [] else cwd) before.reverse with
          | error e => rfl
          | ok l =>
            rw [h₁, h₂] at hd
            cases hd
        | ok l' =>
          cases h₂ : t.descend (if Path.isAbsolute path then [] else cwd) before.reverse with
          | error e =>
            rw [h₁, h₂] at hd
            cases hd
          | ok l =>
            rw [h₁, h₂] at hd
            cases hd
            rfl

theorem SameFolders.place? {t t' : FileTree} (h : t.SameFolders t') (cwd : Location)
    (path : Bytes) : t'.place? cwd path = t.place? cwd path := by
  unfold FileTree.place?
  rw [h.destination]

theorem place?_ne_nil {t : FileTree} {cwd l : Location} {path : Bytes}
    (h : t.place? cwd path = some l) : l ≠ [] := by
  unfold FileTree.place? at h
  split at h
  · cases h
  · split at h
    · cases h
      simp
    · cases h

/-! ## Opening -/

/-- An open file that an entry was opened as for writing. -/
def opening (mode : OpenMode) (entry : Entry) : OpenFile :=
  { entry, appends := mode == .append, reads := mode == .update }

/-- Everything that opening for writing can do: it adds an open file on a device, on a regular file,
which it may empty, or on a new regular file. -/
theorem openWrite_cases {t t' : FileTree} {cwd : Location} {path : Bytes} {mode : OpenMode}
    {d : Nat} (h : t.openWrite cwd path mode = .ok (d, t')) :
    ∃ l, t.place? cwd path = some l ∧
      ((∃ device, t.entry? l = some (.device device) ∧
          (d, t') = t.addOpen (opening mode (.device device))) ∨
        (∃ n, t.entry? l = some (.regular n) ∧
          (d, t') = (if mode = .truncate then t.setContent n [] else t).addOpen
            (opening mode (.regular n))) ∨
        t.entry? l = none ∧
          (d, t') = (t.addFile l []).addOpen (opening mode (.regular t.records.length))) := by
  unfold openWrite at h
  unfold FileTree.place?
  cases hd : t.destination cwd path with
  | error e =>
    rw [hd] at h
    cases h
  | ok place =>
    rw [hd] at h
    cases place with
    | folder l => cases h
    | named parent name =>
      by_cases hs : Path.endsInSlash path = true
      · simp [hs, bind, Except.bind, throw, throwThe, MonadExceptOf.throw] at h
      · rw [if_neg hs]
        refine ⟨parent ++ [name], rfl, ?_⟩
        simp only [bind, Except.bind, hs, Bool.false_eq_true, if_false] at h
        cases he : t.entry? (parent ++ [name]) with
        | none =>
          rw [he] at h
          dsimp only at h
          split at h
          · cases h
          · cases h
            exact .inr (.inr ⟨rfl, rfl⟩)
        | some entry =>
          rw [he] at h
          cases entry with
          | directory => cases h
          | program image => cases h
          | device device =>
            cases h
            exact .inl ⟨device, rfl, rfl⟩
          | regular n =>
            cases h
            refine .inr (.inl ⟨n, rfl, ?_⟩)
            cases mode <;> rfl

/-! ### New files -/

theorem lookup_setEntry (entries : List (Location × Entry)) (l l' : Location) (e : Entry) :
    (entries.filter (·.1 ≠ l) ++ [(l, e)]).lookup l' =
      if l' = l then some e else entries.lookup l' := by
  induction entries with
  | nil =>
    by_cases h : l' = l
    · simp [h]
    · simp [List.lookup_cons, beq_eq_false_iff_ne.2 h, h]
  | cons first rest ih =>
    obtain ⟨l₀, e₀⟩ := first
    by_cases h₀ : l₀ = l
    · subst h₀
      rw [List.filter_cons_of_neg (by simp), ih]
      by_cases h : l' = l₀
      · rw [if_pos h, if_pos h]
      · simp [List.lookup_cons, beq_eq_false_iff_ne.2 h, h]
    · rw [List.filter_cons_of_pos (by simpa using h₀), List.cons_append]
      by_cases h : l' = l₀
      · subst h
        simp [h₀]
      · simp only [List.lookup_cons, beq_eq_false_iff_ne.2 h]
        exact ih

theorem entry?_addFile {t : FileTree} {l : Location} (hl : l ≠ []) (b : Bytes) (l' : Location) :
    FileTree.entry? (t.addFile l b) l' =
      if l' = l then some (.regular t.records.length) else t.entry? l' := by
  show (if l'.isEmpty then some Entry.directory else
    (t.entries.filter (·.1 ≠ l) ++ [(l, Entry.regular t.records.length)]).lookup l') = _
  rw [lookup_setEntry]
  unfold entry?
  by_cases hnil : l' = []
  · subst hnil
    simp [Ne.symm hl]
  · simp [hnil]

theorem content_addFile (t : FileTree) (l : Location) (b : Bytes) :
    (t.addFile l b).content t.records.length = b := by
  show (((t.records ++ [_])[t.records.length]?).map (·.content)).getD [] = b
  rw [List.getElem?_concat_length]
  rfl

theorem content_addFile_of_lt {t : FileTree} {n : Nat} (hn : n < t.records.length) (l : Location)
    (b : Bytes) : (t.addFile l b).content n = t.content n := by
  show (((t.records ++ [_])[n]?).map (·.content)).getD [] = _
  rw [List.getElem?_append_left hn]
  rfl

theorem openFile?_addOpen (t : FileTree) (f : OpenFile) (d : Nat) :
    (t.addOpen f).2.openFile? d = if d = t.openFiles.length then some f else t.openFile? d := by
  show (t.openFiles ++ [some f]).getD d none = _
  unfold openFile?
  by_cases hd : d = t.openFiles.length
  · simp [hd]
  · rw [if_neg hd, List.getD_eq_getElem?_getD, List.getD_eq_getElem?_getD]
    rcases Nat.lt_or_ge d t.openFiles.length with hlt | hge
    · rw [List.getElem?_append_left hlt]
    · rw [List.getElem?_eq_none hge, List.getElem?_eq_none (by simp; omega)]

/-! ### What opening leaves alone -/

/-- Whether an entry can be opened for writing. -/
def takesBytes : Entry → Bool
  | .regular _ => true
  | .device _ => true
  | _ => false

/-- What opening a place for writing does, in a tree whose numbers are those of records. -/
structure Opened (t : FileTree) (l : Location) (mode : OpenMode) (d : Nat) (t' : FileTree) :
    Prop where
  descriptor : d = t.openFiles.length
  /-- The new open file is on what the place stands for now, at its end if it was emptied or is
  added to. -/
  opened : ∃ entry, t'.entry? l = some entry ∧ takesBytes entry = true ∧
    t'.openFile? d = some (opening mode entry)
  openFiles : t'.openFiles.length = t.openFiles.length + 1
  openFile? : ∀ d', d' ≠ d → t'.openFile? d' = t.openFile? d'
  entry? : ∀ l', l' ≠ l → t'.entry? l' = t.entry? l'
  /-- What stood at the place before still does. -/
  same : ∀ entry, t.entry? l = some entry → t'.entry? l = some entry
  /-- A new file has a number of its own. -/
  fresh : t.entry? l = none → t'.entry? l = some (.regular t.records.length)
  content : ∀ n, n < t.records.length → t.entry? l ≠ some (.regular n) →
    t'.content n = t.content n
  kept : ∀ n, t.entry? l = some (.regular n) →
    t'.content n = if mode = .truncate then [] else t.content n
  empty : t.entry? l = none → t'.content t.records.length = []
  sound : t'.Sound

theorem opened_addOpen {t u : FileTree} {l : Location} {entry : Entry} (mode : OpenMode)
    (hopen : u.openFiles = t.openFiles) (hu : u.Sound) (he : u.entry? l = some entry)
    (takes : takesBytes entry = true)
    (other : ∀ l', l' ≠ l → u.entry? l' = t.entry? l')
    (same : ∀ e, t.entry? l = some e → u.entry? l = some e)
    (fresh : t.entry? l = none → u.entry? l = some (.regular t.records.length))
    (content : ∀ n, n < t.records.length → t.entry? l ≠ some (.regular n) →
      u.content n = t.content n)
    (kept : ∀ n, t.entry? l = some (.regular n) →
      u.content n = if mode = .truncate then [] else t.content n)
    (empty : t.entry? l = none → u.content t.records.length = []) :
    t.Opened l mode t.openFiles.length (u.addOpen (opening mode entry)).2 := by
  refine ⟨rfl, ⟨entry, he, takes, ?_⟩, ?_, fun d' hd' => ?_, other, same, fresh, content, kept,
    empty, ⟨hu.named, fun d' f n hf hn => ?_⟩⟩
  · rw [openFile?_addOpen, hopen, if_pos rfl]
  · show (u.openFiles ++ [_]).length = _
    rw [List.length_append, hopen]
    rfl
  · rw [openFile?_addOpen, hopen, if_neg hd']
    unfold FileTree.openFile?
    rw [hopen]
  · rw [openFile?_addOpen] at hf
    split at hf
    · cases hf
      exact hu.named l n (he.trans (congrArg some hn))
    · exact hu.opened d' f n hf hn

theorem Sound.setContent {t : FileTree} (h : t.Sound) (n : Nat) (b : Bytes) :
    (t.setContent n b).Sound := by
  refine ⟨fun l m hm => ?_, fun d f m hf hm => ?_⟩
  · rw [records_setContent]
    exact h.named l m ((entry?_of_entries (entries_setContent t n b) l).symm.trans hm)
  · rw [records_setContent]
    unfold FileTree.openFile? at hf
    rw [openFiles_setContent] at hf
    exact h.opened d f m hf hm

theorem Sound.addFile {t : FileTree} (h : t.Sound) {l : Location} (hl : l ≠ []) (b : Bytes) :
    (t.addFile l b).Sound := by
  have hlen : (t.addFile l b).records.length = t.records.length + 1 := List.length_append
  refine ⟨fun l' n hn => ?_, fun d f n hf hn => ?_⟩
  · rw [entry?_addFile hl] at hn
    rw [hlen]
    split at hn
    · cases hn
      exact Nat.lt_succ_self _
    · exact Nat.lt_succ_of_lt (h.named l' n hn)
  · rw [hlen]
    exact Nat.lt_succ_of_lt (h.opened d f n hf hn)

theorem opened_of_openWrite {t t' : FileTree} {cwd : Location} {path : Bytes} {mode : OpenMode}
    {d : Nat} (h : t.openWrite cwd path mode = .ok (d, t')) (hs : t.Sound) :
    ∃ l, t.place? cwd path = some l ∧ t.Opened l mode d t' ∧ t.SameFolders t' := by
  obtain ⟨l, hl, hcases⟩ := openWrite_cases h
  have hne := place?_ne_nil hl
  refine ⟨l, hl, ?_⟩
  rcases hcases with ⟨device, he, heq⟩ | ⟨n, he, heq⟩ | ⟨he, heq⟩
  · obtain ⟨hd, ht⟩ := Prod.ext_iff.1 heq
    dsimp only at hd ht
    rw [hd, ht]
    exact ⟨opened_addOpen mode rfl hs he rfl (fun _ _ => rfl) (fun _ h => h) (by simp [he])
      (fun _ _ _ => rfl) (by simp [he]) (by simp [he]), fun _ => Iff.rfl⟩
  · have hn := hs.named l n he
    have hready : (if mode = .truncate then t.setContent n [] else t).Sound := by
      split
      · exact hs.setContent n []
      · exact hs
    have hentries : (if mode = .truncate then t.setContent n [] else t).entries = t.entries := by
      split
      · exact entries_setContent t n []
      · rfl
    have hfiles : (if mode = .truncate then t.setContent n [] else t).openFiles = t.openFiles := by
      split
      · exact openFiles_setContent t n []
      · rfl
    have hentry := entry?_of_entries hentries
    obtain ⟨hd, ht⟩ := Prod.ext_iff.1 heq
    dsimp only [addOpen] at hd
    dsimp only at ht
    rw [hd, ht, hfiles]
    refine ⟨opened_addOpen mode hfiles hready ((hentry l).trans he) rfl (fun l' _ => hentry l')
      (fun e h => (hentry l).trans h) (by simp [he]) (fun m _ hm => ?_) (fun m hm => ?_)
        (by simp [he]), fun l' => by
          rw [← hentry l']
          rfl⟩
    · split
      · have hne' : m ≠ n := by
          rintro rfl
          exact hm he
        exact content_setContent_of_ne hne' []
      · rfl
    · obtain rfl : n = m := by
        rw [he] at hm
        cases hm
        rfl
      split
      · exact content_setContent hn []
      · rfl
  · have hentry := entry?_addFile (t := t) hne []
    obtain ⟨hd, ht⟩ := Prod.ext_iff.1 heq
    dsimp only [addOpen] at hd
    dsimp only at ht
    rw [hd, ht]
    refine ⟨opened_addOpen mode rfl (hs.addFile hne []) ?_ rfl (fun l' hl' => ?_) (by simp [he])
      (fun _ => ?_) (fun m hm _ => content_addFile_of_lt hm l []) (by simp [he])
        (fun _ => content_addFile t l []), fun l' => ?_⟩
    · rw [hentry, if_pos rfl]
    · rw [hentry, if_neg hl']
    · rw [hentry, if_pos rfl]
    · show FileTree.entry? (t.addFile l []) l' = _ ↔ _
      rw [hentry]
      by_cases h : l' = l
      · rw [if_pos h, h, he]
        exact iff_of_false nofun nofun
      · rw [if_neg h]

/-! ## Writing and closing -/

/-- What writing to some descriptors and closing them can change: these open files and what the
files hold that they are open on. -/
structure Wrote (ds : List Nat) (t t' : FileTree) : Prop where
  entries : t'.entries = t.entries
  records : t'.records.length = t.records.length
  openFiles : t'.openFiles.length = t.openFiles.length
  openFile? : ∀ d, d ∉ ds → t'.openFile? d = t.openFile? d
  entry : ∀ d f', t'.openFile? d = some f' → ∃ f, t.openFile? d = some f ∧ f'.entry = f.entry
  content : ∀ n, (∀ d ∈ ds, ∀ f, t.openFile? d = some f → f.entry ≠ .regular n) →
    t'.content n = t.content n

theorem Wrote.refl (ds : List Nat) (t : FileTree) : t.Wrote ds t :=
  ⟨rfl, rfl, rfl, fun _ _ => rfl, fun _ f hf => ⟨f, hf, rfl⟩, fun _ _ => rfl⟩

theorem Wrote.trans {ds : List Nat} {t t' t'' : FileTree} (h : t.Wrote ds t')
    (h' : t'.Wrote ds t'') : t.Wrote ds t'' := by
  refine ⟨h'.entries.trans h.entries, h'.records.trans h.records, h'.openFiles.trans h.openFiles,
    fun d hd => (h'.openFile? d hd).trans (h.openFile? d hd), fun d f'' hf'' => ?_, fun n hn => ?_⟩
  · obtain ⟨f', hf', he'⟩ := h'.entry d f'' hf''
    obtain ⟨f, hf, he⟩ := h.entry d f' hf'
    exact ⟨f, hf, he'.trans he⟩
  · have hn' : ∀ d ∈ ds, ∀ f, t'.openFile? d = some f → f.entry ≠ .regular n := by
      intro d hd f' hf'
      obtain ⟨f, hf, he⟩ := h.entry d f' hf'
      rw [he]
      exact hn d hd f hf
    exact (h'.content n hn').trans (h.content n hn)

theorem Wrote.mono {ds ds' : List Nat} {t t' : FileTree} (h : t.Wrote ds t') (hle : ds ⊆ ds') :
    t.Wrote ds' t' :=
  ⟨h.entries, h.records, h.openFiles, fun d hd => h.openFile? d fun hm => hd (hle hm), h.entry,
    fun n hn => h.content n fun d hd => hn d (hle hd)⟩

theorem Wrote.sound {ds : List Nat} {t t' : FileTree} (h : t.Wrote ds t') (hs : t.Sound) :
    t'.Sound := by
  refine ⟨fun l n hn => ?_, fun d f' n hf' hn => ?_⟩
  · rw [h.records]
    exact hs.named l n ((entry?_of_entries h.entries l).symm.trans hn)
  · obtain ⟨f, hf, he⟩ := h.entry d f' hf'
    rw [h.records]
    exact hs.opened d f n hf (he.symm.trans hn)

theorem openFile?_set (files : List (Option OpenFile)) (d d' : Nat) (f : Option OpenFile) :
    (files.set d f).getD d' none =
      if d' = d ∧ d < files.length then f else files.getD d' none := by
  rw [List.getD_eq_getElem?_getD, List.getD_eq_getElem?_getD, List.getElem?_set]
  by_cases h : d = d'
  · subst h
    by_cases hlt : d < files.length
    · simp [hlt]
    · simp [hlt]
  · simp [h, Ne.symm h]

theorem lt_of_openFile? {t : FileTree} {d : Nat} {f : OpenFile} (h : t.openFile? d = some f) :
    d < t.openFiles.length := by
  unfold FileTree.openFile? at h
  rw [List.getD_eq_getElem?_getD] at h
  rcases Nat.lt_or_ge d t.openFiles.length with hlt | hge
  · exact hlt
  · rw [List.getElem?_eq_none hge] at h
    cases h

theorem openFile?_eq_none {t : FileTree} {d : Nat} (hd : t.openFiles.length ≤ d) :
    t.openFile? d = none := by
  cases hf : t.openFile? d with
  | none => rfl
  | some f => exact absurd (lt_of_openFile? hf) (Nat.not_lt.2 hd)

theorem openFile?_close_self (t : FileTree) (d : Nat) : (t.close d).openFile? d = none := by
  have hset := openFile?_set t.openFiles d d none
  rcases Nat.lt_or_ge d t.openFiles.length with hlt | hge
  · exact hset.trans (if_pos ⟨rfl, hlt⟩)
  · exact openFile?_eq_none (Nat.le_trans (Nat.le_of_eq List.length_set) hge)

theorem wrote_close (t : FileTree) (d : Nat) : t.Wrote [d] (t.close d) := by
  have hset : ∀ d', (t.close d).openFile? d' =
      if d' = d ∧ d < t.openFiles.length then none else t.openFile? d' :=
    fun d' => openFile?_set t.openFiles d d' none
  refine ⟨rfl, rfl, List.length_set, fun d' hd' => ?_, fun d' f hf => ?_, fun _ _ => rfl⟩
  · rw [hset, if_neg fun h => hd' (List.mem_singleton.2 h.1)]
  · rw [hset] at hf
    split at hf
    · cases hf
    · exact ⟨f, hf, rfl⟩

theorem wrote_setContent {t : FileTree} {d n : Nat} {f : OpenFile} (hf : t.openFile? d = some f)
    (hn : f.entry = .regular n) (b : Bytes) : t.Wrote [d] (t.setContent n b) := by
  have hopen : ∀ d', (t.setContent n b).openFile? d' = t.openFile? d' := by
    intro d'
    unfold FileTree.openFile?
    rw [openFiles_setContent]
  refine ⟨entries_setContent t n b, records_setContent t n b, ?_, fun d' _ => hopen d',
    fun d' f' hf' => ⟨f', (hopen d').symm.trans hf', rfl⟩, fun m hm => ?_⟩
  · rw [openFiles_setContent]
  · refine content_setContent_of_ne ?_ b
    rintro rfl
    exact hm d List.mem_cons_self f hf hn

theorem wrote_setOpen {t : FileTree} {d : Nat} {f f' : OpenFile} (hf : t.openFile? d = some f)
    (he : f'.entry = f.entry) :
    t.Wrote [d] { t with openFiles := t.openFiles.set d (some f') } := by
  refine ⟨rfl, rfl, List.length_set, fun d' hd' => ?_, fun d' g hg => ?_, fun _ _ => rfl⟩
  · refine (openFile?_set t.openFiles d d' (some f')).trans ?_
    rw [if_neg fun h => hd' (List.mem_singleton.2 h.1)]
    rfl
  · have hg' := (openFile?_set t.openFiles d d' (some f')).symm.trans hg
    split at hg'
    · rename_i h
      cases hg'
      rw [h.1]
      exact ⟨f, hf, he⟩
    · exact ⟨g, hg', rfl⟩

theorem wrote_write (t : FileTree) (d : Nat) (b : Bytes) : t.Wrote [d] (t.write d b).2 := by
  unfold write
  split
  · exact Wrote.refl _ t
  · rename_i f hf
    split
    · exact Wrote.refl _ t
    · rename_i n hw hn
      split
      · exact Wrote.refl _ t
      · split
        · exact wrote_setContent hf hn _
        · have hset := wrote_setContent hf hn (overwrite (t.content n) f.offset b)
          refine hset.trans (wrote_setOpen (f := f) ?_ rfl)
          unfold FileTree.openFile?
          rw [openFiles_setContent]
          exact hf
    · exact Wrote.refl _ t
    · exact Wrote.refl _ t

/-! ### Files that are open at their ends -/

/-- What is written to a descriptor is added to a regular file. -/
structure AtEnd (t : FileTree) (d n : Nat) : Prop where
  opened : ∃ f, t.openFile? d = some f ∧ f.writes = true ∧ f.entry = .regular n ∧
    (f.appends = true ∨ f.offset = (t.content n).length)
  record : n < t.records.length

theorem overwrite_length (old new : Bytes) : overwrite old old.length new = old ++ new := by
  simp [overwrite]

theorem AtEnd.write {t : FileTree} {d n : Nat} (h : t.AtEnd d n) (b : Bytes) :
    (t.write d b).1 = .ok () ∧ (t.write d b).2.AtEnd d n ∧
      (t.write d b).2.content n = t.content n ++ b := by
  obtain ⟨⟨⟨entry, appends, offset, reads, writes⟩, hf, hw, hn, hend⟩, hrec⟩ := h
  dsimp only at hw hn hend
  subst hw hn
  have hget : t.openFiles.getD d none = some ⟨.regular n, appends, offset, reads, true⟩ := hf
  have hfull : ∀ c, (t.setContent n c).openFile? d =
      some ⟨.regular n, appends, offset, reads, true⟩ := by
    intro c
    unfold FileTree.openFile?
    rw [openFiles_setContent]
    exact hf
  have hrecs : ∀ c, n < (t.setContent n c).records.length := by
    intro c
    rw [records_setContent]
    exact hrec
  unfold FileTree.write
  simp only [hget]
  by_cases hb : b.isEmpty = true
  · rw [if_pos hb, List.isEmpty_iff.1 hb, List.append_nil]
    exact ⟨rfl, ⟨⟨_, hf, rfl, rfl, hend⟩, hrec⟩, rfl⟩
  · rw [if_neg hb]
    by_cases ha : appends = true
    · rw [if_pos ha]
      exact ⟨rfl, ⟨⟨_, hfull _, rfl, rfl, .inl ha⟩, hrecs _⟩, content_setContent hrec _⟩
    · rw [if_neg ha]
      obtain rfl : offset = (t.content n).length := hend.resolve_left ha
      rw [overwrite_length]
      have hcontent := content_setContent hrec (t.content n ++ b)
      refine ⟨rfl, ⟨⟨_, (openFile?_set _ d d _).trans (if_pos ⟨rfl, ?_⟩), rfl, rfl, .inr ?_⟩,
        hrecs _⟩, hcontent⟩
      · show (t.content n).length + b.length = ((t.setContent n _).content n).length
        rw [hcontent, List.length_append]
      · rw [openFiles_setContent]
        exact lt_of_openFile? hf

/-- A file stays open at its end while neither the open file nor what it holds changes. -/
theorem AtEnd.of_same {t t' : FileTree} {d n : Nat} (h : t.AtEnd d n)
    (hopen : t'.openFile? d = t.openFile? d) (hcontent : t'.content n = t.content n)
    (hrec : n < t'.records.length) : t'.AtEnd d n := by
  obtain ⟨⟨f, hf, hwrites, he, hend⟩, -⟩ := h
  refine ⟨⟨f, hopen.trans hf, hwrites, he, ?_⟩, hrec⟩
  rw [hcontent]
  exact hend

end Relay.FileTree
