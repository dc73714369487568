import Relay.Proofs.Files.Descriptors
import Relay.Proofs.Orchestrator.RedirectFiles

/-!
# One program at a time

`exclusive`: whatever the order of steps and over any number of runs, at most one program has been
started and not reaped, the redirect files that are open belong to its stage, a step opens redirect
files only while no program is alive and none is open, and while no run is in progress there is
neither.

The argument looks at the one task that may not be over (`Inv.undone`).

1. The journal of a worker whose program was started and not reaped is that of such a task, for a
   task that started a program is over only after waiting for it, also when it was killed
   (`Task.Traced.undone_of_isAlive`).
2. A redirect file that is open belongs to such a task, since a task that ends has closed its files
   and nothing but a launch opens one (`Held`).
3. A launch finds no such task (`Inv.isQuiescent_of_launches`, `Deed.opens`).
-/

namespace Relay

open Descriptors (IsOpen)

variable {ω : Type} [FileStore ω]

/-! ## Programs that are alive -/

namespace Task

/-- A program was started and has not been reaped: waiting for it has not given its code.  A program
that was killed is alive until then. -/
structure IsAlive (log : List Notice) : Prop where
  launched : launch? log = some (.ok ())
  unwaited : ∀ code, wait? log ≠ some (.ok code)

omit [FileStore ω] in
/-- Unless waiting failed, a task whose program is alive is not over. -/
theorem Traced.undone_of_isAlive {t : Task} {log : List Notice} (h : Traced log t)
    (alive : IsAlive log) (hwait : ∀ e, wait? log ≠ some (.error e)) : t.outcome? = none := by
  obtain ⟨t₀, new, -, -, told⟩ := h
  rcases told.outcome?_cases new with ⟨hnone, -⟩ | ⟨r, -, judged⟩
  · exact hnone
  · exfalso
    rcases judged.decided with hlaunch | hwaited
    · rw [alive.launched] at hlaunch
      cases hlaunch
    · obtain ⟨waited, hw⟩ := Option.isSome_iff_exists.1 hwaited
      cases waited with
      | ok code => exact alive.unwaited code hw
      | error e => exact hwait e hw

theorem signal_of_wait_mem {t : Task} {w : ω} {s : Signal} {r : Except IoError Int}
    (h : Notice.wait r ∈ t.notices w s) : s = .exited r := by
  have hclose : ∀ (t' : Task) (w' : ω), Notice.wait r ∉ t'.closeNotices w' := by
    intro t' w'
    simp [closeNotices]
  have houtput : ∀ (x : Stream) (ns : List Drain.Notice),
      Notice.wait r ∉ ns.map (Notice.output x) := by
    intro x ns
    simp
  unfold notices at h
  split at h
  · split at h
    · cases h
    · split at h <;> simp at h
  · split at h
    · cases h
    · simp [hclose] at h
  · split at h <;> simp at h
  · exact absurd h (houtput _ _)
  · exact absurd h (houtput _ _)
  · exact absurd h (houtput _ _)
  · simp only [List.mem_cons, Notice.wait.injEq, hclose, or_false] at h
    rw [h]
  · simp at h
  · simp at h
  · simp only [List.mem_cons, Notice.wait.injEq, hclose, or_false] at h
    rw [h]
  · cases h

end Task

namespace Orchestrator

/-- Waiting for a program failed in none of the transitions. -/
def WaitsSucceed (ts : List (Transition ω)) : Prop :=
  ∀ t ∈ ts, ∀ k e, t.step ≠ .work k (.exited (.error e))

theorem WaitsSucceed.wait?_ne {ts : List (Transition ω)} (h : WaitsSucceed ts) (i : Nat)
    (e : IoError) : Task.wait? (journal ts i) ≠ some (.error e) := by
  intro hwait
  obtain ⟨n, hn, hr⟩ := List.exists_of_findSome?_eq_some hwait
  obtain ⟨t, ht, hn⟩ := List.mem_flatMap.1 hn
  obtain rfl : n = .wait (.error e) := by
    cases n with
    | wait r => exact congrArg _ (Option.some.inj hr)
    | _ => cases hr
  unfold Transition.notices at hn
  split at hn
  · rename_i j signal k hstep hk
    split at hn
    · obtain rfl := Task.signal_of_wait_mem hn
      exact h t ht j e hstep
    · cases hn
  · cases hn

/-! ## The task that is not over -/

section Undone

variable {o : Orchestrator ω}

omit [FileStore ω] in
/-- Only the latest task may not be over. -/
theorem Inv.undone (h : o.Inv) {i : Nat} {t : Task} (ht : o.tasks[i]? = some t)
    (hr : t.outcome? = none) : ∃ ts, o.tasks = ts ++ [t] ∧ i = ts.length := by
  obtain ⟨k, hk, rfl⟩ := getElem?_tasks.1 ht
  obtain ⟨ks, hks, hi⟩ := h.of_undone hk hr
  refine ⟨ks.map Worker.task, tasks_concat hks, ?_⟩
  rw [List.length_map, hi]

omit [FileStore ω] in
theorem Inv.eq_of_undone (h : o.Inv) {i j : Nat} {t t' : Task} (ht : o.tasks[i]? = some t)
    (hr : t.outcome? = none) (ht' : o.tasks[j]? = some t') (hr' : t'.outcome? = none) :
    i = j ∧ t = t' := by
  obtain ⟨ts, hts, rfl⟩ := h.undone ht hr
  obtain ⟨ts', hts', rfl⟩ := h.undone ht' hr'
  obtain ⟨rfl, hlast⟩ := List.append_inj' (hts.symm.trans hts') rfl
  exact ⟨rfl, List.singleton_inj.1 hlast⟩

/-- A step that tries to launch a stage finds all tasks over. -/
theorem Inv.isQuiescent_of_launches (h : o.Inv) {s : Step ω} {o' : Orchestrator ω} {i : Nat}
    (hs : o.next? s = some o') (hl : o.launches? s = some i) : o.IsQuiescent := by
  cases (h.next hs).2 with
  | still _ hnone =>
    rw [hnone] at hl
    cases hl
  | refused hi => exact h.isQuiescent_of_idle hi.running
  | begun hi => exact h.isQuiescent_of_idle hi.running
  | stopped => cases hl
  | advanced hw hr => exact hw.isQuiescent h hr
  | completed _ _ _ hnone =>
    rw [hnone] at hl
    cases hl
  | cut hw hr => exact hw.isQuiescent h hr

end Undone

/-! ## Redirect files that are open -/

variable [Descriptors ω]

/-- A step other than that of a program opens a descriptor. -/
def Transition.Opens (t : Transition ω) (d : Nat) : Prop :=
  (∀ world, t.step ≠ .disturb world) ∧ ¬ IsOpen t.before.world d ∧ IsOpen t.after.world d

def IsRedirect (ts : List (Transition ω)) (d : Nat) : Prop := ∃ t ∈ ts, t.Opens d

/-- Programs have descriptors of their own: they open none of those that stages have or had. -/
def OwnDescriptors (ts : List (Transition ω)) : Prop :=
  ∀ t ∈ ts, ∀ world, t.step = .disturb world → ∀ k ∈ t.before.tasks, ∀ d ∈ k.descriptors,
    IsOpen world d → IsOpen t.before.world d

/-- No program is alive and no redirect file is open. -/
structure Vacant (ts : List (Transition ω)) (o : Orchestrator ω) : Prop where
  programs : ∀ i, ¬ Task.IsAlive (journal ts i)
  files : ∀ d, IsRedirect ts d → ¬ IsOpen o.world d

/-- The redirect files that are open belong to a task that is not over. -/
structure Held (ts : List (Transition ω)) (o : Orchestrator ω) : Prop where
  recorded : ∀ d, IsRedirect ts d → ∃ k ∈ o.tasks, d ∈ k.descriptors
  held : ∀ k ∈ o.tasks, ∀ d ∈ k.descriptors, IsOpen o.world d →
    ∃ k' ∈ o.tasks, k'.outcome? = none ∧ d ∈ k'.descriptors

/-! ### Opening -/

theorem isOpen_of_openSink {w w' : ω} {target? : Option Text} {mode : OpenMode} {k : Sink} {d : Nat}
    (ho : openSink w target? mode = .ok (k, w')) (hd : IsOpen w' d) :
    k.descriptor? = some d ∨ IsOpen w d := by
  cases target? with
  | none =>
    cases ho
    exact .inr hd
  | some y =>
    rw [openSink_some] at ho
    split at ho
    · rename_i hopen
      cases ho
      exact (Descriptors.of_openTarget hopen hd).imp_left fun h => congrArg some h.symm
    · cases ho

/-- Launching a stage opens the descriptors of its task. -/
theorem isOpen_of_openSinks {w w' : ω} {p : Pipeline} {i : Nat} {t : Task} {d : Nat}
    (ho : openSinks w p i = (.ok (t.stdout.sink, t.stderr.sink), w')) (hd : IsOpen w' d) :
    d ∈ t.descriptors ∨ IsOpen w d := by
  obtain ⟨w₁, herr, hout⟩ := openSinks_eq_ok ho
  rcases isOpen_of_openSink hout hd with hd | hd
  · exact .inl (Task.mem_descriptors.2 ⟨.stdout, hd⟩)
  · rcases isOpen_of_openSink herr hd with hd | hd
    · exact .inl (Task.mem_descriptors.2 ⟨.stderr, hd⟩)
    · exact .inr hd

theorem opensNone_of_refused {w w' : ω} {p : Pipeline} {i : Nat} {e : Refusal}
    (ho : openSinks w p i = (.error e, w')) : OpensNone w w' := by
  rcases openSinks_eq_error ho with ⟨-, rfl⟩ | ⟨err, w₁, herr, -, rfl⟩
  · exact fun _ hd => hd
  · intro d hd
    rcases isOpen_of_openSink herr (Sink.abandon_within err.keeps_opensNone w₁ d hd) with hk | hd'
    · exact absurd hd (Sink.not_isOpen_abandon hk w₁)
    · exact hd'

section Step

variable {o o' : Orchestrator ω} {s : Step ω} {ts : List (Transition ω)}

/-- A step that opens a descriptor finds all tasks over, and opens it for the task that it
launches. -/
theorem Deed.opens (hd : o.Deed s o') {d : Nat} (ho : Transition.Opens ⟨o, s, o'⟩ d) :
    o.IsQuiescent ∧ ∃ k ∈ o'.tasks, d ∈ k.descriptors := by
  obtain ⟨hstep, hbefore, hafter⟩ := ho
  cases hd with
  | rest _ _ hworld _ =>
    dsimp only at hbefore hafter
    rw [hworld] at hafter
    exact absurd hafter hbefore
  | @work _ _ pre t signal _ _ _ _ hworld _ =>
    dsimp only at hbefore hafter
    rw [hworld] at hafter
    exact absurd ((t.step_opensNone o.world signal).world d hafter) hbefore
  | disturb world => exact absurd rfl (hstep world)
  | launch quiescent _ _ opened tasks _ _ _ _ =>
    rcases isOpen_of_openSinks opened hafter with hd | hd
    · rw [tasks]
      exact ⟨quiescent, _, List.mem_append_right _ (List.mem_singleton_self _), hd⟩
    · exact absurd hd hbefore
  | refuse _ _ _ opened _ _ _ => exact absurd (opensNone_of_refused opened d hafter) hbefore

omit [Descriptors ω] in
/-- A task keeps its descriptors. -/
theorem Deed.descriptors (hd : o.Deed s o') {k : Task} (hk : k ∈ o.tasks) :
    ∃ k' ∈ o'.tasks, k'.descriptors = k.descriptors := by
  cases hd with
  | rest _ ht _ _ =>
    rw [ht]
    exact ⟨k, hk, rfl⟩
  | @work _ _ pre t signal _ hbefore _ hafter _ _ =>
    rw [hbefore] at hk
    rw [hafter]
    rcases List.mem_append.1 hk with hk | hk
    · exact ⟨k, List.mem_append_left _ hk, rfl⟩
    · obtain rfl := List.mem_singleton.1 hk
      have hstep := k.step_within (fun x => (k.drain x).sink.keeps_true) o.world signal
      exact ⟨_, List.mem_append_right _ (List.mem_singleton_self _),
        Task.descriptors_of_within hstep⟩
  | disturb => exact ⟨k, hk, rfl⟩
  | launch _ _ _ _ ht _ _ _ _ =>
    rw [ht]
    exact ⟨k, List.mem_append_left _ hk, rfl⟩
  | refuse _ _ _ _ ht _ _ =>
    rw [ht]
    exact ⟨k, hk, rfl⟩

/-- What a step does to a redirect file that is open. -/
theorem Held.concat (h : Held ts o) (hinv : o.Inv) (hd : o.Deed s o')
    (hown : ∀ world, s = .disturb world → ∀ k ∈ o.tasks, ∀ d ∈ k.descriptors, IsOpen world d →
      IsOpen o.world d) : Held (ts ++ [⟨o, s, o'⟩]) o' := by
  constructor
  · rintro d ⟨t, ht, hopen⟩
    rcases List.mem_append.1 ht with ht | ht
    · obtain ⟨k, hk, hdk⟩ := h.recorded d ⟨t, ht, hopen⟩
      obtain ⟨k', hk', hsame⟩ := hd.descriptors hk
      rw [← hsame] at hdk
      exact ⟨k', hk', hdk⟩
    · obtain rfl := List.mem_singleton.1 ht
      exact (hd.opens hopen).2
  · intro k hk d hdk hopen
    cases hd with
    | rest _ htasks hworld _ =>
      rw [hworld] at hopen
      rw [htasks] at hk ⊢
      exact h.held k hk d hdk hopen
    | @work _ _ pre t signal _ hbefore undone hafter hworld _ =>
      have hstep := t.step_opensNone o.world signal
      have hsame := Task.descriptors_of_within hstep
      have hlast : o.tasks[pre.length]? = some t := by rw [hbefore, List.getElem?_concat_length]
      rw [hworld] at hopen
      -- the file was open before, so it belongs to the task that the signal reaches
      have hdt : d ∈ t.descriptors := by
        have hbelongs : ∃ k₀ ∈ o.tasks, d ∈ k₀.descriptors := by
          rw [hafter] at hk
          rw [hbefore]
          rcases List.mem_append.1 hk with hk | hk
          · exact ⟨k, List.mem_append_left _ hk, hdk⟩
          · rw [List.mem_singleton.1 hk, hsame] at hdk
            exact ⟨t, List.mem_append_right _ (List.mem_singleton_self t), hdk⟩
        obtain ⟨k₀, hk₀, hdk₀⟩ := hbelongs
        obtain ⟨k', hk', hnone, hdk'⟩ := h.held k₀ hk₀ d hdk₀ (hstep.world d hopen)
        obtain ⟨j, hj⟩ := List.getElem?_of_mem hk'
        rwa [(hinv.eq_of_undone hlast undone hj hnone).2]
      cases hr : (t.step o.world signal).1.outcome? with
      | some r => exact absurd hopen (Task.not_isOpen_of_step undone hr hdt)
      | none =>
        rw [hafter]
        refine ⟨_, List.mem_append_right _ (List.mem_singleton_self _), hr, ?_⟩
        rwa [hsame]
    | disturb world => exact h.held k hk d hdk (hown world rfl k hk d hdk hopen)
    | @launch _ _ _ t quiescent _ _ opened htasks _ new _ _ =>
      rw [htasks] at hk ⊢
      have hnew : t ∈ o.tasks ++ [t] := List.mem_append_right _ (List.mem_singleton_self t)
      have hundone : t.outcome? = none := by
        unfold Task.outcome?
        rw [new.phase]
      rcases isOpen_of_openSinks opened hopen with hdt | hbefore
      · exact ⟨t, hnew, hundone, hdt⟩
      · rcases List.mem_append.1 hk with hk | hk
        · obtain ⟨k', hk', hnone, -⟩ := h.held k hk d hdk hbefore
          exact absurd hnone (quiescent.outcome?_ne_none hk')
        · rw [List.mem_singleton.1 hk] at hdk
          exact ⟨t, hnew, hundone, hdk⟩
    | refuse _ _ _ opened htasks _ _ =>
      rw [htasks] at hk ⊢
      exact h.held k hk d hdk (opensNone_of_refused opened d hopen)

end Step

/-! ### Histories -/

section History

variable {p : Pipeline} {settings : Settings} {world : ω} {o₀ o : Orchestrator ω}
  {ts : List (Transition ω)}

theorem held_of_history (h₀ : ofPipeline p settings world = .ok o₀) (ht : History o₀ ts o)
    (own : OwnDescriptors ts) : Held ts o := by
  have hinv₀ := inv_of_ofPipeline h₀
  obtain ⟨-, rfl⟩ := of_ofPipeline h₀
  induction ht with
  | nil =>
    constructor
    · rintro d ⟨t, ht, -⟩
      exact absurd ht List.not_mem_nil
    · intro k hk
      exact absurd hk List.not_mem_nil
  | @snoc ts m o' s ht hs ih =>
    obtain ⟨hbefore, hlast⟩ := List.forall_mem_append.1 own
    have hinv := hinv₀.history ht
    exact (ih hbefore).concat hinv (hinv.deed hs) (List.forall_mem_singleton.1 hlast)

omit [Descriptors ω] in
theorem Traces.undone_of_isAlive (traces : Traces ts 0 o) (waits : WaitsSucceed ts) {i : Nat}
    (alive : Task.IsAlive (journal ts i)) : ∃ t, o.tasks[i]? = some t ∧ t.outcome? = none := by
  cases ht : o.tasks[i]? with
  | none =>
    have hnil := traces.ahead i (List.getElem?_eq_none_iff.1 ht)
    have hlaunched := alive.launched
    rw [hnil] at hlaunched
    cases hlaunched
  | some t =>
    have htraced := traces.traced i t (Nat.zero_le i) ht
    exact ⟨t, rfl, htraced.undone_of_isAlive alive (waits.wait?_ne i)⟩

theorem Held.vacant (h : Held ts o) (traces : Traces ts 0 o) (waits : WaitsSucceed ts)
    (hover : o.IsQuiescent) : Vacant ts o := by
  constructor
  · intro i alive
    obtain ⟨t, ht, hnone⟩ := traces.undone_of_isAlive waits alive
    exact hover.outcome?_ne_none (List.mem_of_getElem? ht) hnone
  · intro d hd hopen
    obtain ⟨k, hk, hdk⟩ := h.recorded d hd
    obtain ⟨k', hk', hnone, -⟩ := h.held k hk d hdk hopen
    exact hover.outcome?_ne_none hk' hnone

/-- **At most one program is alive, and none while idle.**  After any steps in any order, over any
number of runs, in which waiting for a program does not fail: at most one program that was started
has not been reaped; a redirect file that is open belongs to a stage that is not over, and no
program but that of this stage is alive; a step tries to launch a stage, or opens a redirect file,
only while no program is alive and no redirect file is open; and there is neither while no run is in
progress. -/
theorem exclusive (h₀ : ofPipeline p settings world = .ok o₀) (ht : History o₀ ts o)
    (waits : WaitsSucceed ts) (own : OwnDescriptors ts) :
    (∀ i j, Task.IsAlive (journal ts i) → Task.IsAlive (journal ts j) → i = j) ∧
      (∀ d, IsRedirect ts d → IsOpen o.world d →
        ∃ i t, o.tasks[i]? = some t ∧ t.outcome? = none ∧ d ∈ t.descriptors ∧
          ∀ j, Task.IsAlive (journal ts j) → j = i) ∧
      (∀ s o', o.next? s = some o' →
        (o.launches? s).isSome ∨ (∃ d, Transition.Opens ⟨o, s, o'⟩ d) → Vacant ts o) ∧
      (o.running = false → Vacant ts o) := by
  obtain ⟨hinv, -, -⟩ := inv_of_history h₀ ht
  have traces := traces_of_history h₀ ht
  have held := held_of_history h₀ ht own
  refine ⟨?_, ?_, ?_, ?_⟩
  · intro i j hi hj
    obtain ⟨t, ht, hnone⟩ := traces.undone_of_isAlive waits hi
    obtain ⟨t', ht', hnone'⟩ := traces.undone_of_isAlive waits hj
    exact (hinv.eq_of_undone ht hnone ht' hnone').1
  · intro d hd hopen
    obtain ⟨k, hk, hdk⟩ := held.recorded d hd
    obtain ⟨t, hmem, hnone, hdt⟩ := held.held k hk d hdk hopen
    obtain ⟨i, hi⟩ := List.getElem?_of_mem hmem
    refine ⟨i, t, hi, hnone, hdt, ?_⟩
    intro j hj
    obtain ⟨t', ht', hnone'⟩ := traces.undone_of_isAlive waits hj
    exact (hinv.eq_of_undone ht' hnone' hi hnone).1
  · rintro s o' hs (hl | ⟨d, hd⟩)
    · obtain ⟨i, hi⟩ := Option.isSome_iff_exists.1 hl
      exact held.vacant traces waits (hinv.isQuiescent_of_launches hs hi)
    · exact held.vacant traces waits ((hinv.deed hs).opens hd).1
  · intro hrun
    exact held.vacant traces waits (hinv.isQuiescent_of_idle hrun)

end History

/-! ### Two programs with redirect files -/

/-- The first program has ended.  The second one was at work when the run was stopped: it was killed
and has not been waited for. -/
def relaying : List (Transition Host) × Orchestrator Host :=
  filing.follow (.start :: printing 0 0 97 ++ [.work 1 .launched, .beginStop,
    .work 1 (.killed none none)])

/-- The second program is the one that is alive, the file of its standard output is open and the
file of the first program is closed; the stop goes on waiting. -/
theorem exclusive_relaying :
    Task.IsAlive (journal relaying.1 1) ∧ IsOpen relaying.2.world 2 ∧
      ¬ IsOpen relaying.2.world 0 ∧ (∀ j, Task.IsAlive (journal relaying.1 j) → j = 1) ∧
      Task.wasKilled (journal relaying.1 1) = true ∧ (relaying.2.next? .endStop).isNone = true := by
  have waits : WaitsSucceed relaying.1 := by
    intro t ht k e he
    have hmem := step_mem_of_follow ht
    rw [he] at hmem
    simp [printing] at hmem
  have own : OwnDescriptors relaying.1 := by
    intro t ht world hw
    have hmem := step_mem_of_follow ht
    rw [hw] at hmem
    simp [printing] at hmem
  have alive : Task.IsAlive (journal relaying.1 1) := by
    have hwait : Task.wait? (journal relaying.1 1) = none :=
      Option.isNone_iff_eq_none.1 (by decide +kernel)
    refine ⟨by decide +kernel, fun code hcode => ?_⟩
    rw [hwait] at hcode
    cases hcode
  obtain ⟨hone, -⟩ := exclusive ofPipeline_filing (history_follow _ _) waits own
  refine ⟨alive, ?_, ?_, fun j hj => hone j 1 hj alive, by decide +kernel, by decide +kernel⟩
  · show (relaying.2.world.files.openFile? 2).isSome = true
    decide +kernel
  · show ¬ (relaying.2.world.files.openFile? 0).isSome = true
    decide +kernel

end Orchestrator

end Relay
