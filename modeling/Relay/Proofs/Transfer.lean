import Mathlib.Logic.Relation
import Relay.Proofs.Task
import Relay.Transfer

/-!
# Transfers do not get stuck

`never_stuck`: whatever a program does and whatever the pipes hold, a transfer is over or somebody
can go on.

The invariant `Inv` is about what a party would have to wait for.  A pipe holds at least one byte,
so it is not empty and full at once; an exited program holds no pipe; and the task transfers as long
as one of its activities goes on (`Task.Engaged`).  A request is therefore served, or it waits for
an activity that itself can go on (`Inv.serve_or_work`): a read for feeding, since the input pipe is
empty, a write for draining, since the output pipe is not.  Without a program nothing has to be
waited for at all (`Inv.exists_work`), and since an activity that goes on leaves less to do
(`remaining_work`), the activities then bring the transfer to its end (`Inv.ends`).
-/

namespace Relay

/-! ## Pipes -/

namespace Pipe

@[simp] theorem bytes_push (p : Pipe) (b : Bytes) : (p.push b).bytes = p.bytes ++ b := by
  obtain ⟨front, back, size, limit⟩ := p
  cases back <;> simp [push, bytes]

@[simp] theorem bytes_drop (p : Pipe) (n : Nat) : (p.drop n).bytes = p.bytes.drop n := rfl

/-- The pipe counts its bytes rightly and can hold at least one. -/
structure Sound (p : Pipe) : Prop where
  size_eq : p.size = p.bytes.length
  roomy : ∃ c, 0 < c ∧ p.limit = some c

variable {p : Pipe} (h : p.Sound)
include h

theorem Sound.push (b : Bytes) : (p.push b).Sound := by
  refine ⟨?_, h.roomy⟩
  rw [bytes_push, List.length_append, ← h.size_eq]
  rfl

theorem Sound.drop (n : Nat) : (p.drop n).Sound := by
  refine ⟨?_, h.roomy⟩
  rw [bytes_drop, List.length_drop, ← h.size_eq]
  rfl

theorem Sound.isFull_of_empty (h0 : p.size = 0) : Transfer.isFull p = false := by
  obtain ⟨c, hc, hlimit⟩ := h.roomy
  simp only [Transfer.isFull, room, hlimit, h0, decide_eq_false_iff_not]
  omega

omit h in
theorem room_pos (hroom : Transfer.isFull p = false) {n : Nat} (hn : 0 < n) : 0 < p.room n := by
  unfold Transfer.isFull at hroom
  unfold room at hroom ⊢
  split
  · exact hn
  · rename_i c hlimit
    simp only [hlimit, decide_eq_false_iff_not] at hroom
    omega

end Pipe

/-! ## The activities of a task -/

namespace Task

/-- The task transfers as long as an activity goes on, and then waits for its program. -/
def Engaged (t : Task) : Prop :=
  t.phase = .transferring ∧ ¬ t.Settled ∨ (∃ r, t.phase = .awaiting r) ∧ t.Settled

theorem Engaged.transferring {t : Task} (h : t.Engaged) (hnot : ¬ t.Settled) :
    t.phase = .transferring := by
  rcases h with ⟨h, -⟩ | ⟨-, h⟩
  · exact h
  · exact absurd h hnot

theorem engaged_joined {t : Task} (h : t.phase = .transferring) : t.joined.Engaged := by
  rcases t.joined_cases with ⟨hs, r, hj⟩ | ⟨hs, hj⟩
  · rw [hj]
    exact .inr ⟨⟨r, rfl⟩, hs.fed, hs.stdout, hs.stderr⟩
  · rw [hj]
    exact .inl ⟨h, hs⟩

theorem engaged_step {ω : Type} [FileStore ω] {t : Task} (h : t.phase = .transferring) (w : ω)
    {s : Signal} (hs : s.isActivity = true) : (t.step w s).1.Engaged := by
  obtain ⟨t', hj, ht'⟩ := exists_step_eq_joined h w hs
  rw [hj]
  exact engaged_joined ht'

end Task

/-! ## The invariant -/

namespace Transfer

variable {ω σ : Type}

/-- What holds of a transfer at any time. -/
structure Inv (t : Transfer ω σ) : Prop where
  engaged : t.task.Engaged
  stdin : t.stdin.Sound
  outlet : ∀ s, (t.outlet s).pipe.Sound
  exited : t.program = none → t.reads = false ∧ ∀ s, (t.outlet s).held = false

theorem outlet_onOutlet (t : Transfer ω σ) (s s' : Stream) (f : Outlet → Outlet) :
    (t.onOutlet s f).outlet s' = if s' = s then f (t.outlet s) else t.outlet s' := by
  cases s <;> cases s' <;> rfl

/-- A change to an outlet that keeps its pipe sound and does not give it back to the program. -/
theorem Inv.onOutlet {t : Transfer ω σ} (h : t.Inv) {s : Stream} {f : Outlet → Outlet}
    (hpipe : (f (t.outlet s)).pipe.Sound)
    (hheld : (t.outlet s).held = false → (f (t.outlet s)).held = false) :
    (t.onOutlet s f).Inv := by
  have hframe : (t.onOutlet s f).task = t.task ∧ (t.onOutlet s f).stdin = t.stdin ∧
      (t.onOutlet s f).program = t.program ∧ (t.onOutlet s f).reads = t.reads := by
    cases s <;> exact ⟨rfl, rfl, rfl, rfl⟩
  obtain ⟨htask, hstdin, hprogram, hreads⟩ := hframe
  refine ⟨htask ▸ h.engaged, hstdin ▸ h.stdin, fun s' => ?_, fun hnone => ?_⟩
  · rw [outlet_onOutlet]
    split
    · exact hpipe
    · exact h.outlet s'
  · rw [hprogram] at hnone
    obtain ⟨hr, hh⟩ := h.exited hnone
    refine ⟨hreads.trans hr, fun s' => ?_⟩
    rw [outlet_onOutlet]
    split
    · exact hheld (hh s)
    · exact hh s'

theorem Inv.serve {t t' : Transfer ω σ} (h : t.Inv) {q : Request} {r : Reply}
    (hs : t.serve q = some (r, t')) : t'.Inv := by
  cases q with
  | read most =>
    simp only [Transfer.serve] at hs
    split at hs
    · cases hs
      exact h
    · split at hs
      · split at hs
        · cases hs
        · cases hs
          exact h
      · cases hs
        exact ⟨h.engaged, h.stdin.drop most, h.outlet, h.exited⟩
  | write s b =>
    simp only [Transfer.serve] at hs
    split at hs
    · cases hs
      exact h
    · split at hs
      · cases hs
      · cases hs
        exact h.onOutlet ((h.outlet s).push _) id
  | closeInput =>
    cases hs
    exact ⟨h.engaged, h.stdin, h.outlet, fun hnone => ⟨rfl, (h.exited hnone).2⟩⟩
  | closeOutput s =>
    cases hs
    exact h.onOutlet (h.outlet s) fun _ => rfl
  | exit =>
    cases hs
    refine ⟨h.engaged, h.stdin, fun s => ?_, fun _ => ⟨rfl, fun s => ?_⟩⟩
    · cases s
      · exact h.outlet .stdout
      · exact h.outlet .stderr
    · cases s <;> rfl

/-- A program that makes a request keeps the invariant; if it exits, it lets go of its pipes. -/
theorem Inv.serves {P : Program σ} {t t' : Transfer ω σ} {q : Request} (h : t.Inv)
    (hs : t.Serves P q t') : t'.Inv := by
  obtain ⟨hx, hq, hserve, hy⟩ := hs
  have h' := h.serve hserve
  refine ⟨h'.engaged, h'.stdin, h'.outlet, fun hnone => ?_⟩
  by_cases he : q = .exit
  · subst he
    cases hserve
    exact ⟨rfl, fun s => by cases s <;> rfl⟩
  · rw [if_neg he] at hnone
    cases hnone

theorem not_settled_of_isFed {t : Transfer ω σ} (h : t.isFed = true) : ¬ t.task.Settled := by
  intro hs
  simp [isFed, Option.isSome_iff_ne_none.1 hs.fed] at h

theorem not_settled_of_isDrained {t : Transfer ω σ} {s : Stream} (h : t.isDrained s = true) :
    ¬ t.task.Settled := by
  intro hs
  cases s with
  | stdout => simp [isDrained, Task.drain, Option.isSome_iff_ne_none.1 hs.stdout] at h
  | stderr => simp [isDrained, Task.drain, Option.isSome_iff_ne_none.1 hs.stderr] at h

variable [FileStore ω]

/-! ### Steps -/

theorem Inv.signal {t : Transfer ω σ} (h : t.Inv) (ht : t.task.phase = .transferring)
    {s : Task.Signal} (hs : s.isActivity = true) : (t.signal s).Inv :=
  ⟨Task.engaged_step ht t.world hs, h.stdin, h.outlet, h.exited⟩

theorem advance_cases {t t' : Transfer ω σ} {a : Activity} (h : t.advance a = some t') :
    (t.isFed = true ∧ ∃ r, t' = t.signal (.fed r)) ∨
      (∃ n, 0 < n ∧ t.unsent ≠ [] ∧ t' = { t with
        unsent := t.unsent.drop n, stdin := t.stdin.push (t.unsent.take n) }) ∨
      (∃ s, t.isDrained s = true ∧ t' = t.signal (.ended s)) ∨
      ∃ s n b, t.isDrained s = true ∧ 0 < n ∧ (t.outlet s).pipe.size ≠ 0 ∧
        t' = (t.onOutlet s fun o => { o with pipe := o.pipe.drop n }).signal (.printed s b) := by
  cases a with
  | feed more =>
    simp only [Transfer.advance] at h
    split at h
    · cases h
    · rename_i hfed
      have hfed' : t.isFed = true := by simpa using hfed
      split at h
      · cases h
        exact .inl ⟨hfed', _, rfl⟩
      · rename_i hunsent
        split at h
        · cases h
          exact .inl ⟨hfed', _, rfl⟩
        · split at h
          · cases h
          · rename_i hroom
            cases h
            have htake : 0 < (t.unsent.take (more + 1)).length := by
              have hlen := List.length_pos_iff.2 hunsent
              rw [List.length_take]
              omega
            have hpos := Pipe.room_pos (by simpa using hroom) htake
            exact .inr (.inl ⟨_, hpos, hunsent, rfl⟩)
  | drain s more =>
    simp only [Transfer.advance] at h
    split at h
    · cases h
    · rename_i hdrained
      have hdrained' : t.isDrained s = true := by simpa using hdrained
      split at h
      · split at h
        · cases h
        · cases h
          exact .inr (.inr (.inl ⟨s, hdrained', rfl⟩))
      · rename_i hsize
        cases h
        exact .inr (.inr (.inr ⟨s, more + 1, _, hdrained', Nat.succ_pos more, hsize, rfl⟩))

theorem work_eq_some_iff {t t' : Transfer ω σ} {a : Activity} :
    t.work a = some t' ↔ t.task.phase = .transferring ∧ t.advance a = some t' := by
  unfold work
  split
  · rename_i h
    simp [h]
  · rename_i h
    simpa using fun ht => absurd ht h

theorem Inv.work {t t' : Transfer ω σ} (h : t.Inv) {a : Activity} (hw : t.work a = some t') :
    t'.Inv := by
  obtain ⟨ht, ha⟩ := work_eq_some_iff.1 hw
  rcases advance_cases ha with ⟨-, r, rfl⟩ | ⟨n, -, -, rfl⟩ | ⟨s, -, rfl⟩ | ⟨s, n, b, -, -, -, rfl⟩
  · exact h.signal ht rfl
  · exact ⟨h.engaged, h.stdin.push _, h.outlet, h.exited⟩
  · exact h.signal ht rfl
  · have ht' : (t.onOutlet s fun o => { o with pipe := o.pipe.drop n }).task.phase =
        .transferring := by cases s <;> exact ht
    exact (h.onOutlet ((h.outlet s).drop n) id).signal ht' rfl

theorem Inv.suffer {t : Transfer ω σ} (h : t.Inv) (m : Mishap ω) : (t.suffer m).Inv := by
  cases m with
  | feeding cause =>
    simp only [Transfer.suffer]
    split
    · rename_i hfed
      exact h.signal (h.engaged.transferring (not_settled_of_isFed hfed)) rfl
    · exact h
  | draining s cause =>
    simp only [Transfer.suffer]
    split
    · rename_i hdrained
      exact h.signal (h.engaged.transferring (not_settled_of_isDrained hdrained)) rfl
    · exact h
  | elsewhere w => exact ⟨h.engaged, h.stdin, h.outlet, h.exited⟩

theorem Inv.step {P : Program σ} {t t' : Transfer ω σ} (h : t.Inv) (hs : t.Step P t') :
    t'.Inv := by
  cases hs with
  | work hw => exact h.work hw
  | program hp => exact h.serves hp
  | mishap m => exact h.suffer m

theorem sound_emptyPipe (c : Capacity) : (emptyPipe c).Sound := ⟨rfl, c.1, c.2, rfl⟩

theorem inv_start (u : Setup ω σ) : (start u).Inv := by
  refine ⟨.inl ⟨rfl, fun hs => ?_⟩, sound_emptyPipe _, fun s => ?_, nofun⟩
  · cases hs.stdout
  · cases s
    · exact sound_emptyPipe _
    · exact sound_emptyPipe _

/-- The invariant holds at any time, whatever program runs. -/
theorem inv_of_reachable {P : Program σ} {u : Setup ω σ} {t : Transfer ω σ}
    (h : Relation.ReflTransGen (Step P) (start u) t) : t.Inv := by
  induction h with
  | refl => exact inv_start u
  | tail _ hs ih => exact ih.step hs

/-! ## Who can go on -/

theorem Inv.exists_feed {t : Transfer ω σ} (h : t.Inv) (hfed : t.isFed = true)
    (hroom : t.reads = true → isFull t.stdin = false) : ∃ a t', t.work a = some t' := by
  refine ⟨.feed 0, ?_⟩
  simp only [work_eq_some_iff, h.engaged.transferring (not_settled_of_isFed hfed), true_and,
    Transfer.advance, hfed, Bool.not_true, Bool.false_eq_true, if_false]
  split
  · exact ⟨_, rfl⟩
  · split
    · exact ⟨_, rfl⟩
    · rename_i hreads
      rw [hroom (by simpa using hreads)]
      exact ⟨_, rfl⟩

theorem Inv.exists_drain {t : Transfer ω σ} (h : t.Inv) {s : Stream}
    (hdrained : t.isDrained s = true)
    (hbytes : (t.outlet s).held = true → (t.outlet s).pipe.size ≠ 0) :
    ∃ a t', t.work a = some t' := by
  refine ⟨.drain s 0, ?_⟩
  simp only [work_eq_some_iff, h.engaged.transferring (not_settled_of_isDrained hdrained), true_and,
    Transfer.advance, hdrained, Bool.not_true, Bool.false_eq_true, if_false]
  split
  · rename_i hempty
    have hheld : (t.outlet s).held = false := by
      cases hheld : (t.outlet s).held with
      | false => rfl
      | true => exact absurd hempty (hbytes hheld)
    rw [hheld]
    exact ⟨_, rfl⟩
  · exact ⟨_, rfl⟩

/-- A request is served, or the activity that it waits for can go on. -/
theorem Inv.serve_or_work {t : Transfer ω σ} (h : t.Inv) (q : Request) :
    (∃ r t', t.serve q = some (r, t')) ∨ ∃ a t', t.work a = some t' := by
  cases q with
  | read most =>
    simp only [Transfer.serve]
    split
    · exact .inl ⟨_, _, rfl⟩
    · split
      · rename_i hempty
        split
        · rename_i hfed
          exact .inr (h.exists_feed hfed fun _ => h.stdin.isFull_of_empty hempty)
        · exact .inl ⟨_, _, rfl⟩
      · exact .inl ⟨_, _, rfl⟩
  | write s b =>
    simp only [Transfer.serve]
    split
    · exact .inl ⟨_, _, rfl⟩
    · rename_i hopen
      split
      · rename_i hfull
        have hdrained : t.isDrained s = true := by
          simp only [Bool.or_eq_true, not_or, Bool.not_eq_true', Bool.not_eq_false] at hopen
          exact hopen.2
        refine .inr (h.exists_drain hdrained fun _ hempty => ?_)
        rw [(h.outlet s).isFull_of_empty hempty] at hfull
        cases hfull
      · exact .inl ⟨_, _, rfl⟩
  | closeInput => exact .inl ⟨_, _, rfl⟩
  | closeOutput s => exact .inl ⟨_, _, rfl⟩
  | exit => exact .inl ⟨_, _, rfl⟩

/-- Without a program every activity that has not ended can go on. -/
theorem Inv.exists_work {t : Transfer ω σ} (h : t.Inv) (hnone : t.program = none)
    (hnot : t.isFinal = false) : ∃ a t', t.work a = some t' := by
  obtain ⟨hreads, hheld⟩ := h.exited hnone
  have hopen : t.isFed = true ∨ ∃ s, t.isDrained s = true := by
    cases hfed : t.isFed with
    | true => exact .inl rfl
    | false =>
      cases hout : t.isDrained .stdout with
      | true => exact .inr ⟨_, hout⟩
      | false =>
        cases herr : t.isDrained .stderr with
        | true => exact .inr ⟨_, herr⟩
        | false => simp [isFinal, hnone, hfed, hout, herr] at hnot
  rcases hopen with hfed | ⟨s, hdrained⟩
  · refine h.exists_feed hfed fun hr => ?_
    rw [hreads] at hr
    cases hr
  · refine h.exists_drain hdrained fun hs => ?_
    rw [hheld s] at hs
    cases hs

/-! ## After the exit -/

/-- What is left for the activities: the input to send, the output to take and their own ends. -/
def remaining (t : Transfer ω σ) : Nat :=
  t.unsent.length + (t.stdout.pipe.size + t.stderr.pipe.size) + t.task.activities

/-- An activity that goes on leaves less to do, and takes no part in the program. -/
theorem remaining_work {t t' : Transfer ω σ} {a : Activity} (h : t.work a = some t') :
    t'.remaining < t.remaining ∧ t'.program = t.program := by
  obtain ⟨ht, ha⟩ := work_eq_some_iff.1 h
  unfold remaining
  rcases advance_cases ha with ⟨hfed, r, rfl⟩ | ⟨n, hn, hunsent, rfl⟩ | ⟨s, hdrained, rfl⟩ |
    ⟨s, n, b, hdrained, hn, hsize, rfl⟩
  · have hnone : t.task.fed = none := by simpa [isFed] using hfed
    have hlt := Task.activities_step_fed ht t.world hnone r
    refine ⟨?_, rfl⟩
    simp only [signal]
    omega
  · have hlen := List.length_pos_iff.2 hunsent
    refine ⟨?_, rfl⟩
    simp only [List.length_drop]
    omega
  · have hone : Task.unended (t.task.drain s).result = 1 := by
      have hnone : (t.task.drain s).result = none := by simpa [isDrained] using hdrained
      rw [hnone]
      rfl
    have hend := Task.activities_step_ended ht t.world s
    refine ⟨?_, rfl⟩
    simp only [signal]
    omega
  · have hnone : (t.task.drain s).result = none := by simpa [isDrained] using hdrained
    have hle := Task.activities_step_printed ht t.world hnone b
    cases s with
    | stdout =>
      have hsize' : t.stdout.pipe.size ≠ 0 := hsize
      refine ⟨?_, rfl⟩
      simp only [signal, onOutlet, Pipe.drop]
      omega
    | stderr =>
      have hsize' : t.stderr.pipe.size ≠ 0 := hsize
      refine ⟨?_, rfl⟩
      simp only [signal, onOutlet, Pipe.drop]
      omega

/-- Once the program has exited, the activities alone bring a transfer to its end. -/
theorem Inv.ends {t : Transfer ω σ} (h : t.Inv) (hnone : t.program = none) :
    ∃ t', Relation.ReflTransGen (fun t t' => ∃ a, t.work a = some t') t t' ∧
      t'.isFinal = true := by
  induction hn : t.remaining using Nat.strongRecOn generalizing t with
  | ind n ih =>
    cases hfinal : t.isFinal with
    | true => exact ⟨t, .refl, hfinal⟩
    | false =>
      obtain ⟨a, t₁, hw⟩ := h.exists_work hnone hfinal
      obtain ⟨t', hreach, hend⟩ := ih t₁.remaining (hn ▸ (remaining_work hw).1)
        (h.work hw) ((remaining_work hw).2.trans hnone) rfl
      exact ⟨t', .head ⟨a, hw⟩ hreach, hend⟩

/-! ## Somebody goes on -/

/-- **Transfers do not get stuck.**  Whatever the program is, whatever the capacities of the pipes
are and whatever has happened so far, mishaps included: everything is done, or an activity of the
task can go on, or the program runs and can go on, whichever of its requests it makes. -/
theorem never_stuck (P : Program σ) (u : Setup ω σ) {t : Transfer ω σ}
    (h : Relation.ReflTransGen (Step P) (start u) t) :
    t.isFinal = true ∨ (∃ a t', t.work a = some t') ∨
      (∃ q t', t.Serves P q t') ∧
        ∀ x q, t.program = some x → P.requests x q → ∃ t', t.Serves P q t' := by
  have hinv := inv_of_reachable h
  by_cases hwork : ∃ a t', t.work a = some t'
  · exact .inr (.inl hwork)
  · have hserved : ∀ x q, t.program = some x → P.requests x q → ∃ t', t.Serves P q t' := by
      intro x q hx hq
      rcases hinv.serve_or_work q with ⟨r, t', hs⟩ | hw
      · obtain ⟨y, hy⟩ := P.exists_next x q r
        exact ⟨_, .intro hx hq hs hy⟩
      · exact absurd hw hwork
    cases hprogram : t.program with
    | none =>
      cases hfinal : t.isFinal with
      | true => exact .inl rfl
      | false => exact absurd (hinv.exists_work hprogram hfinal) hwork
    | some x =>
      obtain ⟨q, hq⟩ := P.exists_request x
      obtain ⟨t', ht'⟩ := hserved x q hprogram hq
      rw [hprogram] at hserved
      exact .inr (.inr ⟨⟨q, t', ht'⟩, hserved⟩)

/-- The program that makes some requests one after another, writes until all bytes are written, and
exits at last. -/
def script : Program (List Request) where
  requests qs q := q = qs.headD .exit
  next qs _ r qs' := qs' = match qs, r with
    | .write s b :: rest, .wrote n => if n < b.length then .write s (b.drop n) :: rest else rest
    | _ :: rest, _ => rest
    | [], _ => []
  exists_request _ := ⟨_, rfl⟩
  exists_next _ _ _ := ⟨_, rfl⟩

/-- A program that writes two bytes before it reads its input, over pipes for one byte each. -/
def crossing : Setup Host (List Request) where
  index := 0
  program := ['p']
  args := []
  input := [['x']]
  stdoutSink := .empty
  stderrSink := .empty
  world := {}
  stdinCapacity := ⟨1, Nat.one_pos⟩
  stdoutCapacity := ⟨1, Nat.one_pos⟩
  stderrCapacity := ⟨1, Nat.one_pos⟩
  state := [.write .stdout [97, 98], .read 2]

/-- The program has filled its output pipe and feeding the input pipe. -/
def crossed : Transfer Host (List Request) :=
  { start crossing with
    unsent := [10]
    stdin := (emptyPipe ⟨1, Nat.one_pos⟩).push [120]
    stdout := { pipe := (emptyPipe ⟨1, Nat.one_pos⟩).push [97] }
    program := some [.write .stdout [98], .read 2] }

theorem reachable_crossed : Relation.ReflTransGen (Step script) (start crossing) crossed := by
  have hwrite : (start crossing).Serves script (.write .stdout [97, 98])
      { (start crossing).onOutlet .stdout fun o => { o with pipe := o.pipe.push [97] } with
        program := some [.write .stdout [98], .read 2] } :=
    .intro rfl rfl rfl rfl
  exact .tail (.single (.program hwrite)) (.work (a := .feed 0) rfl)

/-- The program and feeding wait for room, but draining goes on. -/
theorem crossed_not_stuck :
    crossed.serve (.write .stdout [98]) = none ∧ crossed.work (.feed 1) = none ∧
      ∃ a t', crossed.work a = some t' := by
  refine ⟨rfl, rfl, ?_⟩
  rcases never_stuck script crossing reachable_crossed with hfinal | hwork | ⟨⟨q, t', hs⟩, -⟩
  · cases hfinal
  · exact hwork
  · obtain ⟨hx, hq, hserve, -⟩ := hs
    cases hx
    cases hq
    cases hserve

end Transfer

end Relay
