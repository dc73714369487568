import Relay.Proofs.Sink
import Relay.Task

/-!
# What tasks and workers keep

A task works for one call: its place in the pipeline, the program call, the input and the targets of
its two outputs never change (`Task.call_step`).  Once it is over it takes no further part
(`Task.step_of_over`), and the outcome it ends with carries the task's own place and program call
and is a stopped one only if the program was being killed (`Task.outcome?_step`).

For a worker these facts come in two forms.  `Worker.Fits` is what holds of a worker at any time;
`Worker.Later` is what relates a worker to itself at a later time.  Every change of a worker keeps
the first and is an instance of the second.
-/

namespace Relay

variable {ω : Type} [FileStore ω]

/-! ## Drains -/

namespace Drain

section Within

variable {R : ω → ω → Prop} {d : Drain} (K : d.sink.Keeps R) (w : ω)
include K

theorem takeLines_within (lines : List Text) :
    d.sink.Within R w (d.takeLines w lines).1.sink (d.takeLines w lines).2 := by
  have h := d.sink.pushAll_within K w lines
  unfold takeLines
  split
  · rename_i heq
    rw [heq] at h
    exact h
  · rename_i heq
    rw [heq] at h
    exact h

theorem take_within (b : Bytes) : d.sink.Within R w (d.take w b).1.sink (d.take w b).2 := by
  unfold take
  split
  · exact K.refl_within w
  · exact takeLines_within (d := { d with unfinished := (Text.cutLines (d.unfinished ++ b)).2 })
      K w _

theorem close_within : d.sink.Within R w (d.close w).1.sink (d.close w).2 := by
  unfold close
  split
  · exact K.refl_within w
  · exact takeLines_within (d := { d with unfinished := [] }) K w _

theorem sever_within (cut : Option Cut) :
    d.sink.Within R w (d.sever w cut).1.sink (d.sever w cut).2 := by
  unfold sever
  split
  · exact K.refl_within w
  · split
    · exact K.refl_within w
    · exact Sink.pushPart_within K w _ _

end Within

/-- A drain whose output came to its end is done. -/
theorem isSome_result_close (d : Drain) (w : ω) :
    (d.close w).1.result.isSome = true := by
  unfold close
  split
  · assumption
  · rfl

end Drain

/-! ## Calls -/

/-- What a task works for: its place in the pipeline, the program call, the lines that the program
reads and the targets of its outputs. -/
structure Call where
  index : Nat
  argv : List Text
  input : List Text
  stdoutTarget : Option Text
  stderrTarget : Option Text
  deriving DecidableEq, Repr

namespace Task

def call (t : Task) : Call :=
  { index := t.index, argv := t.argv, input := t.input, stdoutTarget := t.stdout.sink.target?,
    stderrTarget := t.stderr.sink.target? }

@[simp]
theorem drain_phase (t : Task) (p : Phase) (s : Stream) :
    ({ t with phase := p } : Task).drain s = t.drain s := by
  cases s <;> rfl

/-- A task whose outputs a kill interrupts. -/
def sever (t : Task) (w : ω) (out err : Option Cut) : Task × ω :=
  let (t, w) := t.onDrain w .stdout fun d w => d.sever w out
  t.onDrain w .stderr fun d w => d.sever w err

/-- A task and the world at two times: the task works for the same call with the same files, and
the relation holds between the worlds. -/
structure Within (R : ω → ω → Prop) (t : Task) (w : ω) (r : Task × ω) : Prop where
  call : r.1.call = t.call
  identity : ∀ s, (r.1.drain s).sink.identity? = (t.drain s).sink.identity?
  world : R w r.2

theorem Within.trans {R : ω → ω → Prop} {t : Task} {w : ω} {r r' : Task × ω}
    (h : t.Within R w r) (h' : r.1.Within R r.2 r') (K : ∀ s, (t.drain s).sink.Keeps R) :
    t.Within R w r' :=
  ⟨h'.call.trans h.call, fun s => (h'.identity s).trans (h.identity s),
    (K .stdout).trans h.world h'.world⟩

section Within

variable {R : ω → ω → Prop} {t : Task} (K : ∀ s, (t.drain s).sink.Keeps R) (w : ω)
include K

theorem within_self {t' : Task} (hcall : t'.call = t.call)
    (hdrain : ∀ s, t'.drain s = t.drain s) : t.Within R w (t', w) :=
  ⟨hcall, fun s => by rw [hdrain], (K .stdout).refl w⟩

theorem conclude_within (status : Status) : t.Within R w (t.conclude w status) := by
  have hout : R w (t.stdout.sink.finish w).2 := Sink.finish_within (K .stdout) w
  have herr : R (t.stdout.sink.finish w).2 (t.stderr.sink.finish (t.stdout.sink.finish w).2).2 :=
    Sink.finish_within (K .stderr) _
  refine ⟨rfl, fun s => ?_, (K .stdout).trans hout herr⟩
  cases s with
  | stdout => rfl
  | stderr => rfl

theorem giveUp_within : t.Within R w (t.giveUp w) := by
  have hout : R w (t.stdout.sink.abandon w) := Sink.abandon_within (K .stdout) w
  have herr : R (t.stdout.sink.abandon w) (t.stderr.sink.abandon (t.stdout.sink.abandon w)) :=
    Sink.abandon_within (K .stderr) _
  refine ⟨rfl, fun s => ?_, (K .stdout).trans hout herr⟩
  cases s with
  | stdout => rfl
  | stderr => rfl

omit [FileStore ω] K in
theorem joined_within {r : Task × ω} (h : t.Within R w r) : t.Within R w (r.1.joined, r.2) := by
  obtain ⟨t', w'⟩ := r
  have hjoin : t'.joined.call = t'.call ∧ ∀ s, t'.joined.drain s = t'.drain s := by
    unfold joined
    split
    · refine ⟨rfl, fun s => ?_⟩
      cases s with
      | stdout => rfl
      | stderr => rfl
    · exact ⟨rfl, fun _ => rfl⟩
  exact ⟨hjoin.1.trans h.call, fun s => by rw [hjoin.2]; exact h.identity s, h.world⟩

omit [FileStore ω] K in
theorem onDrain_within (s : Stream) {f : Drain → ω → Drain × ω}
    (hf : (t.drain s).sink.Within R w (f (t.drain s) w).1.sink (f (t.drain s) w).2) :
    t.Within R w (t.onDrain w s f) := by
  have ht := hf.target?
  cases s with
  | stdout =>
    refine ⟨?_, fun x => ?_, hf.world⟩
    · exact congrArg (fun target => { t.call with stdoutTarget := target }) ht
    · cases x with
      | stdout => exact hf.identity
      | stderr => rfl
  | stderr =>
    refine ⟨?_, fun x => ?_, hf.world⟩
    · exact congrArg (fun target => { t.call with stderrTarget := target }) ht
    · cases x with
      | stdout => rfl
      | stderr => exact hf.identity

theorem sever_within (out err : Option Cut) : t.Within R w (t.sever w out err) := by
  have hout := onDrain_within w .stdout (f := fun d w => d.sever w out)
    (Drain.sever_within (K .stdout) w out)
  have Kout := fun x => (K x).within ⟨hout.identity x, hout.world⟩
  have herr := onDrain_within (t.onDrain w .stdout fun d w => d.sever w out).2 .stderr
    (f := fun d w => d.sever w err) (Drain.sever_within (Kout .stderr) _ err)
  exact hout.trans herr K

omit [FileStore ω] K in
theorem phase_within {r : Task × ω} (h : t.Within R w r) (p : Phase) :
    t.Within R w ({ r.1 with phase := p }, r.2) :=
  ⟨h.call, fun s => by rw [drain_phase]; exact h.identity s, h.world⟩

theorem step_within (s : Signal) : t.Within R w (t.step w s) := by
  unfold step
  split
  · split
    · exact giveUp_within K w
    · exact within_self K w rfl fun x => by cases x <;> rfl
  · split
    · exact giveUp_within K w
    · exact conclude_within K w _
  · rename_i r _
    have h : t.Within R w ({ t with fed := some (t.fed.getD (feedResult r)) }, w) :=
      within_self K w rfl fun x => by cases x <;> rfl
    exact joined_within w h
  · rename_i s b _
    exact joined_within w
      (onDrain_within w s (f := fun d w => d.take w b) (Drain.take_within (K s) w b))
  · rename_i s _
    exact joined_within w
      (onDrain_within w s (f := fun d w => d.close w) (Drain.close_within (K s) w))
  · rename_i s cause _
    exact joined_within w
      (onDrain_within w s (f := fun d w => (d.settle (.error cause), w)) ((K s).refl_within w))
  · exact conclude_within K w _
  · rename_i out err _
    exact phase_within w (sever_within K w out err) .killing
  · exact within_self K w rfl (t.drain_phase .killing)
  · exact conclude_within K w _
  · exact within_self K w rfl fun _ => rfl

end Within

theorem call_step (t : Task) (w : ω) (s : Signal) : (t.step w s).1.call = t.call :=
  (step_within (fun x => (t.drain x).sink.keeps_true) w s).call

/-! ## Signals while the program works -/

section Transferring

variable {t : Task} (h : t.phase = .transferring) (w : ω)
include h

theorem step_fed (r : Except IoError Unit) :
    t.step w (.fed r) = ({ t with fed := some (t.fed.getD (feedResult r)) }.joined, w) := by
  simp only [step, h]

theorem step_printed (s : Stream) (b : Bytes) :
    t.step w (.printed s b) =
      ((t.onDrain w s fun d w => d.take w b).1.joined,
        (t.onDrain w s fun d w => d.take w b).2) := by
  simp only [step, h]

theorem step_ended (s : Stream) :
    t.step w (.ended s) =
      ((t.onDrain w s fun d w => d.close w).1.joined,
        (t.onDrain w s fun d w => d.close w).2) := by
  simp only [step, h]

theorem step_broken (s : Stream) (cause : IoError) :
    t.step w (.broken s cause) =
      ((t.onDrain w s fun d w => (d.settle (.error cause), w)).1.joined,
        (t.onDrain w s fun d w => (d.settle (.error cause), w)).2) := by
  simp only [step, h]

end Transferring

omit [FileStore ω] in
theorem phase_onDrain (t : Task) (w : ω) (s : Stream) (f : Drain → ω → Drain × ω) :
    (t.onDrain w s f).1.phase = t.phase := by
  cases s <;> rfl

/-! ## The end of the activities -/

/-- All three activities of a task have ended. -/
structure Settled (t : Task) : Prop where
  fed : t.fed.isSome = true
  stdout : t.stdout.result.isSome = true
  stderr : t.stderr.result.isSome = true

/-- A task whose activities have all ended goes on to waiting, and no other one. -/
theorem joined_cases (t : Task) :
    t.Settled ∧ (∃ r, t.joined = { t with phase := .awaiting r }) ∨
      ¬ t.Settled ∧ t.joined = t := by
  unfold joined
  split
  · rename_i fed out err hfed hout herr
    refine .inl ⟨⟨?_, ?_, ?_⟩, _, rfl⟩
    · rw [hfed]
      rfl
    · rw [hout]
      rfl
    · rw [herr]
      rfl
  · rename_i hnot
    refine .inr ⟨fun hs => ?_, rfl⟩
    obtain ⟨fed, hfed⟩ := Option.isSome_iff_exists.1 hs.fed
    obtain ⟨out, hout⟩ := Option.isSome_iff_exists.1 hs.stdout
    obtain ⟨err, herr⟩ := Option.isSome_iff_exists.1 hs.stderr
    exact hnot fed out err hfed hout herr

/-- One as long as an activity has no result. -/
def unended {α : Type} (result : Option α) : Nat := if result.isSome then 0 else 1

theorem unended_le_one {α : Type} (result : Option α) : unended result ≤ 1 := by
  unfold unended
  split <;> omega

theorem unended_eq_zero_iff {α : Type} (result : Option α) :
    unended result = 0 ↔ result.isSome = true := by
  unfold unended
  split <;> simp_all

/-- How many of the three activities of a task have not ended. -/
def activities (t : Task) : Nat :=
  unended t.fed + unended t.stdout.result + unended t.stderr.result

theorem activities_le (t : Task) : t.activities ≤ 3 := by
  have hfed := unended_le_one t.fed
  have hout := unended_le_one t.stdout.result
  have herr := unended_le_one t.stderr.result
  unfold activities
  omega

theorem activities_eq_zero_iff (t : Task) : t.activities = 0 ↔ t.Settled := by
  unfold activities
  rw [Nat.add_eq_zero_iff, Nat.add_eq_zero_iff, unended_eq_zero_iff, unended_eq_zero_iff,
    unended_eq_zero_iff]
  constructor
  · rintro ⟨⟨hfed, hout⟩, herr⟩
    exact ⟨hfed, hout, herr⟩
  · intro h
    exact ⟨⟨h.fed, h.stdout⟩, h.stderr⟩

theorem activities_joined (t : Task) : t.joined.activities = t.activities := by
  rcases t.joined_cases with ⟨-, r, hj⟩ | ⟨-, hj⟩
  · rw [hj]
    rfl
  · rw [hj]

def Signal.isActivity : Signal → Bool
  | .fed _ => true
  | .printed _ _ => true
  | .ended _ => true
  | .broken _ _ => true
  | _ => false

section Transferring

variable {t : Task} (h : t.phase = .transferring) (w : ω)
include h

/-- After every signal of an activity the task finds out whether all have ended. -/
theorem exists_step_eq_joined {s : Signal} (hs : s.isActivity = true) :
    ∃ t' : Task, (t.step w s).1 = t'.joined ∧ t'.phase = .transferring := by
  cases s with
  | fed r =>
    rw [step_fed h]
    exact ⟨_, rfl, h⟩
  | printed s b =>
    rw [step_printed h]
    exact ⟨_, rfl, (phase_onDrain t w s _).trans h⟩
  | ended s =>
    rw [step_ended h]
    exact ⟨_, rfl, (phase_onDrain t w s _).trans h⟩
  | broken s cause =>
    rw [step_broken h]
    exact ⟨_, rfl, (phase_onDrain t w s _).trans h⟩
  | launched => cases hs
  | refused => cases hs
  | exited => cases hs
  | killed => cases hs

theorem activities_step_fed (hfed : t.fed = none) (r : Except IoError Unit) :
    (t.step w (.fed r)).1.activities < t.activities := by
  have hnone : unended t.fed = 1 := by rw [hfed]; rfl
  rw [step_fed h, activities_joined]
  show 0 + unended t.stdout.result + unended t.stderr.result < t.activities
  unfold activities
  omega

/-- A chunk of output starts no activity. -/
theorem activities_step_printed {s : Stream} (hs : (t.drain s).result = none) (b : Bytes) :
    (t.step w (.printed s b)).1.activities ≤ t.activities := by
  have hnone : unended (t.drain s).result = 1 := by rw [hs]; rfl
  have hle := unended_le_one ((t.drain s).take w b).1.result
  rw [step_printed h, activities_joined]
  unfold activities
  cases s with
  | stdout =>
    simp only [onDrain, drain] at hnone hle ⊢
    omega
  | stderr =>
    simp only [onDrain, drain] at hnone hle ⊢
    omega

theorem activities_step_ended (s : Stream) :
    (t.step w (.ended s)).1.activities + unended (t.drain s).result = t.activities := by
  have hzero : unended ((t.drain s).close w).1.result = 0 :=
    (unended_eq_zero_iff _).2 ((t.drain s).isSome_result_close w)
  rw [step_ended h, activities_joined]
  unfold activities
  cases s with
  | stdout =>
    simp only [onDrain, drain] at hzero ⊢
    omega
  | stderr =>
    simp only [onDrain, drain] at hzero ⊢
    omega

end Transferring

/-! ## Programs at work -/

theorem hasProgram_joined {t : Task} (h : t.phase = .transferring) : t.joined.hasProgram = true := by
  rcases t.joined_cases with ⟨-, r, hj⟩ | ⟨-, hj⟩
  · rw [hj]
    rfl
  · rw [hj, hasProgram, h]

theorem hasProgram_step {t : Task} (h : t.hasProgram = true) (w : ω) {s : Signal}
    (hs : ∀ waited, s ≠ .exited waited) : (t.step w s).1.hasProgram = true := by
  cases hp : t.phase with
  | transferring =>
    cases hactivity : s.isActivity with
    | true =>
      obtain ⟨t', hj, ht'⟩ := exists_step_eq_joined hp w hactivity
      rw [hj]
      exact hasProgram_joined ht'
    | false =>
      unfold step
      cases s <;> simp_all [hasProgram, Signal.isActivity]
  | ready => simp [hasProgram, hp] at h
  | «over» => simp [hasProgram, hp] at h
  | _ =>
    unfold step
    cases s <;> simp_all [hasProgram]

theorem hasProgram_steps {t : Task} (h : t.hasProgram = true) (w : ω) {signals : List Signal}
    (hs : ∀ s ∈ signals, ∀ waited, s ≠ .exited waited) :
    (t.steps w signals).1.hasProgram = true := by
  induction signals generalizing t w with
  | nil => exact h
  | cons s rest ih =>
    obtain ⟨hfirst, hrest⟩ := List.forall_mem_cons.1 hs
    exact ih (hasProgram_step h w hfirst) _ hrest

/-! ## Outcomes -/

theorem outcome?_joined (t : Task) (h : t.outcome? = none) : t.joined.outcome? = none := by
  unfold joined
  split
  · rfl
  · exact h

omit [FileStore ω] in
theorem outcome?_onDrain (t : Task) (w : ω) (s : Stream) (f : Drain → ω → Drain × ω) :
    (t.onDrain w s f).1.outcome? = t.outcome? := by
  cases s <;> rfl

theorem step_of_over {t : Task} {r : Outcome} (h : t.outcome? = some r) (w : ω) (s : Signal) :
    t.step w s = (t, w) := by
  obtain ⟨index, argv, input, fed, stdout, stderr, phase⟩ := t
  cases phase with
  | «over» r' => rfl
  | _ => cases h

theorem closed_eq_stopped {α : Type} {status : Status} {r : Except IoError α}
    (h : closed status r = .stopped) : status = .stopped := by
  unfold closed at h
  split at h
  · split at h
    · exact h
    · cases h
  · exact h

theorem statusOf_ne_stopped (program : Text) (transferred : Except IoError Unit)
    (waited : Except IoError Int) : statusOf program transferred waited ≠ .stopped := by
  unfold statusOf
  split <;> nofun

theorem outcome?_conclude {t : Task} {w : ω} {status : Status} {r : Outcome}
    (h : (t.conclude w status).1.outcome? = some r) :
    r.index = t.index ∧ r.argv = t.argv ∧ (r.status = .stopped → status = .stopped) := by
  cases h
  exact ⟨rfl, rfl, fun hs => closed_eq_stopped (closed_eq_stopped hs)⟩

theorem outcome?_giveUp {t : Task} {w : ω} {r : Outcome} (h : (t.giveUp w).1.outcome? = some r) :
    r.index = t.index ∧ r.argv = t.argv ∧ r.status ≠ .stopped := by
  cases h
  exact ⟨rfl, rfl, nofun⟩

/-- How a signal ends a task: the task gives up, or it concludes, as stopped if its program was being
killed and else with another status. -/
theorem step_ending {t : Task} {w : ω} {s : Signal} {r : Outcome} (ht : t.outcome? = none)
    (h : (t.step w s).1.outcome? = some r) :
    t.step w s = t.giveUp w ∨
      (∃ status, status ≠ .stopped ∧ t.step w s = t.conclude w status) ∨
      t.phase = .killing ∧ t.step w s = t.conclude w .stopped := by
  -- while input and outputs are under way, joining them gives no outcome yet
  have join : ∀ {t' : Task}, t'.outcome? = t.outcome? → t'.joined.outcome? ≠ some r := by
    intro t' he hj
    rw [outcome?_joined t' (he.trans ht)] at hj
    cases hj
  unfold step at h ⊢
  split at h
  · split at h
    · exact .inl rfl
    · cases h
  · split at h
    · exact .inl rfl
    · exact .inr (.inl ⟨.failed _, nofun, rfl⟩)
  · exact absurd h (join rfl)
  · exact absurd h (join (outcome?_onDrain t w _ _))
  · exact absurd h (join (outcome?_onDrain t w _ _))
  · exact absurd h (join (outcome?_onDrain t w _ _))
  · exact .inr (.inl ⟨_, statusOf_ne_stopped _ _ _, rfl⟩)
  · cases h
  · cases h
  · rename_i killing
    exact .inr (.inr ⟨killing, rfl⟩)
  · rw [ht] at h
    cases h

/-- The outcome that a signal brings is the task's own, and stopped only behind a kill. -/
theorem outcome?_step {t : Task} {w : ω} {s : Signal} {r : Outcome} (ht : t.outcome? = none)
    (h : (t.step w s).1.outcome? = some r) :
    r.index = t.index ∧ r.argv = t.argv ∧ (r.status = .stopped → t.phase = .killing) := by
  rcases step_ending ht h with hg | ⟨status, hs, hc⟩ | ⟨hkilling, hc⟩
  · rw [hg] at h
    obtain ⟨hi, ha, hst⟩ := outcome?_giveUp h
    exact ⟨hi, ha, fun hr => absurd hr hst⟩
  · rw [hc] at h
    obtain ⟨hi, ha, hst⟩ := outcome?_conclude h
    exact ⟨hi, ha, fun hr => absurd (hst hr) hs⟩
  · rw [hc] at h
    exact ⟨(outcome?_conclude h).1, (outcome?_conclude h).2.1, fun _ => hkilling⟩

theorem phase_joined_ne_killing {t : Task} (h : t.phase = .transferring) :
    t.joined.phase ≠ .killing := by
  rcases t.joined_cases with ⟨-, r, hj⟩ | ⟨-, hj⟩
  · rw [hj]
    nofun
  · rw [hj, h]
    nofun

/-- Only a kill makes a task kill its program. -/
theorem phase_step_eq_killing {t : Task} {w : ω} {s : Signal}
    (h : (t.step w s).1.phase = .killing) :
    t.phase = .killing ∨ ∃ out err, s = .killed out err := by
  by_cases hactivity : t.phase = .transferring ∧ s.isActivity = true
  · obtain ⟨t', hj, ht'⟩ := exists_step_eq_joined hactivity.1 w hactivity.2
    rw [hj] at h
    exact absurd h (phase_joined_ne_killing ht')
  · unfold step at h
    split at h
    · split at h <;> cases h
    · split at h <;> cases h
    · exact absurd ⟨‹_›, rfl⟩ hactivity
    · exact absurd ⟨‹_›, rfl⟩ hactivity
    · exact absurd ⟨‹_›, rfl⟩ hactivity
    · exact absurd ⟨‹_›, rfl⟩ hactivity
    · cases h
    · exact .inr ⟨_, _, rfl⟩
    · exact .inr ⟨_, _, rfl⟩
    · cases h
    · exact .inl h

/-- A task comes to its end if it is launched at the latest now, killed and waited for. -/
theorem exists_outcome_killed (t : Task) (w w' w'' : ω) (out err : Option Cut)
    (waited : Except IoError Int) :
    ∃ r, (((t.step w .launched).1.step w' (.killed out err)).1.step w''
      (.exited waited)).1.outcome? = some r := by
  obtain ⟨index, argv, input, fed, stdout, stderr, phase⟩ := t
  cases phase with
  | ready =>
    cases argv with
    | nil => exact ⟨_, rfl⟩
    | cons => exact ⟨_, rfl⟩
  | transferring => exact ⟨_, rfl⟩
  | awaiting => exact ⟨_, rfl⟩
  | killing => exact ⟨_, rfl⟩
  | «over» r => exact ⟨r, rfl⟩

end Task

/-! ## Workers -/

/-- What holds of a worker at any time: it works for a stage of the pipeline, its outcome is that of
its own task, a program that is being killed and a stopped outcome mean that a kill was sent, and it
reports only once it is over. -/
structure Worker.Fits (k : Worker) (p : Pipeline) : Prop where
  stage : ∃ s, p.stages[k.task.index]? = some s ∧ k.task.argv = s.argv
  own : ∀ r, k.task.outcome? = some r → r.index = k.task.index ∧ r.argv = k.task.argv
  dying : k.task.phase = .killing → k.killSent = true
  killed : ∀ r, k.task.outcome? = some r → r.status = .stopped → k.killSent = true
  ended : k.reported = true → ∃ r, k.task.outcome? = some r

/-- How a worker relates to itself at a later time: it works for the same call of the same run, and
an outcome that it has or has reported stays so. -/
structure Worker.Later (k k' : Worker) : Prop where
  generation : k'.generation = k.generation
  call : k'.task.call = k.task.call
  outcome : ∀ r, k.task.outcome? = some r → k'.task.outcome? = some r
  reported : k.reported = true → k'.reported = true

namespace Worker

omit [FileStore ω] in
theorem Later.refl (k : Worker) : k.Later k := ⟨rfl, rfl, fun _ h => h, id⟩

omit [FileStore ω] in
theorem Later.trans {k k' k'' : Worker} (h : k.Later k') (h' : k'.Later k'') : k.Later k'' :=
  ⟨h'.generation.trans h.generation, h'.call.trans h.call,
    fun r hr => h'.outcome r (h.outcome r hr),
    fun hr => h'.reported (h.reported hr)⟩

omit [FileStore ω] in
theorem Later.index {k k' : Worker} (h : k.Later k') : k'.task.index = k.task.index :=
  congrArg Call.index h.call

omit [FileStore ω] in
theorem Later.argv {k k' : Worker} (h : k.Later k') : k'.task.argv = k.task.argv :=
  congrArg Call.argv h.call

/-! ### A signal arrives -/

omit [FileStore ω] in
theorem admits_of_ne_killed {s : Task.Signal} (kind : ∀ out err, s ≠ .killed out err)
    (k : Worker) : k.admits s = true := by
  unfold admits
  split
  · exact absurd rfl (kind _ _)
  · rfl

theorem task_step_of_admits {k : Worker} {s : Task.Signal} (h : k.admits s = true) (w : ω) :
    (k.step w s).1.task = (k.task.step w s).1 := by
  rw [step, if_pos h]

theorem step_later (k : Worker) (w : ω) (s : Task.Signal) : k.Later (k.step w s).1 := by
  unfold step
  split
  · refine ⟨rfl, k.task.call_step w s, fun r hr => ?_, id⟩
    have h := Task.step_of_over hr w s
    show (k.task.step w s).1.outcome? = some r
    rw [h]
    exact hr
  · exact Later.refl k

theorem step_killSent (k : Worker) (w : ω) (s : Task.Signal) :
    (k.step w s).1.killSent = k.killSent := by
  unfold step
  split <;> rfl

theorem step_reported (k : Worker) (w : ω) (s : Task.Signal) :
    (k.step w s).1.reported = k.reported := by
  unfold step
  split <;> rfl

theorem step_collected (k : Worker) (w : ω) (s : Task.Signal) :
    (k.step w s).1.collected = k.collected := by
  unfold step
  split <;> rfl

theorem step_outcome? {k : Worker} {w : ω} {s : Task.Signal} {r : Outcome}
    (hk : k.task.outcome? = none) (h : (k.step w s).1.task.outcome? = some r) :
    r.index = k.task.index ∧ r.argv = k.task.argv ∧
      (r.status = .stopped → k.task.phase = .killing) := by
  unfold step at h
  split at h
  · exact Task.outcome?_step hk h
  · rw [hk] at h
    cases h

theorem step_phase_eq_killing {k : Worker} {w : ω} {s : Task.Signal}
    (h : (k.step w s).1.task.phase = .killing) : k.task.phase = .killing ∨ k.killSent = true := by
  unfold step at h
  split at h
  · rename_i hs
    rcases Task.phase_step_eq_killing h with hk | ⟨out, err, rfl⟩
    · exact .inl hk
    · exact .inr hs
  · exact .inl h

/-- A worker to which a kill was sent can be brought to its end. -/
theorem exists_outcome_killed (k : Worker) (hkill : k.killSent = true) (w w' w'' : ω)
    (out err : Option Cut) (waited : Except IoError Int) :
    ∃ r, (((k.step w .launched).1.step w' (.killed out err)).1.step w''
      (.exited waited)).1.task.outcome? = some r := by
  have hadmits : (k.step w .launched).1.admits (.killed out err) = true := by
    unfold admits
    rw [k.step_killSent, hkill]
  rw [task_step_of_admits rfl, task_step_of_admits hadmits, task_step_of_admits rfl]
  exact k.task.exists_outcome_killed w w' w'' out err waited

theorem Fits.step {k : Worker} {p : Pipeline} (h : k.Fits p) (w : ω) (s : Task.Signal) :
    (k.step w s).1.Fits p := by
  have hl := k.step_later w s
  have hdying : (k.step w s).1.task.phase = .killing → (k.step w s).1.killSent = true := by
    intro hphase
    rw [step_killSent]
    exact (step_phase_eq_killing hphase).elim h.dying id
  cases hk : k.task.outcome? with
  | none =>
    refine ⟨?_, fun r hr => ?_, hdying, fun r hr hst => ?_, fun hr => ?_⟩
    · rw [hl.index, hl.argv]
      exact h.stage
    · rw [hl.index, hl.argv]
      obtain ⟨hi, ha, -⟩ := step_outcome? hk hr
      exact ⟨hi, ha⟩
    · rw [step_killSent]
      exact h.dying ((step_outcome? hk hr).2.2 hst)
    · rw [step_reported] at hr
      obtain ⟨r, hr⟩ := h.ended hr
      rw [hk] at hr
      cases hr
  | some r₀ =>
    have he : (k.step w s).1.task.outcome? = some r₀ := hl.outcome r₀ hk
    refine ⟨?_, fun r hr => ?_, hdying, fun r hr hst => ?_, fun _ => ⟨r₀, he⟩⟩
    · rw [hl.index, hl.argv]
      exact h.stage
    · rw [hl.index, hl.argv]
      exact h.own r (by rw [hk, ← he, hr])
    · rw [step_killSent]
      exact h.killed r (by rw [hk, ← he, hr]) hst

omit [FileStore ω]

/-- The changes of a worker that leave its task alone keep what holds of it. -/
theorem Fits.of_task_eq {k k' : Worker} {p : Pipeline} (h : k.Fits p) (ht : k'.task = k.task)
    (hk : k.killSent = true → k'.killSent = true)
    (hr : k'.reported = true → ∃ r, k.task.outcome? = some r) : k'.Fits p := by
  refine ⟨?_, ?_, ?_, ?_, ?_⟩
  · rw [ht]
    exact h.stage
  · rw [ht]
    exact h.own
  · rw [ht]
    exact fun hphase => hk (h.dying hphase)
  · rw [ht]
    exact fun r hr hst => hk (h.killed r hr hst)
  · rw [ht]
    exact hr

theorem Later.of_task_eq {k k' : Worker} (hg : k'.generation = k.generation)
    (ht : k'.task = k.task) (hr : k.reported = true → k'.reported = true) : k.Later k' := by
  refine ⟨hg, by rw [ht], fun r h => ?_, hr⟩
  rw [ht]
  exact h

/-! ### Completions -/

def completion? (k : Worker) : Option Completion :=
  k.task.outcome?.map fun r => { generation := k.generation, outcome := r }

/-- What a worker has sent: its completion, if it has reported. -/
def sent (k : Worker) : List Completion := if k.reported then k.completion?.toList else []

theorem completion?_eq_some_iff {k : Worker} {c : Completion} :
    k.completion? = some c ↔ c.generation = k.generation ∧ k.task.outcome? = some c.outcome := by
  unfold completion?
  rw [Option.map_eq_some_iff]
  constructor
  · rintro ⟨r, hr, rfl⟩
    exact ⟨rfl, hr⟩
  · rintro ⟨hg, hr⟩
    exact ⟨c.outcome, hr, by rw [← hg]⟩

theorem Later.completion? {k k' : Worker} (h : k.Later k') {c : Completion}
    (hc : k.completion? = some c) : k'.completion? = some c := by
  obtain ⟨hg, hr⟩ := completion?_eq_some_iff.1 hc
  exact completion?_eq_some_iff.2 ⟨hg.trans h.generation.symm, h.outcome _ hr⟩

theorem sent_of_not_reported {k : Worker} (h : k.reported = false) : k.sent = [] := by
  unfold sent
  rw [h]
  rfl

theorem sent_of_reported {k : Worker} {c : Completion} (h : k.reported = true)
    (hc : k.completion? = some c) : k.sent = [c] := by
  unfold sent
  rw [h, hc]
  rfl

theorem of_mem_sent {k : Worker} {c : Completion} (h : c ∈ k.sent) :
    k.reported = true ∧ k.completion? = some c := by
  unfold sent at h
  split at h
  · rename_i hr
    rw [Option.mem_toList] at h
    exact ⟨hr, h⟩
  · cases h

/-- What becomes of a worker that is to report: nothing, or it sends its completion for the first
time. -/
theorem report_cases (k : Worker) : k.report = (none, k) ∨
    ∃ c, k.completion? = some c ∧ k.reported = false ∧
      k.report = (some c, { k with reported := true }) := by
  unfold report
  split
  · rename_i r ho hr
    exact .inr ⟨_, completion?_eq_some_iff.2 ⟨rfl, ho⟩, hr, rfl⟩
  · exact .inl rfl

theorem isFinished_report {k : Worker} {r : Outcome} (h : k.task.outcome? = some r) :
    k.report.2.isFinished = true := by
  have hreport : k.report.2 = { k with reported := true } := by
    obtain ⟨generation, task, killSent, reported, collected⟩ := k
    unfold report
    rw [show task.outcome? = some r from h]
    cases reported <;> rfl
  rw [hreport]
  unfold isFinished Task.isOver
  rw [show ({ k with reported := true } : Worker).task.outcome? = some r from h]
  rfl

theorem of_isFinished {k : Worker} (h : k.isFinished = true) :
    k.reported = true ∧ ∃ r, k.task.outcome? = some r := by
  unfold isFinished at h
  rw [Bool.and_eq_true] at h
  exact ⟨h.2, Option.isSome_iff_exists.1 h.1⟩

/-- A finished worker hands its outcome to whoever stopped it, the first time. -/
theorem collect_eq {k : Worker} {r : Outcome} (h : k.isFinished = true) (hc : k.collected = false)
    (hr : k.task.outcome? = some r) : k.collect = (some r, { k with collected := true }) := by
  unfold collect
  rw [h, hc, hr]
  rfl

theorem Fits.sent_step [FileStore ω] {k : Worker} {p : Pipeline} (h : k.Fits p) (w : ω)
    (s : Task.Signal) : (k.step w s).1.sent = k.sent := by
  cases hr : k.reported with
  | false =>
    have hr' : (k.step w s).1.reported = false := by rw [k.step_reported, hr]
    rw [sent_of_not_reported hr, sent_of_not_reported hr']
  | true =>
    obtain ⟨r, ho⟩ := h.ended hr
    have hl := k.step_later w s
    have hc : k.completion? = some { generation := k.generation, outcome := r } :=
      completion?_eq_some_iff.2 ⟨rfl, ho⟩
    rw [sent_of_reported hr hc, sent_of_reported (hl.reported hr) (hl.completion? hc)]

end Worker

end Relay
