import Relay.Proofs.Orchestrator.Refusals
import Relay.Proofs.Orchestrator.Renewal

/-!
# Starts

A start sets up a run before it opens the redirect targets of the first stage.  `start_of_history`
says that it nevertheless does all or nothing: while a run is in progress it changes nothing
whatever; if a target cannot be opened it takes everything back (`CalledOff`), and the state behaves
as that of a new orchestrator (`Renewed`); else the first stage is at work (`Underway`).
-/

namespace Relay.Orchestrator

variable {ω : Type}

/-- A start was taken back: no run is in progress, nothing was launched and nobody waits for it.
One event tells so. -/
structure CalledOff (o m : Orchestrator ω) : Prop where
  idle : m.Idle
  outcomes : m.outcomes = []
  finalOutcome? : m.finalOutcome? = none
  log : m.log = o.log ++ [.idle false]
  workers : m.workers = o.workers
  drivers : m.drivers = o.drivers
  pipeline : m.pipeline = o.pipeline
  settings : m.settings = o.settings

/-- A start has launched the first stage and given the run a driver. -/
structure Underway [FileStore ω] (o m : Orchestrator ω) : Prop where
  running : m.running = true
  cursor : m.cursor = 1
  outcomes : m.outcomes = []
  generation : m.generation = o.generation + 1
  current : m.current = some o.workers.length
  drivers : m.drivers = o.drivers ++ [Driver.of m.generation]
  /-- The new worker has not begun; its sinks are those that were opened. -/
  launched : ∃ stage out err, o.pipeline.stages[0]? = some stage ∧
    openSinks o.world o.pipeline 0 = (.ok (out, err), m.world) ∧
    m.workers = o.workers ++
      [{ generation := m.generation
         task := { index := 0, argv := stage.argv, stdout := { sink := out }
                   stderr := { sink := err } } }] ∧
    m.log = o.log ++ [.started 0 (stage.program?.getD [])]
  pipeline : m.pipeline = o.pipeline
  settings : m.settings = o.settings

variable [FileStore ω] {o : Orchestrator ω}

/-- A start of an idle orchestrator is called off if a target cannot be opened, and else the first
stage is under way. -/
theorem Inv.start_cases (h : o.Inv) (hrun : o.running = false) :
    (∃ e world, openSinks o.world o.pipeline 0 = (.error e, world) ∧ o.CalledOff o.start.2) ∨
    (∃ sinks world, openSinks o.world o.pipeline 0 = (.ok sinks, world) ∧
      o.Underway o.start.2) := by
  obtain ⟨hinv, hmove⟩ := h.start
  generalize o.start.2 = m at hinv hmove ⊢
  cases hmove with
  | still _ hnone =>
    unfold launches? at hnone
    rw [hrun] at hnone
    cases hnone
  | refused _ hopen =>
    refine .inl ⟨_, _, hopen, hinv.idle rfl, rfl, ?_, rfl, rfl, rfl, rfl, rfl⟩
    exact ite_self none
  | @begun stage out err world _ hstage hopen =>
    exact .inr ⟨_, _, hopen, rfl, rfl, rfl, rfl, rfl, rfl,
      ⟨stage, out, err, hstage, hopen, rfl, rfl⟩, rfl, rfl⟩

section History

variable {p : Pipeline} {settings : Settings} {world : ω} {o₀ : Orchestrator ω}
  {ts : List (Transition ω)}

/-- **A start does all or nothing**, whatever has happened before.  While a run is in progress the
answer says so and nothing changes.  If a redirect target of the first stage cannot be opened, the
answer says which one, and the state behaves as that of a new orchestrator.  Else the first stage is
under way. -/
theorem start_of_history (h₀ : ofPipeline p settings world = .ok o₀) (ht : History o₀ ts o) :
    (o.running = true → o.start = (.error .alreadyRunning, o)) ∧
    (o.running = false → ∀ y cause, Denied o.world p 0 y cause →
      o.start.1 = .error (.redirect y cause) ∧ o.CalledOff o.start.2 ∧
        ofPipeline p settings o.start.2.world = .ok o.start.2.anew ∧ o.start.2.Renewed) ∧
    (o.running = false → (∀ y cause, ¬ Denied o.world p 0 y cause) →
      o.start.1 = .ok () ∧ o.Underway o.start.2) := by
  obtain ⟨hinv, rfl, rfl⟩ := inv_of_history h₀ ht
  refine ⟨start_of_running, fun hrun y cause hdenied => ?_, fun hrun hnone => ?_⟩
  · obtain ⟨world', hopen⟩ := hdenied.openSinks_eq
    rcases hinv.start_cases hrun with ⟨_, _, -, hoff⟩ | ⟨_, _, hok, -⟩
    · have hinv' := hinv.start.1
      have hanew := ofPipeline_anew hinv'.valid
      rw [hoff.pipeline, hoff.settings] at hanew
      exact ⟨(hinv.start_eq_error_iff hrun).2 ⟨y, cause, hdenied, rfl⟩, hoff, hanew,
        hinv'.renewed hoff.idle hoff.outcomes⟩
    · cases hopen.symm.trans hok
  · rcases hinv.start_cases hrun with ⟨e, world', hopen, -⟩ | ⟨_, _, -, hway⟩
    · obtain ⟨y, cause, hdenied, -⟩ := openSinks_eq_error_iff.1 ⟨world', hopen⟩
      exact absurd hdenied (hnone y cause)
    · refine ⟨?_, hway⟩
      cases ha : o.start.1 with
      | error e =>
        obtain ⟨y, cause, hdenied, -⟩ := (hinv.start_eq_error_iff hrun).1 ha
        exact absurd hdenied (hnone y cause)
      | ok => rfl

end History

/-! ### A program whose output has nowhere to go -/

/-- The directory of the only stage's redirect target is missing. -/
def lost : Orchestrator Host :=
  { pipeline :=
      { stages := [⟨["echo".toList, ['A']]⟩], stdoutTarget := some "missing/out".toList }
    world := furnished }

theorem ofPipeline_lost : ofPipeline lost.pipeline {} furnished = .ok lost := rfl

/-- The start of `lost` is called off; that of `straying` is not, as only its second stage has the
target, and a second start finds the run in progress. -/
theorem start_lost_straying :
    Denied lost.world lost.pipeline 0 "missing/out".toList (.os .noEntry) ∧
      lost.start.1 = .error (.redirect "missing/out".toList (.os .noEntry)) ∧
      lost.CalledOff lost.start.2 ∧ lost.start.2.Renewed ∧
      straying.start.1 = .ok () ∧ straying.Underway straying.start.2 ∧
      straying.start.2.start = (.error .alreadyRunning, straying.start.2) := by
  have hdenied : Denied lost.world lost.pipeline 0 "missing/out".toList (.os .noEntry) :=
    .stdout rfl rfl rfl
  have hnone : ∀ y cause, ¬ Denied straying.world straying.pipeline 0 y cause := by
    intro y cause h
    obtain ⟨w', hopen⟩ := h.openSinks_eq
    cases hopen
  have hstep : straying.next? .start = some straying.start.2 := rfl
  obtain ⟨-, hlost, -⟩ := start_of_history ofPipeline_lost .nil
  obtain ⟨-, -, hstraying⟩ := start_of_history ofPipeline_straying.2 .nil
  obtain ⟨hagain, -, -⟩ := start_of_history ofPipeline_straying.2 (History.nil.snoc hstep)
  obtain ⟨hanswer, hoff, -, hrenewed⟩ := hlost rfl _ _ hdenied
  obtain ⟨hstarted, hway⟩ := hstraying rfl hnone
  exact ⟨hdenied, hanswer, hoff, hrenewed, hstarted, hway, hagain rfl⟩

end Relay.Orchestrator
