import Relay.CommandLine
import Relay.Proofs.Orchestrator.Ledger
import Relay.Proofs.Orchestrator.RedirectFiles

/-!
# What callers hear of a refusal

A redirect target that cannot be opened ends the run.  For the first stage the start answers so
(`start_eq_error_iff`).  For a later one nobody waits for an answer, and nothing is recorded either:
`refusal_of_history` says that callers then find what a stop at that moment would have left, that no
outcome of the stage turns up until the next start, and that a command line which waited for the end
answers the code of a stopped run and explains nothing.
-/

namespace Relay.Orchestrator

variable {ω : Type} [FileStore ω]

/-! ## Targets that cannot be opened -/

/-- A redirect target of the stage `k` cannot be opened, and it is the first such. -/
inductive Denied (w : ω) (p : Pipeline) (k : Nat) (y : Text) (cause : IoError) : Prop where
  | stderr (target : p.targetAt? k .stderr = some y)
      (denied : FileStore.openTarget w y (Pipeline.modeAt k .stderr) = .error cause)
  /-- The standard output is opened after the error output. -/
  | stdout {err : Sink} {w₁ : ω} (target : p.targetAt? k .stdout = some y)
      (opened : openSink w (p.targetAt? k .stderr) (Pipeline.modeAt k .stderr) = .ok (err, w₁))
      (denied : FileStore.openTarget w₁ y (Pipeline.modeAt k .stdout) = .error cause)

section Open

variable {w : ω} {p : Pipeline} {k : Nat} {y : Text} {cause : IoError} {e : Refusal}

theorem openSink_eq_error_iff {target? : Option Text} {mode : OpenMode} :
    openSink w target? mode = .error e ↔
      ∃ y cause, target? = some y ∧ FileStore.openTarget w y mode = .error cause ∧
        e = .redirect y cause := by
  cases target? with
  | none => exact iff_of_false nofun fun ⟨_, _, hnone, _⟩ => nomatch hnone
  | some z =>
    rw [openSink_some]
    constructor
    · intro ho
      split at ho
      · cases ho
      · rename_i cause hdenied
        cases ho
        exact ⟨z, cause, rfl, hdenied, rfl⟩
    · rintro ⟨y, cause, hy, hdenied, rfl⟩
      cases hy
      rw [hdenied]

theorem Denied.openSinks_eq (h : Denied w p k y cause) :
    ∃ w', openSinks w p k = (.error (.redirect y cause), w') := by
  cases h with
  | stderr target denied =>
    have herr : openSink w p.stderrTarget (stderrMode k) = .error (.redirect y cause) :=
      openSink_eq_error_iff.2 ⟨y, cause, target, denied, rfl⟩
    exact ⟨w, by simp only [openSinks, herr]⟩
  | @stdout err w₁ target opened denied =>
    have herr : openSink w p.stderrTarget (stderrMode k) = .ok (err, w₁) := opened
    have hout : openSink w₁ (stdoutTargetOf p k) .truncate = .error (.redirect y cause) :=
      openSink_eq_error_iff.2 ⟨y, cause, target, denied, rfl⟩
    exact ⟨err.abandon w₁, by simp only [openSinks, herr, hout]⟩

/-- Opening the sinks of a stage fails at a target that cannot be opened, and only there. -/
theorem openSinks_eq_error_iff :
    (∃ w', openSinks w p k = (.error e, w')) ↔
      ∃ y cause, Denied w p k y cause ∧ e = .redirect y cause := by
  constructor
  · rintro ⟨w', ho⟩
    rcases openSinks_eq_error ho with ⟨herr, -⟩ | ⟨err, w₁, herr, hout, -⟩
    · obtain ⟨y, cause, target, denied, rfl⟩ := openSink_eq_error_iff.1 herr
      exact ⟨y, cause, .stderr target denied, rfl⟩
    · obtain ⟨y, cause, target, denied, rfl⟩ := openSink_eq_error_iff.1 hout
      exact ⟨y, cause, .stdout target herr denied, rfl⟩
  · rintro ⟨y, cause, denied, rfl⟩
    exact denied.openSinks_eq

end Open

/-! ## Starts -/

section Start

variable {o : Orchestrator ω}

/-- A start of an idle orchestrator answers which target of the first stage cannot be opened, and
gives no other answer than that or success. -/
theorem Inv.start_eq_error_iff (h : o.Inv) (hrun : o.running = false) {e : Refusal} :
    o.start.1 = .error e ↔
      ∃ y cause, Denied o.world o.pipeline 0 y cause ∧ e = .redirect y cause := by
  rw [← openSinks_eq_error_iff, start_eq hrun]
  rcases launchNext_cases (o := o.begun) rfl rfl with
    ⟨hlast, -⟩ | ⟨stage, e', world, -, hopen, hl⟩ | ⟨stage, out, err, world, -, hopen, hl⟩
  · have hne := ((Pipeline.isValid_iff _).1 h.valid).1
    exact absurd (List.length_eq_zero_iff.1 (Nat.le_zero.1 hlast)) hne
  · have hopen' : openSinks o.world o.pipeline 0 = (.error e', world) := hopen
    rw [hl, hopen']
    simp
  · have hopen' : openSinks o.world o.pipeline 0 = (.ok (out, err), world) := hopen
    rw [hl, hopen']
    simp

end Start

/-! ## What is left behind -/

/-- Callers of the run see the same in two states. -/
structure LooksLike (o o' : Orchestrator ω) : Prop where
  pipeline : o.pipeline = o'.pipeline
  running : o.running = o'.running
  watched : o.watched = o'.watched
  outcomes : o.outcomes = o'.outcomes
  log : o.log = o'.log

section Left

variable {o m : Orchestrator ω} {s : Step ω} {k : Nat} {y : Text} {cause : IoError}

omit [FileStore ω] in
theorem Inv.map_index (h : o.Inv) :
    o.outcomes.map Outcome.index = List.range o.outcomes.length := by
  apply List.ext_getElem
  · rw [List.length_map, List.length_range]
  · intro i hi _
    rw [List.length_map] at hi
    rw [List.getElem_map, List.getElem_range]
    exact (h.placed (List.getElem?_eq_getElem hi)).1

omit [FileStore ω] in
/-- There is no final outcome as long as the last stage has none. -/
theorem Inv.finalOutcome?_eq_none (h : o.Inv)
    (hlt : o.outcomes.length < o.pipeline.stages.length) : o.finalOutcome? = none := by
  unfold Orchestrator.finalOutcome?
  split
  · rfl
  · rw [List.find?_eq_none]
    intro r hr
    have hmem : r.index ∈ o.outcomes.map Outcome.index := List.mem_map_of_mem hr
    rw [h.map_index, List.mem_range] at hmem
    rw [beq_iff_eq]
    omega

omit [FileStore ω] in
/-- Without a final outcome a command line answers the code of a stopped run and prints nothing. -/
theorem reported_of_finalOutcome? (h : o.finalOutcome? = none) :
    CommandLine.reported o = { code := CommandLine.stoppedCode } := by
  unfold CommandLine.reported stdoutLines stderrLines
  rw [h]
  rfl

/-- A step that cannot open a target of a stage is a start, which undoes what it began, or that of a
driver, which has recorded the outcome of the stage before and ends the run. -/
theorem Inv.denied_cases (h : o.Inv) (hs : o.next? s = some m) (hl : o.launches? s = some k)
    (denied : Denied o.world o.pipeline k y cause) :
    (s = .start ∧ k = 0 ∧ o.running = false ∧ ∃ world, m = { o.begun with world }.reset false) ∨
    ∃ i ks v ds d r world ds', s = .act i ∧ k = o.cursor ∧ o.AtWork ks v ds d ∧
      v.task.outcome? = some r ∧ k < o.pipeline.stages.length ∧
      m = { ({ o.record r with world }).reset false with drivers := ds' } := by
  obtain ⟨w', hopen⟩ := denied.openSinks_eq
  have hfirst : o.Idle → o.launches? .start = some 0 := fun hi =>
    if_neg (by rw [hi.running]; decide)
  cases (h.next hs).2 with
  | still _ hnone => cases hnone.symm.trans hl
  | refused hi =>
    obtain rfl : 0 = k := Option.some.inj ((hfirst hi).symm.trans hl)
    exact .inl ⟨rfl, rfl, hi.running, _, rfl⟩
  | begun hi _ hok =>
    obtain rfl : 0 = k := Option.some.inj ((hfirst hi).symm.trans hl)
    cases hopen.symm.trans hok
  | stopped => cases hl
  | advanced _ _ _ hlaunch _ hok =>
    obtain rfl : o.cursor = k := Option.some.inj (hlaunch.symm.trans hl)
    cases hopen.symm.trans hok
  | completed _ _ _ hnone => cases hnone.symm.trans hl
  | cut hw hr _ hlaunch hnext =>
    obtain rfl : o.cursor = k := Option.some.inj (hlaunch.symm.trans hl)
    have hlt := (List.getElem?_eq_some_iff.1 hnext).1
    exact .inr ⟨_, _, _, _, _, _, _, _, rfl, rfl, hw, hr, hlt, rfl⟩

theorem Inv.of_denied (h : o.Inv) (hs : o.next? s = some m) (hl : o.launches? s = some k)
    (denied : Denied o.world o.pipeline k y cause) :
    m.running = false ∧ m.outcomes.length = k ∧ k < o.pipeline.stages.length ∧
      (s = .start ↔ k = 0) := by
  rcases h.denied_cases hs hl denied with
    ⟨rfl, rfl, -, world, rfl⟩ | ⟨i, ks, v, ds, d, r, world, ds', rfl, rfl, hw, -, hlt, rfl⟩
  · have hne := ((Pipeline.isValid_iff _).1 h.valid).1
    exact ⟨rfl, rfl, List.length_pos_iff.2 hne, iff_of_true rfl rfl⟩
  · have hlen : (o.outcomes ++ [r]).length = o.cursor := by
      rw [List.length_append, List.length_singleton, hw.cursor]
    have hpos : o.cursor ≠ 0 := by
      rw [hw.cursor]
      exact Nat.succ_ne_zero _
    exact ⟨rfl, hlen, hlt, iff_of_false nofun hpos⟩

omit [FileStore ω] in
/-- A driver that launches a stage has the completion of the worker at work, which has finished. -/
theorem AtWork.isFinished {ks : List Worker} {v : Worker} {ds : List Driver} {d : Driver}
    (hw : o.AtWork ks v ds d) {i : Nat} (hl : o.launches? (.act i) = some k) :
    v.isFinished = true := by
  obtain ⟨e, he, c, hc, hl⟩ : ∃ e, o.drivers[i]? = some e ∧ ∃ c, e.inHand = some c ∧
      (if o.isCurrent e c && decide (o.cursor < o.pipeline.stages.length) then some o.cursor
        else none) = some k := by
    simpa only [launches?, Option.bind_eq_bind, Option.bind_eq_some_iff] using hl
  split at hl
  · rename_i hcurrent
    rw [Bool.and_eq_true] at hcurrent
    obtain ⟨rfl, rfl⟩ := hw.of_isCurrent he hcurrent.1
    obtain ⟨-, hr, hrep, -⟩ := hw.of_inHand hc
    unfold Worker.isFinished Task.isOver
    rw [hr, hrep]
    rfl
  · cases hl

/-- What is left behind a refusal of a later stage is what a stop at that moment leaves. -/
theorem Inv.looksLike_stop (h : o.Inv) (hs : o.next? s = some m) (hl : o.launches? s = some k)
    (denied : Denied o.world o.pipeline k y cause) (later : 0 < k) :
    m.LooksLike (o.follow [.beginStop, .endStop]).2 := by
  rcases h.denied_cases hs hl denied with
    ⟨-, rfl, -⟩ | ⟨i, ks, v, ds, d, r, world, ds', rfl, -, hw, hr, -, rfl⟩
  · exact absurd later (Nat.lt_irrefl 0)
  · have hfree : o.isFree = true := (Option.ite_none_right_eq_some.1 hs).1
    have hfinished : v.kill.isFinished = true := hw.isFinished hl
    have hbegin : o.next? .beginStop = some _ :=
      (if_pos hfree).trans (congrArg some (beginStop_of_atWork hw hfree))
    have hend := (hw.hold.endStop?_eq rfl).trans ((if_pos hfinished).trans (congrArg _ hr))
    rw [follow_cons_some hbegin, follow_cons_some (s := .endStop) hend]
    exact ⟨rfl, rfl, rfl, rfl, rfl⟩

end Left

/-! ## What callers are told -/

/-- A refusal reaches the caller: as the answer of a start that it is about, or as a failure of the
stage among the outcomes. -/
def Reaches (o : Orchestrator ω) (s : Step ω) (k : Nat) (e : Refusal) (o' : Orchestrator ω) :
    Prop :=
  k = 0 ∧ s = .start ∧ o.start.1 = .error e ∨
    0 < k ∧ ∃ r ∈ o'.outcomes, r.index = k ∧ r.status.isFailed = true

section History

variable {p : Pipeline} {settings : Settings} {world : ω} {o₀ o m : Orchestrator ω}
  {ts : List (Transition ω)} {s : Step ω} {k : Nat} {y : Text} {cause : IoError}

/-- **A redirect target that cannot be opened is made known for the first stage only.**  The start
answers then which target it is.  The refusal of a later stage ends the run as a stop would: no
outcome of the stage is there, then or at any time before the next start, and a command line that
waited for the end answers the code of a stopped run and prints nothing. -/
theorem refusal_of_history (h₀ : ofPipeline p settings world = .ok o₀) (ht : History o₀ ts o)
    (hs : o.next? s = some m) (hl : o.launches? s = some k) (denied : Denied o.world p k y cause) :
    (0 < k → m.LooksLike (o.follow [.beginStop, .endStop]).2) ∧
      ∀ ts' o', History m ts' o' → (∀ t ∈ ts', t.step ≠ .start) →
        o'.running = false ∧ o'.outcomes.map Outcome.index = List.range k ∧
          CommandLine.reported o' = { code := CommandLine.stoppedCode } ∧
          (Reaches o s k (.redirect y cause) o' ↔ k = 0) := by
  obtain ⟨hinv, rfl, -⟩ := inv_of_history h₀ ht
  refine ⟨hinv.looksLike_stop hs hl denied, fun ts' o' ht' hno => ?_⟩
  obtain ⟨hidle, hlen, hlt, hstart⟩ := hinv.of_denied hs hl denied
  obtain ⟨hinv', hmove⟩ := hinv.next hs
  obtain ⟨hidle', hout, -⟩ := hinv'.idle_history hidle ht' hno
  have hindex := (hinv'.history ht').map_index
  rw [hout, hlen] at hindex
  have hfinal : o'.finalOutcome? = none := by
    refine (hinv'.history ht').finalOutcome?_eq_none ?_
    rwa [hout, hlen, (hinv'.pipeline_history ht').1, hmove.pipeline]
  refine ⟨hidle', hout ▸ hindex, reported_of_finalOutcome? hfinal, fun hreach => ?_, fun hk => ?_⟩
  · rcases hreach with ⟨hk, -⟩ | ⟨-, r, hr, hrk, -⟩
    · exact hk
    · -- the outcomes are those of the stages before
      have hmem : r.index ∈ o'.outcomes.map Outcome.index := List.mem_map_of_mem hr
      rw [hout, hindex, hrk, List.mem_range] at hmem
      exact absurd hmem (Nat.lt_irrefl k)
  · obtain rfl := hstart.2 hk
    subst hk
    rcases hinv.denied_cases hs hl denied with ⟨-, -, hrun, -⟩ | ⟨_, _, _, _, _, _, _, _, hact, -⟩
    · exact .inl ⟨rfl, rfl, (hinv.start_eq_error_iff hrun).2 ⟨y, cause, denied, rfl⟩⟩
    · cases hact

end History

/-! ### Two programs and a missing directory -/

/-- A directory with the program `echo`. -/
def furnished : Host :=
  let bin : Location := [[98, 105, 110]]
  let echo : Bytes := [101, 99, 104, 111]
  { files := { entries := [(bin, .directory), (bin ++ [echo], .program echo)] } }

def astray : Text := "echo A | echo B > missing/out".toList

def straying : Orchestrator Host :=
  { pipeline :=
      { stages := [⟨["echo".toList, ['A']]⟩, ⟨["echo".toList, ['B']]⟩],
        stdoutTarget := some "missing/out".toList }
    world := furnished }

theorem ofPipeline_straying :
    Pipeline.read astray = .ok straying.pipeline ∧
      ofPipeline straying.pipeline {} furnished = .ok straying :=
  ⟨by decide +kernel, rfl⟩

/-- The first program has ended, and the driver is about to launch the second one. -/
def halfway : List (Transition Host) × Orchestrator Host :=
  straying.follow (.start :: (printing 0 0 65).dropLast)

theorem denied_halfway :
    Denied halfway.2.world straying.pipeline 1 "missing/out".toList (.os .noEntry) :=
  .stdout rfl rfl rfl

theorem refusal_halfway :
    ∃ m, halfway.2.next? (.act 0) = some m ∧
      m.LooksLike (halfway.2.follow [.beginStop, .endStop]).2 ∧
        m.outcomes.map Outcome.index = [0] ∧
          ¬ Reaches halfway.2 (.act 0) 1 (.redirect "missing/out".toList (.os .noEntry)) m := by
  obtain ⟨hlooks, hlater⟩ := refusal_of_history ofPipeline_straying.2 (history_follow _ _)
    (show halfway.2.next? (.act 0) = some _ from rfl) rfl denied_halfway
  obtain ⟨-, hindex, -, hreach⟩ := hlater [] _ .nil fun _ ht => absurd ht List.not_mem_nil
  exact ⟨_, rfl, hlooks Nat.one_pos, hindex, fun h => Nat.one_ne_zero (hreach.1 h)⟩

/-- Nobody stops the run, its start succeeds, and nothing tells that the last stage could not be
launched. -/
theorem unheard_halfway :
    straying.start.1 = .ok () ∧ (∀ t ∈ halfway.1, t.step ≠ .beginStop) ∧
      halfway.2.launches? (.act 0) = some 1 ∧
      Denied halfway.2.world straying.pipeline 1 "missing/out".toList (.os .noEntry) ∧
      (halfway.2.act 0).running = false ∧ (∀ r ∈ (halfway.2.act 0).outcomes, r.index ≠ 1) ∧
      (CommandLine.answer [astray] furnished).1 = { code := CommandLine.stoppedCode } := by
  refine ⟨rfl, fun t ht hstop => ?_, rfl, denied_halfway, rfl, ?_, by decide +kernel⟩
  · have hmem := step_mem_of_follow ht
    rw [hstop] at hmem
    simp [printing] at hmem
  · decide +kernel

end Relay.Orchestrator
