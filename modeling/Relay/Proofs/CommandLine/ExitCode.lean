import Relay.CommandLine
import Relay.Proofs.Session

/-!
# What an exit code tells

The program exits with code 0 if and only if it has done what it was asked for (`Fulfilled`): it has
shown help, the version or how a command is read, or it has run a pipeline to its end and the last
stage's program ended with code 0.  `truthful_of_course` says so for every way in which the run can
go, whatever order its steps are taken in.  The program's own order is one of them, and when it
answers the run is over (`exists_conducted`).

For a run the answer depends on the outcome of the last stage only (`Reports`).  It has none if the
run did not come to the last stage, because a redirect target could not be opened; the code is then
that of a stopped run.
-/

namespace Relay.CommandLine

open Orchestrator

/-! ## The run that is asked for -/

def pipeline? (h : Host) : Request → Option (Except Refusal Pipeline)
  | .run command => some (Pipeline.read command)
  | .runFile path => some (pipelineIn h path)
  | _ => none

/-- The orchestrator whose run the arguments ask for, if they are understood and do ask for a run,
settings are found, and the command is that of a valid pipeline. -/
def selected? (args : List Text) (h : Host) : Option (Orchestrator Host) :=
  match readArguments args with
  | .error _ => none
  | .ok a =>
    match pipeline? h a.request, Settings.resolve h a.config with
    | some (.ok p), .ok settings => (ofPipeline p settings h).toOption
    | _, _ => none

/-- The answer after a run that went in some way. -/
def concluded : Except Refusal (Orchestrator Host) → Response
  | .error e => refused e
  | .ok o => reported o

/-- The answer to arguments if the run that they ask for, if they do, goes in some way. -/
def answerAfter (c : Except Refusal (Orchestrator Host)) (args : List Text) (h : Host) : Response :=
  match selected? args h with
  | some _ => concluded c
  | none => (answer args h).1

/-! ## What an answer tells -/

/-- What was asked for was done, given how the run went if it was a run. -/
inductive Fulfilled (args : List Text) (h : Host) (c : Except Refusal (Orchestrator Host)) :
    Prop where
  | help {a : Arguments} (read : readArguments args = .ok a) (asked : a.request = .help)
  | version {a : Arguments} (read : readArguments args = .ok a) (asked : a.request = .version)
  | parse {a : Arguments} {command : Text} {p : Pipeline} (read : readArguments args = .ok a)
      (asked : a.request = .parse command) (parsed : Pipeline.parse command = .ok p)
  /-- The start succeeded, and in the end the program of the last stage had exited with code 0. -/
  | run {o o' : Orchestrator Host} {r : Outcome} (asked : selected? args h = some o)
      (ran : c = .ok o') (final : o'.IsFinal r) (success : r.status = .exited 0)

/-- What the answer after a run tells of it. -/
structure Reports (ts : List (Transition Host)) (o : Orchestrator Host) (answer : Response) :
    Prop where
  /-- The last stage has an outcome exactly if the run is over and every target was opened. -/
  reached : (∃ r, o.IsFinal r) ↔
    o.running = false ∧ ∀ t ∈ ts, t.before.refuses t.step = false
  unreached : (∀ r, ¬ o.IsFinal r) → answer = { code := 130 }
  out : ∀ r, o.IsFinal r → answer.out = r.stdout.flatMap fun line => line ++ ['\n']
  exited : ∀ r code, o.IsFinal r → r.status = .exited code →
    answer.code = if 0 ≤ code ∧ code ≤ 255 then code.toNat else 1
  failed : ∀ r failure, o.IsFinal r → r.status = .failed failure → answer.code = 127
  unstopped : ∀ r, o.IsFinal r → r.status ≠ .stopped
  /-- It does not matter when the state is looked at once the run is over. -/
  lasting : o.running = false → ∀ us o', History o us o' → LeftAlone us → reported o' = answer

/-- The exit code tells whether what was asked for was done. -/
structure Truthful (args : List Text) (h : Host) (ts : List (Transition Host))
    (c : Except Refusal (Orchestrator Host)) : Prop where
  code_le : (answerAfter c args h).code ≤ 255
  code_eq_zero_iff : (answerAfter c args h).code = 0 ↔ Fulfilled args h c
  refused : ∀ o e, selected? args h = some o → c = .error e → (answerAfter c args h).code = 1
  ran : ∀ o o', selected? args h = some o → c = .ok o' →
    o'.pipeline = o.pipeline ∧ Reports ts o' (answerAfter c args h)

/-! ## Requests -/

section Request

variable {args : List Text} {h : Host} {o : Orchestrator Host} {a : Arguments}
  {c : Except Refusal (Orchestrator Host)} {read : Except Refusal Pipeline}

theorem selected?_eq_some_iff : selected? args h = some o ↔
    ∃ a p settings, readArguments args = .ok a ∧ pipeline? h a.request = some (.ok p) ∧
      Settings.resolve h a.config = .ok settings ∧ ofPipeline p settings h = .ok o := by
  constructor
  · intro ho
    unfold selected? at ho
    split at ho
    · cases ho
    · rename_i a hread
      split at ho
      · rename_i p settings hp hs
        cases hok : ofPipeline p settings h with
        | error e =>
          rw [hok] at ho
          cases ho
        | ok o' =>
          rw [hok] at ho
          cases ho
          exact ⟨a, p, settings, hread, hp, hs, hok⟩
      · cases ho
  · rintro ⟨a, p, settings, hread, hp, hs, hok⟩
    simp only [selected?, hread, hp, hs, hok]
    rfl

/-- What a request asks for can be shown without a run. -/
def Request.IsShowable : Request → Prop
  | .help => True
  | .version => True
  | .parse command => ∃ p, Pipeline.parse command = .ok p
  | _ => False

theorem not_isShowable_of_pipeline? {r : Request} (hp : pipeline? h r = some read) :
    ¬ r.IsShowable := by
  cases r with
  | run command => exact id
  | runFile path => exact id
  | _ => cases hp

/-- What is asked for is done without a run or by one. -/
theorem fulfilled_iff (hread : readArguments args = .ok a) :
    Fulfilled args h c ↔ a.request.IsShowable ∨
      ∃ o o' r, selected? args h = some o ∧ c = .ok o' ∧ o'.IsFinal r ∧ r.status = .exited 0 := by
  constructor
  · intro hf
    cases hf with
    | help read asked =>
      cases hread.symm.trans read
      exact .inl (by rw [asked]; trivial)
    | version read asked =>
      cases hread.symm.trans read
      exact .inl (by rw [asked]; trivial)
    | parse read asked parsed =>
      cases hread.symm.trans read
      exact .inl (by rw [asked]; exact ⟨_, parsed⟩)
    | run asked ran final success => exact .inr ⟨_, _, _, asked, ran, final, success⟩
  · rintro (hshow | ⟨o, o', r, asked, ran, final, success⟩)
    · cases hrequest : a.request <;> rw [hrequest] at hshow
      case help => exact .help hread hrequest
      case version => exact .version hread hrequest
      case parse =>
        obtain ⟨p, parsed⟩ := hshow
        exact .parse hread hrequest parsed
      case run => cases hshow
      case runFile => cases hshow
    · exact .run asked ran final success

theorem not_fulfilled_of_error {e : UsageError} (hread : readArguments args = .error e) :
    ¬ Fulfilled args h c := by
  intro hf
  cases hf with
  | help read => cases hread.symm.trans read
  | version read => cases hread.symm.trans read
  | parse read => cases hread.symm.trans read
  | run asked =>
    obtain ⟨a, _, _, read, -⟩ := selected?_eq_some_iff.1 asked
    cases hread.symm.trans read

/-- A run is what was asked for exactly if the last stage's program ended with code 0. -/
theorem fulfilled_iff_of_selected? (ho : selected? args h = some o) :
    Fulfilled args h c ↔ ∃ o' r, c = .ok o' ∧ o'.IsFinal r ∧ r.status = .exited 0 := by
  obtain ⟨a, p, settings, hread, hp, -⟩ := selected?_eq_some_iff.1 ho
  rw [fulfilled_iff hread]
  constructor
  · rintro (hshow | ⟨_, o', r, -, hrun⟩)
    · exact absurd hshow (not_isShowable_of_pipeline? hp)
    · exact ⟨o', r, hrun⟩
  · rintro ⟨o', r, hrun⟩
    exact .inr ⟨o, o', r, ho, hrun⟩

theorem answer_of_readArguments (hread : readArguments args = .ok a) :
    answer args h = carryOut a h := by
  unfold answer
  rw [hread]

theorem carryOut_of_pipeline? (hp : pipeline? h a.request = some read) :
    carryOut a h = runWith a.config read h := by
  unfold carryOut
  cases hrequest : a.request <;> rw [hrequest] at hp <;> cases hp <;> rfl

end Request

/-! ## Answers without a run -/

section NoRun

variable {args : List Text} {h : Host} {a : Arguments} {c : Except Refusal (Orchestrator Host)}

theorem code_refused (e : Refusal) : (refused e).code = 1 := by
  unfold refused
  split <;> rfl

theorem code_shown (command : Text) : (shown command).code ≤ 1 ∧
    ((shown command).code = 0 ↔ ∃ p, Pipeline.parse command = .ok p) := by
  unfold shown Pipeline.read
  cases Pipeline.parse command with
  | ok p => exact ⟨Nat.zero_le 1, iff_of_true rfl ⟨p, rfl⟩⟩
  | error e => exact ⟨Nat.le_refl 1, iff_of_false Nat.one_ne_zero nofun⟩

theorem code_carryOut (hp : pipeline? h a.request = none) : (carryOut a h).1.code ≤ 1 ∧
    ((carryOut a h).1.code = 0 ↔ a.request.IsShowable) := by
  unfold carryOut
  cases hrequest : a.request with
  | help => exact ⟨Nat.zero_le 1, iff_of_true rfl trivial⟩
  | version => exact ⟨Nat.zero_le 1, iff_of_true rfl trivial⟩
  | parse command => exact code_shown command
  | run command =>
    rw [hrequest] at hp
    cases hp
  | runFile path =>
    rw [hrequest] at hp
    cases hp

theorem code_runWith {config : Option Text} {read : Except Refusal Pipeline}
    (hnone : ∀ s p, Settings.resolve h config = .ok s → read = .ok p →
      ∀ o, ofPipeline p s h ≠ .ok o) : (runWith config read h).1.code = 1 := by
  unfold runWith
  split
  · rfl
  · exact code_refused _
  · rename_i s p hs
    unfold run
    cases ho : ofPipeline p s h with
    | error e => exact code_refused e
    | ok o => exact absurd ho (hnone s p hs rfl o)

theorem answer_of_selected?_eq_none (hnone : selected? args h = none) :
    (answer args h).1.code ≤ 1 ∧ ((answer args h).1.code = 0 ↔ Fulfilled args h c) := by
  cases hread : readArguments args with
  | error e =>
    have hcode : (answer args h).1.code = 1 := by
      unfold answer
      rw [hread]
      rfl
    rw [hcode]
    exact ⟨Nat.le_refl 1, iff_of_false Nat.one_ne_zero (not_fulfilled_of_error hread)⟩
  | ok a =>
    have hrun : ¬ ∃ o o' r, selected? args h = some o ∧ c = .ok o' ∧ o'.IsFinal r ∧
        r.status = .exited 0 := by
      rintro ⟨o, _, _, ho, -⟩
      cases hnone.symm.trans ho
    rw [answer_of_readArguments hread, fulfilled_iff hread, or_iff_left hrun]
    cases hp : pipeline? h a.request with
    | none => exact code_carryOut hp
    | some read =>
      have hcode : (runWith a.config read h).1.code = 1 := by
        refine code_runWith fun s p hs hok o ho => ?_
        cases hnone.symm.trans
          (selected?_eq_some_iff.2 ⟨a, p, s, hread, hok ▸ hp, hs, ho⟩)
      rw [carryOut_of_pipeline? hp, hcode]
      exact ⟨Nat.le_refl 1, iff_of_false Nat.one_ne_zero (not_isShowable_of_pipeline? hp)⟩

theorem truthful_of_selected?_eq_none {ts : List (Transition Host)}
    (ho : selected? args h = none) : Truthful args h ts c := by
  have hafter : answerAfter c args h = (answer args h).1 := by rw [answerAfter, ho]
  obtain ⟨hle, hzero⟩ := answer_of_selected?_eq_none (c := c) ho
  refine ⟨?_, ?_, fun o e hsome => ?_, fun o o' hsome => ?_⟩
  · rw [hafter]
    omega
  · rw [hafter]
    exact hzero
  · cases ho.symm.trans hsome
  · cases ho.symm.trans hsome

end NoRun

/-! ## Answers after a run -/

section Run

variable {args : List Text} {h : Host} {o o' : Orchestrator Host} {ts : List (Transition Host)}
  {c : Except Refusal (Orchestrator Host)}

/-- How a run goes in the program's own order of steps. -/
def conduct (o : Orchestrator Host) : Except Refusal (Orchestrator Host) :=
  let started := (Session.of o).start
  started.1.map fun _ => started.2.wait.orchestrator

theorem run_eq_conduct {p : Pipeline} {settings : Settings}
    (hok : ofPipeline p settings h = .ok o) :
    (run p settings h).1 = concluded (conduct o) := by
  unfold run conduct
  rw [hok]
  dsimp only
  rcases (Session.of o).start with ⟨_ | _, session⟩ <;> rfl

theorem answer_of_selected? (ho : selected? args h = some o) :
    (answer args h).1 = concluded (conduct o) := by
  obtain ⟨a, p, settings, hread, hp, hs, hok⟩ := selected?_eq_some_iff.1 ho
  rw [answer_of_readArguments hread, carryOut_of_pipeline? hp, ← run_eq_conduct hok]
  simp only [runWith, hs]

/-- A run goes in the program's own order, which is one of those in which it can go, and when the
program answers the run is over. -/
structure Conducted (o : Orchestrator Host) (ts : List (Transition Host))
    (c : Except Refusal (Orchestrator Host)) : Prop where
  own : c = conduct o
  course : o.Course ts c
  ended : ∀ o', c = .ok o' → o'.running = false ∧ o'.watched = false

theorem exists_conducted (hinv : o.Inv) (hno : o.stopping = none) :
    ∃ ts, Conducted o ts (conduct o) := by
  have hconduct : conduct o =
      o.start.1.map fun _ => (Session.of o).start.2.wait.orchestrator := rfl
  cases hs : o.start.1 with
  | error e =>
    rw [hs] at hconduct
    refine ⟨[], rfl, ?_, ?_⟩
    · rw [hconduct]
      exact .refused o.world hs
    · rw [hconduct]
      nofun
  | ok _ =>
    rw [hs] at hconduct
    have hfree := o.start_keeps.2.trans hno
    obtain ⟨ts, ht, hl⟩ := Session.unattended_settle .endless
      (Session.of o).start.2.stageCount (Session.of o).start.2 hfree
    have hrun := Session.running_wait hinv hno hs
    have hidle := (hinv.start.1.history ht).idle hrun
    refine ⟨ts, rfl, ?_, ?_⟩
    · rw [hconduct]
      exact .ran o.world hs ht hl
    · rw [hconduct]
      rintro _ ⟨⟩
      exact ⟨hrun, hidle.watched⟩

/-- What is reported depends on the pipeline and the outcomes only. -/
theorem reported_of_still (hs : o.Still o') : reported o' = reported o := by
  have hfinal : o'.finalOutcome? = o.finalOutcome? := by
    rw [Orchestrator.finalOutcome?, Orchestrator.finalOutcome?, hs.pipeline, hs.outcomes]
  rw [reported, reported, stdoutLines, stdoutLines, stderrLines, stderrLines, hfinal]

theorem reported_of_isFinal (h : o.Inv) {r : Outcome} (hr : o.IsFinal r) :
    reported o = { out := printed r.stdout
                   err := printed r.stderr ++ (ending (some r)).2
                   code := (ending (some r)).1 } := by
  have hfinal := h.finalOutcome?_eq_some_iff.2 hr
  rw [reported, stdoutLines, stderrLines, hfinal]
  rfl

/-- The answer tells of a run that was left alone what it came to. -/
theorem reports_of_fate (h : o.Inv) (hf : Fate ts o) : Reports ts o (reported o) where
  reached := hf.exists_isFinal_iff h
  unreached hnone := by
    refine reported_of_finalOutcome? ?_
    cases hfinal : o.finalOutcome? with
    | none => rfl
    | some r => exact absurd (h.finalOutcome?_eq_some_iff.1 hfinal) (hnone r)
  out r hr := by
    rw [reported_of_isFinal h hr]
    rfl
  exited r code hr hstatus := by
    have hle : code < 256 ↔ code ≤ 255 := by omega
    simp only [reported_of_isFinal h hr, ending, hstatus, exitCode, hle, failureCode]
  failed r failure hr hstatus := by
    rw [reported_of_isFinal h hr, ending, hstatus]
    rfl
  unstopped r hr := hf.ne_stopped h hr
  lasting hidle us o' ht hl :=
    reported_of_still (h.still_of_idle hidle ht fun t hmem => (hl t hmem).1)

/-- The code of a run is 0 only if the last stage's program ended with code 0. -/
theorem Reports.code {answer : Response} (hr : Reports ts o answer) :
    answer.code ≤ 255 ∧ (answer.code = 0 ↔ ∃ r, o.IsFinal r ∧ r.status = .exited 0) := by
  have hzero : (∃ r, o.IsFinal r ∧ r.status = .exited 0) → answer.code = 0 := by
    rintro ⟨r, hfinal, hstatus⟩
    exact hr.exited r 0 hfinal hstatus
  by_cases hreached : ∃ r, o.IsFinal r
  · obtain ⟨r, hfinal⟩ := hreached
    cases hstatus : r.status with
    | exited code =>
      have hcode := hr.exited r code hfinal hstatus
      split at hcode
      · refine ⟨by omega, fun h => ⟨r, hfinal, ?_⟩, hzero⟩
        obtain rfl : code = 0 := by omega
        exact hstatus
      · exact ⟨by omega, fun h => by omega, hzero⟩
    | failed failure =>
      have hcode := hr.failed r failure hfinal hstatus
      exact ⟨by omega, fun h => by omega, hzero⟩
    | stopped => exact absurd hstatus (hr.unstopped r hfinal)
  · have hanswer := hr.unreached fun r hfinal => hreached ⟨r, hfinal⟩
    have hcode : answer.code = 130 := congrArg Response.code hanswer
    exact ⟨by omega, fun h => by omega, hzero⟩

theorem truthful_of_selected? (ho : selected? args h = some o) (hinv : o.Inv)
    (hno : o.stopping = none) (hc : o.Course ts c) : Truthful args h ts c := by
  have hafter : answerAfter c args h = concluded c := by rw [answerAfter, ho]
  have hfulfilled := fulfilled_iff_of_selected? (c := c) ho
  cases c with
  | error e =>
    have hcode : (answerAfter (.error e) args h).code = 1 := by
      rw [hafter]
      exact code_refused e
    refine ⟨?_, ?_, fun _ _ _ _ => hcode, fun _ _ _ hok => ?_⟩
    · omega
    · rw [hcode, hfulfilled]
      refine iff_of_false Nat.one_ne_zero ?_
      rintro ⟨_, _, herror, -⟩
      cases herror
    · cases hok
  | ok o' =>
    obtain ⟨hinv', hpipeline, hfate⟩ := hc.fate hinv hno
    have hreports : Reports ts o' (answerAfter (.ok o') args h) := by
      rw [hafter]
      exact reports_of_fate hinv' hfate
    obtain ⟨hle, hzero⟩ := hreports.code
    refine ⟨hle, ?_, fun _ _ _ herror => ?_, fun _ _ hsome hok => ?_⟩
    · rw [hzero, hfulfilled]
      simp
    · cases herror
    · cases ho.symm.trans hsome
      cases hok
      exact ⟨hpipeline, hreports⟩

/-- **The exit code is 0 if and only if what was asked for was done**, however the run goes that the
arguments ask for, if they do.  It is at most 255, and no code that the last stage's program ended
with, no failure and no run that ends early turns into 0.  What is printed then is what the last
stage printed.  The run that the program itself conducts is one of those that are possible, and the
program answers when it is over. -/
theorem truthful_of_course (args : List Text) (h : Host) :
    (∃ ts c, (∀ o, selected? args h = some o → Conducted o ts c) ∧
      (answer args h).1 = answerAfter c args h) ∧
    ∀ ts c, (∀ o, selected? args h = some o → o.Course ts c) → Truthful args h ts c := by
  cases ho : selected? args h with
  | none =>
    refine ⟨⟨[], .error .alreadyRunning, fun o hsome => ?_, ?_⟩, fun ts c _ => ?_⟩
    · cases hsome
    · rw [answerAfter, ho]
    · exact truthful_of_selected?_eq_none ho
  | some o =>
    obtain ⟨a, p, settings, -, -, -, hok⟩ := selected?_eq_some_iff.1 ho
    have hinv := inv_of_ofPipeline hok
    have hno : o.stopping = none := by
      obtain ⟨-, rfl⟩ := of_ofPipeline hok
      rfl
    obtain ⟨ts, hc⟩ := exists_conducted hinv hno
    refine ⟨⟨ts, conduct o, ?_, ?_⟩, fun ts c hc => truthful_of_selected? ho hinv hno (hc o rfl)⟩
    · rintro _ ⟨⟩
      exact hc
    · rw [answerAfter, ho, answer_of_selected? ho]

end Run

/-! ### A run that succeeds and one that ends early -/

/-- Two stages are run, and the program of the second one ends with code 0; where its target is in a
missing directory the run ends early. -/
theorem truthful_furnished :
    let args : List Text := ["echo A | echo B".toList]
    ((answer args furnished).1 = { out := "B\n".toList } ∧
      ∃ ts c, (∀ o, selected? args furnished = some o → Conducted o ts c) ∧
        Truthful args furnished ts c ∧ Fulfilled args furnished c) ∧
    ∃ ts c, (∀ o, selected? [astray] furnished = some o → Conducted o ts c) ∧
      Truthful [astray] furnished ts c ∧ ¬ Fulfilled [astray] furnished c := by
  intro args
  have hecho : (answer args furnished).1 = { out := "B\n".toList } := by decide +kernel
  have hastray : (answer [astray] furnished).1.code = 130 := by decide +kernel
  obtain ⟨⟨ts, c, hc, hanswer⟩, htruthful⟩ := truthful_of_course args furnished
  obtain ⟨⟨us, d, hd, hanswer'⟩, htruthful'⟩ := truthful_of_course [astray] furnished
  have htrue := htruthful ts c fun o ho => (hc o ho).course
  have htrue' := htruthful' us d fun o ho => (hd o ho).course
  refine ⟨⟨hecho, ts, c, hc, htrue, ?_⟩, us, d, hd, htrue', fun hf => ?_⟩
  · rw [← htrue.code_eq_zero_iff, ← hanswer, hecho]
  · rw [← htrue'.code_eq_zero_iff, ← hanswer', hastray] at hf
    cases hf

end Relay.CommandLine
