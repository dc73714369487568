import Relay.Proofs.Gathering

/-!
# What a stopped stage keeps

A kill may arrive between any two chunks, while one output has come to its end and the other has
not.  `kept_of_kill` says what the outcome keeps then of an output that is captured in memory: the
lines that had ended in the bytes read so far, and an unfinished last one only if the output had
come to its end.

1. A sink in memory refuses nothing, so until a kill it has accepted all lines that were drained
   (`Captured`), whatever happens to the task (`Captured.step`).
2. A kill adds no line, and nor does anything until the program has ended (`accepted_killed`,
   `accepted_of_killing`).
3. The lines of the first bytes of an output come first among the lines of all of it
   (`Drain.ReadOf.drained_prefix`), which are what a run to completion keeps.
-/

namespace Relay

variable {ω : Type} [FileStore ω]

/-! ## Lines of the first bytes -/

namespace Text

theorem cutLines_mono {b c : Bytes} (h : b <+: c) : (cutLines b).1 <+: (cutLines c).1 := by
  obtain ⟨rest, rfl⟩ := h
  rw [cutLines_append]
  exact List.prefix_append _ _

theorem map_cutLines_isPrefix_decodeLines {b c : Bytes} (h : b <+: c) :
    (cutLines b).1.map decodeLine <+: decodeLines c :=
  ((cutLines_mono h).map decodeLine).trans (List.prefix_append _ _)

end Text

/-! ## Draining into memory -/

namespace Drain

/-- What is told of the output `b` up to some moment: the first bytes of it were read, and all of
them if the end was seen. -/
structure ReadOf (b : Bytes) (log : List Notice) : Prop where
  first : heard log <+: b
  whole : end? log = some (.ok ()) → heard log = b

/-- The lines that were drained are the first lines of the output. -/
theorem ReadOf.drained_prefix {b : Bytes} {log : List Notice} (h : ReadOf b log) :
    drained log <+: Text.decodeLines b := by
  by_cases hend : end? log = some (.ok ())
  · have hall : drained log = Text.decodeLines b := by rw [drained_of_ended hend, h.whole hend]
    exact hall ▸ List.prefix_rfl
  · rw [drained_of_open hend]
    exact Text.map_cutLines_isPrefix_decodeLines h.first

section Memory

variable {d : Drain} {log : List Notice}

theorem takeLines_result_of_memory (hmem : d.sink.target? = none) (w : ω) (lines : List Text) :
    (d.takeLines w lines).1.result = d.result := by
  apply takeLines_result_of_ok
  cases hd : d.sink with
  | memory kept => rw [Sink.pushAll_memory]
  | file f =>
    rw [hd] at hmem
    cases hmem

omit [FileStore ω] in
/-- Unless draining has failed, the sink has accepted the lines that were drained. -/
theorem Told.accepted_eq_drained (h : d.Told log) (hne : ∀ e, d.result ≠ some (.error e)) :
    Drain.accepted log = drained log := by
  cases hr : d.result with
  | none => rw [drained_of_open (h.unended hr), h.accepted hr]
  | some r =>
    cases r with
    | ok => rw [drained_of_ended (h.result.symm.trans hr), h.complete hr]
    | error e => exact absurd hr (hne e)

variable (hmem : d.sink.target? = none) (h : d.Told log) (heq : Drain.accepted log = drained log)
include hmem h heq

theorem accepted_take (w : ω) (b : Bytes) :
    accepted (log ++ d.takeNotices w b) = drained (log ++ d.takeNotices w b) := by
  cases hr : d.result with
  | some r =>
    have hnotices : d.takeNotices w b = [] := by simp [takeNotices, hr]
    rw [hnotices, List.append_nil, heq]
  | none =>
    apply (h.take w b).accepted_eq_drained
    intro e he
    have htake : d.take w b =
        { d with unfinished := (Text.cutLines (d.unfinished ++ b)).2 }.takeLines w
          ((Text.cutLines (d.unfinished ++ b)).1.map Text.decodeLine) := by
      simp [Drain.take, hr]
    rw [htake, takeLines_result_of_memory (by exact hmem)] at he
    cases hr.symm.trans he

theorem accepted_close (w : ω) :
    accepted (log ++ d.closeNotices w) = drained (log ++ d.closeNotices w) := by
  cases hr : d.result with
  | some r =>
    have hnotices : d.closeNotices w = [] := by simp [closeNotices, hr]
    rw [hnotices, List.append_nil, heq]
  | none =>
    apply (h.close w).accepted_eq_drained
    intro e he
    have hclose : (d.close w).1 = ({ d with unfinished := [] }.takeLines w
        (Text.decodeRest d.unfinished)).1.settle (.ok ()) := by
      simp [Drain.close, hr]
    rw [hclose, settle, takeLines_result_of_memory (by exact hmem), hr] at he
    cases he

omit hmem in
/-- A failure to read leaves what was drained. -/
theorem accepted_breakOff (cause : IoError) :
    accepted (log ++ d.breakNotices cause) = drained (log ++ d.breakNotices cause) := by
  cases hr : d.result with
  | some r =>
    have hnotices : d.breakNotices cause = [] := by simp [breakNotices, hr]
    rw [hnotices, List.append_nil, heq]
  | none =>
    have hnotices : d.breakNotices cause = [.ended (.error cause)] := by simp [breakNotices, hr]
    have hopen : end? (log ++ [.ended (.error cause)]) ≠ some (.ok ()) := by
      simp [h.end?_eq_none hr, Notice.end?]
    rw [hnotices, drained_of_open hopen]
    simpa [Notice.line?, Notice.bytes, drained_of_open (h.unended hr)] using heq

end Memory

omit [FileStore ω] in
theorem accepted_severNotices (d : Drain) (cut : Option Cut) :
    accepted (d.severNotices cut) = [] := by
  unfold severNotices
  split
  · rfl
  · rcases cut with _ | ⟨_ | b, taken⟩ <;> rfl

end Drain

/-! ## Tasks that capture -/

namespace Task

/-- Until a kill, a sink in memory has accepted all lines that were drained. -/
def Captured (t₀ : Task) (log : List Notice) : Prop :=
  wasKilled log = false → ∀ s, (t₀.drain s).sink.target? = none →
    Drain.accepted (output s log) = Drain.drained (output s log)

section Captured

variable {t₀ t : Task} {log : List Notice}

omit [FileStore ω] in
theorem Captured.silent (h : Captured t₀ log) {l : List Notice} (hl : ∀ s, output s l = []) :
    Captured t₀ (log ++ l) := by
  intro hkill s hmem
  rw [wasKilled_append, Bool.or_eq_false_iff] at hkill
  rw [output_append, hl, List.append_nil]
  exact h hkill.1 s hmem

omit [FileStore ω] in
theorem captured_of_killed (l : List Notice) (hl : wasKilled l = true) :
    Captured t₀ (log ++ l) := by
  intro hkill
  rw [wasKilled_append, hl, Bool.or_true] at hkill
  cases hkill

theorem Captured.closeNotices (h : Captured t₀ log) (t : Task) (w : ω) :
    Captured t₀ (log ++ t.closeNotices w) := by
  intro hkill s hmem
  have hkill' : wasKilled log = false := by simpa using hkill
  simpa [Drain.drained, output_closeNotices, Drain.Notice.end?, Drain.Notice.bytes,
    Drain.Notice.line?] using h hkill' s hmem

theorem Captured.waited (h : Captured t₀ log) (waited : Except IoError Int) (t : Task) (w : ω) :
    Captured t₀ (log ++ .wait waited :: t.closeNotices w) := by
  have hwaited : Captured t₀ (log ++ [.wait waited]) := h.silent fun _ => rfl
  rw [List.append_cons]
  exact hwaited.closeNotices t w

omit [FileStore ω] in
theorem Captured.output (h : Captured t₀ log) (x : Stream) {l : List Drain.Notice}
    (hx : (t₀.drain x).sink.target? = none →
      Drain.accepted (Task.output x log) = Drain.drained (Task.output x log) →
        Drain.accepted (Task.output x log ++ l) = Drain.drained (Task.output x log ++ l)) :
    Captured t₀ (log ++ l.map (.output x)) := by
  intro hkill s hmem
  have hkill' : wasKilled log = false := by
    rw [wasKilled_append, Bool.or_eq_false_iff] at hkill
    exact hkill.1
  rw [output_append, (map_output x l).2.2.2.2]
  by_cases hs : x = s
  · subst hs
    rw [if_pos rfl]
    exact hx hmem (h hkill' x hmem)
  · rw [if_neg hs, List.append_nil]
    exact h hkill' s hmem

/-- **Until a kill nothing that was drained into memory is lost.** -/
theorem Captured.step (h : Captured t₀ log) (ht : Told t₀ log t) (new : t₀.IsNew)
    (hargv : t₀.argv ≠ []) (hcall : t.call = t₀.call) (w : ω) (s : Signal) :
    Captured t₀ (log ++ t.notices w s) := by
  have htarget := target?_of_call_eq hcall
  have same : Captured t₀ (log ++ []) := h.silent fun _ => rfl
  obtain ⟨index, argv, input, fed, stdout, stderr, phase⟩ := t
  cases ht with
  | ready state empty =>
    subst state empty
    cases new.phase
    cases argv with
    | nil => exact absurd rfl hargv
    | cons program args =>
      cases s with
      | launched =>
        refine h.silent fun x => ?_
        cases input <;> rfl
      | refused cause =>
        have hrefused : Captured _ ([] ++ [.launch (.error cause)]) := h.silent fun _ => rfl
        exact hrefused.closeNotices _ w
      | _ => exact same
  | transferring hphase hwork =>
    cases hphase
    cases s with
    | fed r =>
      refine h.silent fun x => ?_
      cases fed <;> rfl
    | printed x b =>
      exact h.output x fun hmem heq =>
        Drain.accepted_take ((htarget x).trans hmem) (hwork.outputs x) heq w b
    | ended x =>
      exact h.output x fun hmem heq =>
        Drain.accepted_close ((htarget x).trans hmem) (hwork.outputs x) heq w
    | broken x cause =>
      exact h.output x fun _ heq => Drain.accepted_breakOff (hwork.outputs x) heq cause
    | killed out err =>
      refine captured_of_killed _ ?_
      simp [notices, Notice.isKill]
    | _ => exact same
  | awaiting hphase =>
    cases hphase
    cases s with
    | exited waited => exact h.waited waited _ w
    | killed out err =>
      refine captured_of_killed _ ?_
      simp [notices, Notice.isKill]
    | _ => exact same
  | killing hphase =>
    cases hphase
    cases s with
    | exited waited => exact h.waited waited _ w
    | _ => exact same
  | finished hphase =>
    cases hphase
    exact same

theorem Captured.after (h : Captured t₀ log) (ht : Told t₀ log t) (new : t₀.IsNew)
    (hargv : t₀.argv ≠ []) (hcall : t.call = t₀.call) (es : List (ω × Signal)) :
    Captured t₀ (log ++ t.journal es) := by
  induction es generalizing t log with
  | nil => exact h.silent fun _ => rfl
  | cons e es ih =>
    have hstep := ih (h.step ht new hargv hcall e.1 e.2) (ht.step new hargv hcall e.1 e.2)
      ((t.call_step e.1 e.2).trans hcall)
    rw [List.append_assoc] at hstep
    exact hstep

end Captured

/-! ## Kills -/

section Kill

variable {t : Task}

theorem after_append (t : Task) (es fs : List (ω × Signal)) :
    t.after (es ++ fs) = (t.after es).after fs := by
  induction es generalizing t with
  | nil => rfl
  | cons e es ih => exact ih (t.step e.1 e.2).1

theorem journal_append (t : Task) (es fs : List (ω × Signal)) :
    t.journal (es ++ fs) = t.journal es ++ (t.after es).journal fs := by
  induction es generalizing t with
  | nil => rfl
  | cons e es ih =>
    show t.notices e.1 e.2 ++ (t.step e.1 e.2).1.journal (es ++ fs) = _
    rw [ih, ← List.append_assoc]
    rfl

theorem after_of_over {r : Outcome} (h : t.outcome? = some r) (es : List (ω × Signal)) :
    t.after es = t := by
  induction es with
  | nil => rfl
  | cons e es ih =>
    show (t.step e.1 e.2).1.after es = t
    rw [step_of_over h]
    exact ih

theorem argv_ne_nil_of_hasProgram (hready : t.phase = .ready) {es : List (ω × Signal)}
    (h : (t.after es).hasProgram = true) : t.argv ≠ [] := by
  obtain ⟨index, argv, input, fed, stdout, stderr, phase⟩ := t
  cases hready
  rintro rfl
  induction es with
  | nil => cases h
  | cons e es ih =>
    obtain ⟨w, s⟩ := e
    cases s with
    | launched =>
      rw [show after _ ((w, .launched) :: es) = _ from after_of_over rfl es] at h
      cases h
    | refused cause =>
      rw [show after _ ((w, .refused cause) :: es) = _ from after_of_over rfl es] at h
      cases h
    | _ => exact ih h

theorem phase_killed (h : t.hasProgram = true) (w : ω) (out err : Option Cut) :
    (t.step w (.killed out err)).1.phase = .killing := by
  obtain ⟨index, argv, input, fed, stdout, stderr, phase⟩ := t
  cases phase with
  | ready => cases h
  | «over» => cases h
  | _ => rfl

theorem step_of_killing (h : t.phase = .killing) (w : ω) (s : Signal) :
    t.step w s = (t, w) ∧ t.notices w s = [] ∨
      ∃ waited, s = .exited waited ∧ t.step w s = t.conclude w .stopped ∧
        t.notices w s = .wait waited :: t.closeNotices w := by
  obtain ⟨index, argv, input, fed, stdout, stderr, phase⟩ := t
  cases h
  cases s with
  | exited waited => exact .inr ⟨waited, rfl, rfl, rfl⟩
  | _ => exact .inl ⟨rfl, rfl⟩

theorem exists_outcome_of_killing (h : t.phase = .killing) (meanwhile : List (ω × Signal)) (w : ω)
    (waited : Except IoError Int) (later : List (ω × Signal)) :
    ∃ r, (t.after (meanwhile ++ (w, .exited waited) :: later)).outcome? = some r := by
  have hended : ∀ (w : ω) (es : List (ω × Signal)),
      ∃ r, ((t.conclude w .stopped).1.after es).outcome? = some r := by
    intro w es
    have hover := (t.conclude w .stopped).1.after_of_over rfl es
    exact ⟨_, congrArg outcome? hover⟩
  induction meanwhile with
  | nil =>
    have hstep : t.step w (.exited waited) = t.conclude w .stopped := by simp [step, h]
    rw [List.nil_append, after, hstep]
    exact hended w later
  | cons e rest ih =>
    rw [List.cons_append, after]
    rcases t.step_of_killing h e.1 e.2 with ⟨hstep, -⟩ | ⟨_, -, hstep, -⟩
    · rw [hstep]
      exact ih
    · rw [hstep]
      exact hended e.1 _

theorem journal_of_over {r : Outcome} (h : t.outcome? = some r) (es : List (ω × Signal)) :
    t.journal es = [] := by
  induction es with
  | nil => rfl
  | cons e es ih =>
    show t.notices e.1 e.2 ++ (t.step e.1 e.2).1.journal es = []
    rw [notices_of_over h, step_of_over h]
    exact ih

/-- No line is accepted while a program that was killed is waited for. -/
theorem accepted_of_killing (h : t.phase = .killing) (es : List (ω × Signal)) (s : Stream) :
    Drain.accepted (output s (t.journal es)) = [] := by
  induction es with
  | nil => rfl
  | cons e es ih =>
    rw [journal]
    rcases t.step_of_killing h e.1 e.2 with ⟨hstep, hnone⟩ | ⟨_, -, hstep, hnotices⟩
    · rw [hstep, hnone]
      exact ih
    · rw [hstep, hnotices, journal_of_over rfl, List.append_nil, output_cons, output_closeNotices]
      rfl

theorem accepted_killed (h : t.hasProgram = true) (hphase : t.phase ≠ .killing) (w : ω)
    (out err : Option Cut) (s : Stream) :
    Drain.accepted (output s (t.notices w (.killed out err))) = [] := by
  have hsever : ∀ (x : Stream) (d : Drain) (cut : Option Cut),
      Drain.accepted (output s ((d.severNotices cut).map (.output x))) = [] := by
    intro x d cut
    rw [(map_output x _).2.2.2.2]
    split
    · exact Drain.accepted_severNotices d cut
    · rfl
  obtain ⟨index, argv, input, fed, stdout, stderr, phase⟩ := t
  cases phase with
  | ready => cases h
  | transferring =>
    show Drain.accepted (output s (_ ++ _ ++ [.kill])) = []
    rw [output_append, output_append, Drain.accepted_append, Drain.accepted_append, hsever, hsever]
    rfl
  | awaiting => rfl
  | killing => exact absurd rfl hphase
  | «over» => cases h

end Kill

/-! ## What is kept -/

omit [FileStore ω] in
/-- A task whose journal tells of no kill is not waiting for a killed program. -/
theorem Told.phase_ne_killing {t₀ t : Task} {log : List Notice} (h : Told t₀ log t) (new : t₀.IsNew)
    (hkill : wasKilled log = false) : t.phase ≠ .killing := by
  intro hphase
  cases h with
  | ready state =>
    rw [state, new.phase] at hphase
    cases hphase
  | transferring phase => cases phase.symm.trans hphase
  | awaiting phase => cases phase.symm.trans hphase
  | killing _ dying => cases hkill.symm.trans dying.killed
  | finished phase => cases phase.symm.trans hphase

section Outcome

variable {t : Task} (new : t.IsNew) (hargv : t.argv ≠ []) (es : List (ω × Signal))
include new hargv

theorem told_journal : Told t (t.journal es) (t.after es) :=
  (Told.ready rfl rfl).after new hargv rfl es

theorem captured_journal : Captured t (t.journal es) := by
  have hnone : Captured t [] := fun _ _ _ => rfl
  exact hnone.after (.ready rfl rfl) new hargv rfl es

theorem judged_of_outcome? {r : Outcome} (hr : (t.after es).outcome? = some r) :
    Judged t (t.journal es) r := by
  rcases (told_journal new hargv es).outcome?_cases new with ⟨hnone, -⟩ | ⟨r', hr', judged⟩
  · cases hnone.symm.trans hr
  · cases hr'.symm.trans hr
    exact judged

end Outcome

/-- An unkilled run has read the output `b` of the stream `s` to its end. -/
structure Completes (t : Task) (es : List (ω × Signal)) (s : Stream) (b : Bytes) (r : Outcome) :
    Prop where
  outcome : (t.after es).outcome? = some r
  unkilled : wasKilled (t.journal es) = false
  ended : Drain.end? (output s (t.journal es)) = some (.ok ())
  heard : Drain.heard (output s (t.journal es)) = b

theorem Completes.lines {t : Task} {es : List (ω × Signal)} {s : Stream} {b : Bytes} {r : Outcome}
    (h : t.Completes es s b r) (new : t.IsNew) (hargv : t.argv ≠ [])
    (hmem : (t.drain s).sink.target? = none) : r.lines s = Text.decodeLines b := by
  rw [(judged_of_outcome? new hargv es h.outcome).lines s, if_pos hmem,
    captured_journal new hargv es h.unkilled s hmem, Drain.drained_of_ended h.ended, h.heard]

/-- What a stage that was stopped kept of the output `b` of a stream; `log` tells what had happened
to the output before. -/
structure KeptOf (log : List Drain.Notice) (b : Bytes) (lines : List Text) : Prop where
  /-- The lines are those that a line feed ends in some first bytes of the output; an unfinished
  last line is among them only if the output had come to its end. -/
  cut : (∃ c, c <+: b ∧ lines = (Text.cutLines c).1.map Text.decodeLine) ∨
    Drain.end? log = some (.ok ()) ∧ lines = Text.decodeLines b
  first : lines <+: Text.decodeLines b

omit [FileStore ω] in
theorem keptOf_drained {log : List Drain.Notice} {b : Bytes} (h : Drain.ReadOf b log) :
    KeptOf log b (Drain.drained log) := by
  refine ⟨?_, h.drained_prefix⟩
  by_cases hend : Drain.end? log = some (.ok ())
  · rw [Drain.drained_of_ended hend, h.whole hend]
    exact .inr ⟨hend, rfl⟩
  · exact .inl ⟨_, h.first, Drain.drained_of_open hend⟩

/-- **A stage that is stopped keeps the first lines of what it printed**, whatever its program
printed, however that arrived in chunks, whenever the kill was taken and however long the program
then took to end: of each output that is captured in memory the lines that were drained before the
kill, which are the first ones that a run to completion with the same output keeps. -/
theorem kept_of_kill {t : Task} (new : t.IsNew) (es : List (ω × Signal))
    (hprogram : (t.after es).hasProgram = true) (hunkilled : wasKilled (t.journal es) = false)
    (w : ω) (out err : Option Cut) (meanwhile : List (ω × Signal)) (w' : ω)
    (waited : Except IoError Int) (later : List (ω × Signal)) :
    ∃ r, (t.after (es ++ (w, .killed out err) ::
        (meanwhile ++ (w', .exited waited) :: later))).outcome? = some r ∧
      ∀ s, (t.drain s).sink.target? = none →
        r.lines s = Drain.drained (output s (t.journal es)) ∧
        ∀ b, Drain.ReadOf b (output s (t.journal es)) →
          KeptOf (output s (t.journal es)) b (r.lines s) ∧
          ∀ (fs : List (ω × Signal)) r', t.Completes fs s b r' → r.lines s <+: r'.lines s := by
  have hargv := argv_ne_nil_of_hasProgram new.phase hprogram
  have hphase : (t.after es).phase ≠ .killing :=
    (told_journal new hargv es).phase_ne_killing new hunkilled
  have hkilling := phase_killed hprogram w out err
  obtain ⟨r, hr⟩ := exists_outcome_of_killing hkilling meanwhile w' waited later
  have hafter : (t.after (es ++ (w, .killed out err) ::
      (meanwhile ++ (w', .exited waited) :: later))).outcome? = some r := by
    rw [after_append]
    exact hr
  refine ⟨r, hafter, fun s hmem => ?_⟩
  have hlines : r.lines s = Drain.drained (output s (t.journal es)) := by
    rw [(judged_of_outcome? new hargv _ hafter).lines s, if_pos hmem, journal_append, journal,
      output_append, output_append, Drain.accepted_append, Drain.accepted_append,
      accepted_killed hprogram hphase, accepted_of_killing hkilling, List.append_nil,
      List.append_nil, captured_journal new hargv es hunkilled s hmem]
  refine ⟨hlines, fun b hb => ⟨?_, fun fs r' hfs => ?_⟩⟩
  · rw [hlines]
    exact keptOf_drained hb
  · rw [hlines, hfs.lines new hargv hmem]
    exact hb.drained_prefix

/-! ### A program that is cut short -/

/-- A stage with both outputs in memory. -/
def chatty : Task := { index := 0, argv := [['p']] }

/-- The program prints a line and begins another, and its error output comes to an end. -/
def firstHalf : List (Host × Signal) :=
  [({}, .launched), ({}, .printed .stdout [97, 10, 98]), ({}, .printed .stderr [120]),
    ({}, .ended .stderr)]

def secondHalf : List (Host × Signal) :=
  [({}, .printed .stdout [98, 10]), ({}, .ended .stdout), ({}, .exited (.ok 0))]

/-- The kill comes while the second line is printed, and the program prints on before it is dead;
the error output keeps its unfinished line. -/
theorem kept_of_kill_chatty :
    chatty.IsNew ∧ (chatty.after firstHalf).hasProgram = true ∧
      wasKilled (chatty.journal firstHalf) = false ∧
      ∃ r, (chatty.after (firstHalf ++ [(({} : Host), .killed none none),
          ({}, .printed .stdout [98, 10]), ({}, .exited (.ok 137))])).outcome? = some r ∧
        r.stdout = [['a']] ∧ r.stderr = [['x']] ∧
        KeptOf (output .stdout (chatty.journal firstHalf)) [97, 10, 98, 98, 10] r.stdout ∧
        ∃ r', chatty.Completes (firstHalf ++ secondHalf) .stdout [97, 10, 98, 98, 10] r' ∧
          r.stdout <+: r'.stdout := by
  have new : chatty.IsNew := by
    refine ⟨rfl, rfl, fun s => ?_⟩
    cases s with
    | stdout => exact ⟨rfl, rfl, fun lines h => by cases h; rfl⟩
    | stderr => exact ⟨rfl, rfl, fun lines h => by cases h; rfl⟩
  have hprogram : (chatty.after firstHalf).hasProgram = true := rfl
  have hunkilled : wasKilled (chatty.journal firstHalf) = false := by decide +kernel
  obtain ⟨r, hr, hkept⟩ := kept_of_kill new firstHalf hprogram hunkilled {} none none
    [({}, .printed .stdout [98, 10])] {} (.ok 137) []
  have hmem : (chatty.drain .stdout).sink.target? = none := rfl
  obtain ⟨hout, hprefix⟩ := hkept .stdout hmem
  obtain ⟨herr, -⟩ := hkept .stderr rfl
  have hread : Drain.ReadOf [97, 10, 98, 98, 10] (output .stdout (chatty.journal firstHalf)) :=
    ⟨by decide +kernel, by decide +kernel⟩
  obtain ⟨hcut, hfirst⟩ := hprefix _ hread
  have hcomplete : chatty.Completes (firstHalf ++ secondHalf) .stdout [97, 10, 98, 98, 10]
      { index := 0, argv := [['p']], status := .exited 0, stdout := [['a'], ['b', 'b']]
        stderr := [['x']] } :=
    ⟨by decide +kernel, by decide +kernel, by decide +kernel, by decide +kernel⟩
  refine ⟨new, hprogram, hunkilled, r, hr, ?_, ?_, hcut, _, hcomplete, hfirst _ _ hcomplete⟩
  · exact hout.trans (by decide +kernel)
  · exact herr.trans (by decide +kernel)

end Task

end Relay
