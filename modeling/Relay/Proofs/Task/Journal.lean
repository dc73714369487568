import Relay.Proofs.Handover
import Relay.Proofs.Task

/-!
# Journals

What a stage's outcome says can only be judged by what happened to the stage.  A journal tells that
in order: the program was started or not, feeding it ended, chunks were read, lines were pushed into
a sink, an output came to its end, the program was waited for, a kill was taken, a sink was closed.
Every notice carries the result that the operation had in the world that it met; nothing is assumed
about these worlds, so every operation may fail at any time.

`Task.journal` keeps the journal beside the steps of a task.  This module shows what it tells of one
output (`Drain.Told`): how draining ended, which bytes were read, and which lines the sink accepted,
all the lines of these bytes if the output was drained to its end.
-/

namespace Relay

variable {ω : Type} [FileStore ω]

/-! ## What happens to an output -/

namespace Drain

/-- Something that happens to an output or to its sink. -/
inductive Notice where
  | read (b : Bytes)
  | push (line : Text) (result : Except IoError Unit)
  /-- The output came to its end, or reading it failed. -/
  | ended (result : Except IoError Unit)
  | closed (result : Except IoError Unit)

namespace Notice

def bytes : Notice → Bytes
  | .read b => b
  | _ => []

def line? : Notice → Option Text
  | .push line (.ok ()) => some line
  | _ => none

/-- How draining ended: at the end of the output, by a failure to read, or by a line that the sink
refused. -/
def end? : Notice → Option (Except IoError Unit)
  | .push _ (.error e) => some (.error e)
  | .ended r => some r
  | _ => none

def closing? : Notice → Option (Except IoError Unit)
  | .closed r => some r
  | _ => none

end Notice

/-- All bytes that were read from an output. -/
def heard (log : List Notice) : Bytes := log.flatMap Notice.bytes

def accepted (log : List Notice) : List Text := log.filterMap Notice.line?

/-- How draining an output ended, once it has. -/
def end? (log : List Notice) : Option (Except IoError Unit) := log.findSome? Notice.end?

def closing? (log : List Notice) : Option (Except IoError Unit) := log.findSome? Notice.closing?

@[simp]
theorem heard_append (l m : List Notice) : heard (l ++ m) = heard l ++ heard m :=
  List.flatMap_append

@[simp]
theorem accepted_append (l m : List Notice) : accepted (l ++ m) = accepted l ++ accepted m :=
  List.filterMap_append

@[simp]
theorem end?_append (l m : List Notice) : end? (l ++ m) = (end? l).or (end? m) :=
  List.findSome?_append

@[simp]
theorem closing?_append (l m : List Notice) : closing? (l ++ m) = (closing? l).or (closing? m) :=
  List.findSome?_append

@[simp]
theorem heard_singleton (n : Notice) : heard [n] = n.bytes := List.append_nil _

@[simp]
theorem accepted_singleton (n : Notice) : accepted [n] = n.line?.toList := by
  cases h : n.line? <;> simp [accepted, h]

@[simp]
theorem end?_singleton (n : Notice) : end? [n] = n.end? := by
  cases h : n.end? <;> simp [end?, h]

@[simp]
theorem closing?_singleton (n : Notice) : closing? [n] = n.closing? := by
  cases h : n.closing? <;> simp [closing?, h]

/-! ## Lines on their way into a sink -/

/-- The notices of lines that a sink accepts. -/
def acceptance (lines : List Text) : List Notice := lines.map fun line => .push line (.ok ())

@[simp]
theorem heard_acceptance (lines : List Text) : heard (acceptance lines) = [] := by
  simp [heard, acceptance, List.flatMap_map, Notice.bytes]

@[simp]
theorem accepted_acceptance (lines : List Text) : accepted (acceptance lines) = lines := by
  induction lines with
  | nil => rfl
  | cons line rest ih => exact congrArg (line :: ·) ih

@[simp]
theorem end?_acceptance (lines : List Text) : end? (acceptance lines) = none := by
  induction lines with
  | nil => rfl
  | cons line rest ih => exact ih

@[simp]
theorem closing?_acceptance (lines : List Text) : closing? (acceptance lines) = none := by
  induction lines with
  | nil => rfl
  | cons line rest ih => exact ih

/-- The notices of lines that are pushed into a sink, up to the first that it refuses. -/
def pushNotices (k : Sink) (w : ω) : List Text → List Notice
  | [] => []
  | line :: rest =>
    match k.push w line with
    | (.ok (), k, w) => .push line (.ok ()) :: pushNotices k w rest
    | (.error e, _, _) => [.push line (.error e)]

theorem pushNotices_cases (k : Sink) (w : ω) (lines : List Text) :
    (k.pushAll w lines).1 = .ok () ∧ pushNotices k w lines = acceptance lines ∨
      ∃ e before line rest, lines = before ++ line :: rest ∧ (k.pushAll w lines).1 = .error e ∧
        pushNotices k w lines = acceptance before ++ [.push line (.error e)] := by
  induction lines generalizing k w with
  | nil => exact .inl ⟨rfl, rfl⟩
  | cons line rest ih =>
    rcases hpush : k.push w line with ⟨e | ⟨⟩, k', w'⟩
    · exact .inr ⟨e, [], line, rest, rfl, by rw [Sink.pushAll, hpush], by
        rw [pushNotices, hpush]; rfl⟩
    · rw [Sink.pushAll, pushNotices, hpush]
      rcases ih k' w' with ⟨hok, hn⟩ | ⟨e, before, refused, after, rfl, herr, hn⟩
      · exact .inl ⟨hok, congrArg (_ :: ·) hn⟩
      · exact .inr ⟨e, line :: before, refused, after, rfl, herr, congrArg (_ :: ·) hn⟩

/-! ## The journal of an output -/

def takeNotices (d : Drain) (w : ω) (b : Bytes) : List Notice :=
  if d.result.isSome then []
  else
    .read b :: pushNotices d.sink w ((Text.cutLines (d.unfinished ++ b)).1.map Text.decodeLine)

/-- The notices of the end of an output; it is seen once the last line is accepted. -/
def closeNotices (d : Drain) (w : ω) : List Notice :=
  if d.result.isSome then []
  else
    let lines := Text.decodeRest d.unfinished
    match (d.sink.pushAll w lines).1 with
    | .ok () => pushNotices d.sink w lines ++ [.ended (.ok ())]
    | .error _ => pushNotices d.sink w lines

def breakNotices (d : Drain) (cause : IoError) : List Notice :=
  if d.result.isSome then [] else [.ended (.error cause)]

/-- What a line on its way into a sink tells: its chunk was read, or the output came to its end. -/
def cutNotice (cut : Cut) : Notice :=
  match cut.chunk with
  | some b => .read b
  | none => .ended (.ok ())

def severNotices (d : Drain) (cut : Option Cut) : List Notice :=
  if d.result.isSome then [] else (cut.map cutNotice).toList

/-- A drain that has taken in nothing. -/
structure IsNew (d : Drain) : Prop where
  unfinished : d.unfinished = []
  result : d.result = none
  kept : ∀ lines, d.sink = .memory lines → lines = #[]

/-- What the journal of an output tells of its sink, whatever happens. -/
structure Kept (log : List Notice) (d : Drain) : Prop where
  /-- The sink in memory holds the lines that it accepted. -/
  lines : ∀ lines, d.sink = .memory lines → lines.toList = accepted log
  /-- The sink accepted lines that were read, in order and without a gap. -/
  heard : accepted log <+: Text.decodeLines (heard log)
  unclosed : closing? log = none

/-- What the journal of an output tells of its drain. -/
structure Told (log : List Notice) (d : Drain) : Prop extends Kept log d where
  result : d.result = end? log
  /-- While the output is read, the drain holds what follows the last line feed. -/
  unfinished : d.result = none → d.unfinished = (Text.cutLines (Drain.heard log)).2
  /-- Until then the sink accepted every line that ended. -/
  accepted : d.result = none →
    accepted log = (Text.cutLines (Drain.heard log)).1.map Text.decodeLine
  /-- At the end of the output the sink has accepted every line. -/
  complete : d.result = some (.ok ()) → Drain.accepted log = Text.decodeLines (Drain.heard log)

omit [FileStore ω] in
theorem IsNew.told {d : Drain} (h : d.IsNew) : d.Told [] := by
  refine ⟨⟨fun lines hs => ?_, List.nil_prefix, rfl⟩, h.result, fun _ => h.unfinished,
    fun _ => rfl, fun _ => rfl⟩
  rw [h.kept lines hs]
  rfl

/-! ### Taking lines in -/

theorem takeLines_sink (d : Drain) (w : ω) (lines : List Text) :
    (d.takeLines w lines).1.sink = (d.sink.pushAll w lines).2.1 := by
  unfold takeLines
  split
  · rename_i heq
    rw [heq]
  · rename_i heq
    rw [heq]

theorem takeLines_unfinished (d : Drain) (w : ω) (lines : List Text) :
    (d.takeLines w lines).1.unfinished = d.unfinished := by
  unfold takeLines
  split <;> rfl

theorem takeLines_result_of_ok {d : Drain} {w : ω} {lines : List Text}
    (h : (d.sink.pushAll w lines).1 = .ok ()) : (d.takeLines w lines).1.result = d.result := by
  unfold takeLines
  split
  · rfl
  · rename_i heq
    rw [heq] at h
    cases h

theorem takeLines_result_of_error {d : Drain} {w : ω} {lines : List Text} {e : IoError}
    (h : (d.sink.pushAll w lines).1 = .error e) :
    (d.takeLines w lines).1.result = some (.error e) := by
  unfold takeLines
  split
  · rename_i heq
    rw [heq] at h
    cases h
  · rename_i heq
    rw [heq] at h
    cases h
    rfl

theorem sink_takeLines_memory {d : Drain} {w : ω} {lines : List Text} {ls : Array Text}
    (h : (d.takeLines w lines).1.sink = .memory ls) :
    ∃ ls₀, d.sink = .memory ls₀ ∧ ls.toList = ls₀.toList ++ lines ∧
      pushNotices d.sink w lines = acceptance lines := by
  rw [takeLines_sink] at h
  cases hd : d.sink with
  | file f =>
    have ht := ((Sink.file f).pushAll_within (Sink.keeps_true _) w lines).target?
    rw [← hd, h, hd] at ht
    cases ht
  | memory ls₀ =>
    have hp := Sink.pushAll_memory ls₀ w lines
    rw [hd, hp] at h
    cases h
    refine ⟨ls₀, rfl, by simp, ?_⟩
    rcases pushNotices_cases (.memory ls₀) w lines with ⟨-, hn⟩ | ⟨e, _, _, _, _, he, -⟩
    · exact hn
    · rw [hp] at he
      cases he

theorem accepted_pushNotices (k : Sink) (w : ω) (lines : List Text) :
    accepted (pushNotices k w lines) <+: lines := by
  rcases pushNotices_cases k w lines with ⟨-, hn⟩ | ⟨e, before, line, rest, rfl, -, hn⟩
  · simp [hn]
  · rw [hn, accepted_append, accepted_acceptance, accepted_singleton]
    exact (List.prefix_append_right_inj _).2 List.nil_prefix

@[simp]
theorem heard_pushNotices (k : Sink) (w : ω) (lines : List Text) :
    heard (pushNotices k w lines) = [] := by
  rcases pushNotices_cases k w lines with ⟨-, hn⟩ | ⟨e, before, line, rest, rfl, -, hn⟩
  · rw [hn, heard_acceptance]
  · rw [hn, heard_append, heard_acceptance]
    rfl

@[simp]
theorem closing?_pushNotices (k : Sink) (w : ω) (lines : List Text) :
    closing? (pushNotices k w lines) = none := by
  rcases pushNotices_cases k w lines with ⟨-, hn⟩ | ⟨e, before, line, rest, rfl, -, hn⟩
  · rw [hn, closing?_acceptance]
  · rw [hn, closing?_append, closing?_acceptance]
    rfl

theorem takeLines_cases (d : Drain) (w : ω) (lines : List Text) :
    (d.takeLines w lines).1.result = d.result ∧ end? (pushNotices d.sink w lines) = none ∧
        accepted (pushNotices d.sink w lines) = lines ∨
      ∃ e, (d.takeLines w lines).1.result = some (.error e) ∧ end? (pushNotices d.sink w lines) =
        some (.error e) := by
  rcases pushNotices_cases d.sink w lines with ⟨hok, hn⟩ | ⟨e, before, line, rest, -, herr, hn⟩
  · exact .inl ⟨takeLines_result_of_ok hok, by rw [hn, end?_acceptance],
      by rw [hn, accepted_acceptance]⟩
  · refine .inr ⟨e, takeLines_result_of_error herr, ?_⟩
    rw [hn, end?_append, end?_acceptance]
    rfl

theorem Kept.takeLines {log : List Notice} {d : Drain} (h : d.Kept log) (w : ω)
    {lines : List Text} (hle : Drain.accepted log ++ lines <+: Text.decodeLines (Drain.heard log)) :
    (d.takeLines w lines).1.Kept (log ++ pushNotices d.sink w lines) := by
  constructor
  · intro ls hs
    obtain ⟨ls₀, hd, hls, hn⟩ := sink_takeLines_memory hs
    rw [hn, accepted_append, accepted_acceptance, ← h.lines ls₀ hd, hls]
  · rw [heard_append, heard_pushNotices, List.append_nil, accepted_append]
    exact ((List.prefix_append_right_inj _).2 (accepted_pushNotices _ _ _)).trans hle
  · rw [closing?_append, closing?_pushNotices, h.unclosed]
    rfl

theorem Kept.read {log : List Notice} {d : Drain} (h : d.Kept log) (b : Bytes)
    (hle : Drain.accepted log <+: Text.decodeLines (Drain.heard log ++ b)) :
    d.Kept (log ++ [.read b]) := by
  constructor
  · intro ls hs
    rw [h.lines ls hs]
    simp [Notice.line?]
  · simpa [Notice.line?, Notice.bytes] using hle
  · rw [closing?_append, h.unclosed]
    rfl

theorem Kept.settle {log : List Notice} {d : Drain} (h : d.Kept log)
    (r told : Except IoError Unit) : (d.settle r).Kept (log ++ [.ended told]) := by
  constructor
  · intro ls hs
    rw [h.lines ls hs]
    simp [Notice.line?]
  · simpa [Notice.line?, Notice.bytes] using h.heard
  · rw [closing?_append, h.unclosed]
    rfl

theorem Told.ended_prefix {log : List Notice} {d : Drain} (h : d.Told log) (hr : d.result = none)
    (b : Bytes) : Drain.accepted log ++
      (Text.cutLines (d.unfinished ++ b)).1.map Text.decodeLine <+:
        Text.decodeLines (Drain.heard log ++ b) := by
  have hcut : (Text.cutLines (Drain.heard log ++ b)).1.map Text.decodeLine =
      Drain.accepted log ++ (Text.cutLines (d.unfinished ++ b)).1.map Text.decodeLine := by
    rw [Text.cutLines_append, h.accepted hr, h.unfinished hr, List.map_append]
  rw [← hcut]
  exact List.prefix_append _ _

theorem Kept.told_takeLines {log : List Notice} {d : Drain} (h : d.Kept log) (w : ω)
    {lines : List Text} (hr : d.result = none) (hend : end? log = none)
    (hrest : d.unfinished = (Text.cutLines (Drain.heard log)).2)
    (hlines : Drain.accepted log ++ lines =
      (Text.cutLines (Drain.heard log)).1.map Text.decodeLine) :
    (d.takeLines w lines).1.Told (log ++ pushNotices d.sink w lines) := by
  have hle : Drain.accepted log ++ lines <+: Text.decodeLines (Drain.heard log) := by
    rw [hlines]
    exact List.prefix_append _ _
  rcases d.takeLines_cases w lines with ⟨hres, hnone, hacc⟩ | ⟨e, hres, hsome⟩
  · rw [hr] at hres
    refine ⟨h.takeLines w hle, ?_, fun _ => ?_, fun _ => ?_, fun hok => ?_⟩
    · rw [hres, end?_append, hend, hnone]
      rfl
    · rw [takeLines_unfinished, hrest]
      simp
    · rw [accepted_append, hacc, hlines]
      simp
    · rw [hres] at hok
      cases hok
  · refine ⟨h.takeLines w hle, ?_, fun hno => ?_, fun hno => ?_, fun hok => ?_⟩
    · rw [hres, end?_append, hend, hsome]
      rfl
    · rw [hres] at hno
      cases hno
    · rw [hres] at hno
      cases hno
    · rw [hres] at hok
      cases hok

theorem Told.take {log : List Notice} {d : Drain} (h : d.Told log) (w : ω) (b : Bytes) :
    (d.take w b).1.Told (log ++ d.takeNotices w b) := by
  cases hr : d.result with
  | some r => simpa [Drain.take, takeNotices, hr] using h
  | none =>
    have hend : end? log = none := h.result.symm.trans hr
    have hle := h.ended_prefix hr b
    have hkept := h.toKept.read b ((List.prefix_append _ _).trans hle)
    have hread : Kept (log ++ [.read b])
        { d with unfinished := (Text.cutLines (d.unfinished ++ b)).2 } :=
      ⟨hkept.lines, hkept.heard, hkept.unclosed⟩
    have hcut := Text.cutLines_append (Drain.heard log) b
    rw [← h.unfinished hr] at hcut
    have heq : d.take w b = { d with unfinished := (Text.cutLines (d.unfinished ++ b)).2 }.takeLines
        w ((Text.cutLines (d.unfinished ++ b)).1.map Text.decodeLine) := by
      simp [Drain.take, hr]
    have hnotices : d.takeNotices w b = [.read b] ++
        pushNotices d.sink w ((Text.cutLines (d.unfinished ++ b)).1.map Text.decodeLine) := by
      simp [takeNotices, hr]
    rw [heq, hnotices, ← List.append_assoc]
    refine hread.told_takeLines w hr ?_ ?_ ?_
    · simp [hend, Notice.end?]
    · simp [hcut, Notice.bytes]
    · simp [hcut, h.accepted hr, Notice.bytes, Notice.line?]

theorem Told.close {log : List Notice} {d : Drain} (h : d.Told log) (w : ω) :
    (d.close w).1.Told (log ++ d.closeNotices w) := by
  cases hr : d.result with
  | some r => simpa [Drain.close, closeNotices, hr] using h
  | none =>
    have hend : end? log = none := h.result.symm.trans hr
    have hall : Drain.accepted log ++ Text.decodeRest d.unfinished =
        Text.decodeLines (Drain.heard log) := by
      rw [h.accepted hr, h.unfinished hr]
      rfl
    have hfinal : Kept log { d with unfinished := [] } := ⟨h.lines, h.heard, h.unclosed⟩
    have hle : Drain.accepted log ++ Text.decodeRest d.unfinished <+:
        Text.decodeLines (Drain.heard log) := by
      simp [hall]
    have hkept := hfinal.takeLines w hle
    have heq : (d.close w).1 =
        ({ d with unfinished := [] }.takeLines w (Text.decodeRest d.unfinished)).1.settle
          (.ok ()) := by
      simp [Drain.close, hr]
    rw [heq]
    rcases pushNotices_cases d.sink w (Text.decodeRest d.unfinished) with
      ⟨hok, hn⟩ | ⟨e, before, line, rest, -, herr, hn⟩
    · have hres := (takeLines_result_of_ok (d := { d with unfinished := [] }) hok).trans hr
      have hnotices : d.closeNotices w =
          pushNotices d.sink w (Text.decodeRest d.unfinished) ++ [.ended (.ok ())] := by
        simp [closeNotices, hr, hok]
      rw [hnotices, ← List.append_assoc]
      refine ⟨hkept.settle _ _, ?_, fun hno => ?_, fun hno => ?_, fun _ => ?_⟩
      · rw [end?_append, end?_append, hend, hn, end?_acceptance]
        simp [settle, hres, Notice.end?]
      · simp [settle] at hno
      · simp [settle] at hno
      · simp [hn, hall, Notice.line?, Notice.bytes]
    · have hres := takeLines_result_of_error (d := { d with unfinished := [] }) herr
      have hnotices : d.closeNotices w =
          pushNotices d.sink w (Text.decodeRest d.unfinished) := by
        simp [closeNotices, hr, herr]
      rw [hnotices]
      refine ⟨⟨hkept.lines, hkept.heard, hkept.unclosed⟩, ?_, fun hno => ?_, fun hno => ?_,
        fun hok => ?_⟩
      · rw [end?_append, hend, hn, end?_append, end?_acceptance]
        simp [settle, hres, Notice.end?]
      · simp [settle] at hno
      · simp [settle] at hno
      · simp [settle, hres] at hok

/-- Reading the output fails. -/
theorem Told.breakOff {log : List Notice} {d : Drain} (h : d.Told log) (cause : IoError) :
    (d.settle (.error cause)).Told (log ++ d.breakNotices cause) := by
  cases hr : d.result with
  | some r =>
    have heq : d.settle (.error cause) = d := by
      unfold settle
      rw [hr]
      exact congrArg (Drain.mk d.sink d.unfinished) hr.symm
    rw [heq]
    simpa [breakNotices, hr] using h
  | none =>
    have hend : end? log = none := h.result.symm.trans hr
    have hnotices : d.breakNotices cause = [.ended (.error cause)] := by
      simp [breakNotices, hr]
    rw [hnotices]
    refine ⟨h.toKept.settle _ _, ?_, fun hno => ?_, fun hno => ?_, fun hok => ?_⟩
    · simp [settle, hr, hend, Notice.end?]
    · simp [settle] at hno
    · simp [settle] at hno
    · simp [settle, hr] at hok

/-- A kill interrupts draining; a line that is on its way does not count as accepted. -/
theorem Told.sever {log : List Notice} {d : Drain} (h : d.Told log) (w : ω) (cut : Option Cut) :
    (d.sever w cut).1.Kept (log ++ d.severNotices cut) := by
  have hread : d.Kept (log ++ d.severNotices cut) := by
    cases hr : d.result with
    | some r => simpa [severNotices, hr] using h.toKept
    | none =>
      rcases cut with _ | ⟨_ | b, taken⟩
      · simpa [severNotices, hr] using h.toKept
      · have hended := h.toKept.settle (.ok ()) (.ok ())
        simpa [severNotices, hr, cutNotice] using
          (⟨hended.lines, hended.heard, hended.unclosed⟩ : d.Kept _)
      · have hle := (List.prefix_append _ _).trans (h.ended_prefix hr b)
        simpa [severNotices, hr, cutNotice] using h.toKept.read b hle
  have hsink : ∀ ls, (d.sever w cut).1.sink = .memory ls → d.sink = .memory ls := by
    intro ls hs
    unfold Drain.sever at hs
    split at hs
    · exact hs
    · split at hs
      · exact hs
      · cases hd : d.sink with
        | memory ls₀ =>
          rw [hd] at hs
          exact hs
        | file f =>
          rw [hd] at hs
          cases hs
  exact ⟨fun ls hs => hread.lines ls (hsink ls hs), hread.heard, hread.unclosed⟩

end Drain

/-! ## What happens to a stage -/

namespace Task

/-- Something that happens to a stage. -/
inductive Notice where
  /-- The program was started, or could not be. -/
  | launch (result : Except IoError Unit)
  /-- All input was written, or writing it failed. -/
  | feed (result : Except IoError Unit)
  /-- Something happened to an output. -/
  | output (s : Stream) (n : Drain.Notice)
  /-- Waiting for the program gave its code, or failed. -/
  | wait (result : Except IoError Int)
  | kill

namespace Notice

def launch? : Notice → Option (Except IoError Unit)
  | .launch r => some r
  | _ => none

def feed? : Notice → Option (Except IoError Unit)
  | .feed r => some r
  | _ => none

def output? (s : Stream) : Notice → Option Drain.Notice
  | .output x n => if x = s then some n else none
  | _ => none

def wait? : Notice → Option (Except IoError Int)
  | .wait r => some r
  | _ => none

def isKill : Notice → Bool
  | .kill => true
  | _ => false

end Notice

def launch? (log : List Notice) : Option (Except IoError Unit) := log.findSome? Notice.launch?

def feed? (log : List Notice) : Option (Except IoError Unit) := log.findSome? Notice.feed?

def output (s : Stream) (log : List Notice) : List Drain.Notice := log.filterMap (Notice.output? s)

def wait? (log : List Notice) : Option (Except IoError Int) := log.findSome? Notice.wait?

def wasKilled (log : List Notice) : Bool := log.any Notice.isKill

def closeNotices (t : Task) (w : ω) : List Notice :=
  let (out, w) := t.stdout.sink.finish w
  let (err, _) := t.stderr.sink.finish w
  [.output .stdout (.closed (out.map fun _ => ())), .output .stderr (.closed (err.map fun _ => ()))]

/-- The notices of a signal.  A program without input is fed as soon as it is started. -/
def notices (t : Task) (w : ω) (signal : Signal) : List Notice :=
  match t.phase, signal with
  | .ready, .launched =>
    match t.argv with
    | [] => []
    | _ :: _ => .launch (.ok ()) :: if t.input.isEmpty then [.feed (.ok ())] else []
  | .ready, .refused cause =>
    match t.argv with
    | [] => []
    | _ :: _ => .launch (.error cause) :: t.closeNotices w
  | .transferring, .fed r => if t.fed.isSome then [] else [.feed r]
  | .transferring, .printed s b => ((t.drain s).takeNotices w b).map (.output s)
  | .transferring, .ended s => ((t.drain s).closeNotices w).map (.output s)
  | .transferring, .broken s cause => ((t.drain s).breakNotices cause).map (.output s)
  | .awaiting _, .exited waited => .wait waited :: t.closeNotices w
  | .transferring, .killed out err =>
    (t.stdout.severNotices out).map (.output .stdout) ++
      (t.stderr.severNotices err).map (.output .stderr) ++ [.kill]
  | .awaiting _, .killed _ _ => [.kill]
  | .killing, .exited waited => .wait waited :: t.closeNotices w
  | _, _ => []

theorem notices_of_over {t : Task} {r : Outcome} (h : t.outcome? = some r) (w : ω) (s : Signal) :
    t.notices w s = [] := by
  obtain ⟨index, argv, input, fed, stdout, stderr, phase⟩ := t
  cases phase with
  | «over» r' => rfl
  | _ => cases h

/-- A task after several signals, each of which arrives in a world of its own. -/
def after (t : Task) : List (ω × Signal) → Task
  | [] => t
  | (w, signal) :: rest => (t.step w signal).1.after rest

/-- What happened to a stage during several signals. -/
def journal (t : Task) : List (ω × Signal) → List Notice
  | [] => []
  | (w, signal) :: rest => t.notices w signal ++ (t.step w signal).1.journal rest

end Task

end Relay
