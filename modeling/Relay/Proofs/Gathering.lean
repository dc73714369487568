import Relay.Proofs.Files.Host
import Relay.Proofs.Task.Verdict

/-!
# What a redirect file gathers

A sink whose file is a regular one, open at its end, never fails, and what it was given stands
behind what the file held: partly in the file, partly in the sink's buffer (`FileSink.Gathers`).
Finishing the sink hands the buffer on.  A task thus adds to its redirect file the lines that the
sink accepted, each with its line feed, and after a kill perhaps a part of the next line
(`Task.Gathers`).
-/

namespace Relay

/-! ## Sinks -/

namespace FileSink

/-- A sink's file is the regular file `n`, open at its end, and no failure waits to be reported;
what the file holds and the buffer behind it are the bytes `c`. -/
structure Gathers (s : FileSink) (h : Host) (n : Nat) (c : Bytes) : Prop where
  atEnd : h.files.AtEnd s.descriptor n
  unreported : s.unreported = none
  gathered : h.files.content n ++ s.buffer.toList = c

variable {s : FileSink} {h : Host} {n : Nat} {c : Bytes}

theorem handOn_eq (hat : h.files.AtEnd s.descriptor n) (hun : s.unreported = none) (b : Bytes) :
    ∃ h', s.handOn h b = (.ok (), s, h') ∧ h'.files.AtEnd s.descriptor n ∧
      h'.files.content n = h.files.content n ++ b := by
  obtain ⟨hok, hat', hcontent⟩ := hat.write b
  have hwrite : FileStore.write h s.descriptor b = (.ok (), (h.write s.descriptor b).2) := by
    show ((h.files.write s.descriptor b).1.mapError IoError.os, _) = _
    rw [hok]
    rfl
  refine ⟨(h.write s.descriptor b).2, ?_, hat', hcontent⟩
  unfold handOn
  rw [hun]
  dsimp only
  rw [hwrite]

theorem Gathers.flush (hg : s.Gathers h n c) :
    ∃ h', s.flush h = (.ok (), { s with buffer := #[] }, h') ∧
      { s with buffer := #[] }.Gathers h' n c := by
  unfold FileSink.flush
  by_cases hb : s.buffer.isEmpty = true
  · rw [if_pos hb]
    have hempty : s.buffer = #[] := Array.isEmpty_iff.1 hb
    have hs : { s with buffer := #[] } = s := by rw [← hempty]
    rw [hs]
    exact ⟨h, rfl, hg⟩
  · rw [if_neg hb]
    obtain ⟨h', he, hat', hcontent⟩ := handOn_eq hg.atEnd hg.unreported s.buffer.toList
    rw [he]
    refine ⟨h', rfl, hat', hg.unreported, ?_⟩
    rw [hcontent, hg.gathered]
    exact List.append_nil c

theorem Gathers.room (hg : s.Gathers h n c) {m : Nat} {r : Except IoError Unit} {s' : FileSink}
    {h' : Host}
    (he : (if capacity < s.buffer.size + m then s.flush h else (.ok (), s, h)) = (r, s', h')) :
    r = .ok () ∧ s'.Gathers h' n c ∧ (¬ m < capacity → s'.buffer = #[]) := by
  by_cases hc : capacity < s.buffer.size + m
  · rw [if_pos hc] at he
    obtain ⟨h₁, hflush, hg'⟩ := hg.flush
    rw [hflush] at he
    cases he
    exact ⟨rfl, hg', fun _ => rfl⟩
  · rw [if_neg hc] at he
    cases he
    refine ⟨rfl, hg, fun hm => ?_⟩
    have hsize : s.buffer.size = 0 := by omega
    exact Array.eq_empty_of_size_eq_zero hsize

/-- Bytes that are handed on past an empty buffer. -/
theorem Gathers.handOn (hg : s.Gathers h n c) (hempty : s.buffer = #[]) (b : Bytes) :
    ∃ h', s.handOn h b = (.ok (), s, h') ∧ s.Gathers h' n (c ++ b) := by
  obtain ⟨h', he, hat', hcontent⟩ := handOn_eq hg.atEnd hg.unreported b
  refine ⟨h', he, hat', hg.unreported, ?_⟩
  have hgathered := hg.gathered
  rw [hempty] at hgathered ⊢
  rw [hcontent, ← hgathered]
  simp

theorem put_gathers (s : FileSink) (h : Host) (b : Bytes) {n : Nat} :
    ∀ {c : Bytes}, s.Gathers h n c →
      (s.put h b).1 = .ok () ∧ (s.put h b).2.1.Gathers (s.put h b).2.2 n (c ++ b) := by
  fun_induction put s h b with
  | case1 s h b m =>
    rename_i hm
    intro c hg
    have hb : b = [] := List.length_eq_zero_iff.1 hm
    rw [hb, List.append_nil]
    exact ⟨rfl, hg⟩
  | case2 s h b m hm s' h' e =>
    rename_i hroom
    intro c hg
    obtain ⟨he, -, -⟩ := hg.room hroom
    cases he
  | case3 s h b m hm s' h' hlt =>
    rename_i hroom
    intro c hg
    obtain ⟨-, hg', -⟩ := hg.room hroom
    refine ⟨rfl, hg'.atEnd, hg'.unreported, ?_⟩
    rw [← hg'.gathered]
    simp
  | case4 s h b m hm s' h' hge s'' h'' hmade hroom =>
    rename_i ih
    intro c hg
    obtain ⟨-, hg', hempty⟩ := hg.room hroom
    obtain ⟨h₁, he, hg''⟩ := hg'.handOn (hempty hge) (b.take largestWrite)
    rw [he] at hmade
    cases hmade
    have hrest := ih hg''
    rw [List.append_assoc, List.take_append_drop] at hrest
    exact hrest
  | case5 s h b m hm s' h' hge hroom =>
    rename_i hfailed
    intro c hg
    obtain ⟨-, hg', hempty⟩ := hg.room hroom
    obtain ⟨h₁, he, -⟩ := hg'.handOn (hempty hge) (b.take largestWrite)
    exact absurd he (hfailed _ _)

theorem Gathers.putLine (hg : s.Gathers h n c) (line : Text) :
    (s.putLine h line).1 = .ok () ∧
      (s.putLine h line).2.1.Gathers (s.putLine h line).2.2 n
        (c ++ (Text.utf8 line ++ [Text.lineFeed])) := by
  obtain ⟨hok, hg'⟩ := s.put_gathers h (Text.utf8 line) hg
  unfold FileSink.putLine
  split
  · rename_i s' h' he
    rw [he] at hg'
    rw [← List.append_assoc]
    exact s'.put_gathers h' _ hg'
  · rename_i hfailed
    exact (hfailed _ _ (Prod.ext hok rfl)).elim

theorem Gathers.finish (hg : s.Gathers h n c) :
    (s.finish h).1 = .ok () ∧ (s.finish h).2.files.content n = c := by
  obtain ⟨h', he, hg'⟩ := hg.flush
  have hcontent : h'.files.content n = c := (List.append_nil _).symm.trans hg'.gathered
  unfold FileSink.finish
  rw [he]
  dsimp only
  rw [hg.unreported]
  exact ⟨rfl, hcontent⟩

end FileSink

namespace Sink

/-- A redirect sink gathers bytes in a regular file. -/
def Gathers (k : Sink) (h : Host) (n : Nat) (c : Bytes) : Prop :=
  ∃ f, k = .file f ∧ f.Gathers h n c

variable {k : Sink} {h : Host} {n : Nat} {c : Bytes}

/-- A sink on a regular file gathers behind what the file held, or from an empty file. -/
theorem gathers_opened {h' : Host} {x : Text} {mode : OpenMode} {d : Nat} (hs : h.files.Sound)
    (ho : h.openTarget x mode = .ok (d, h')) (hmode : mode ≠ .update)
    (hn : h'.number? x = some n) :
    (Sink.file { target := x, descriptor := d }).Gathers h' n
      (if mode = .truncate then [] else (h.bytes? x).getD []) := by
  obtain ⟨hat, hcontent⟩ := Host.atEnd_of_openTarget hs ho hmode hn
  refine ⟨_, rfl, hat, rfl, ?_⟩
  rw [hcontent]
  exact List.append_nil _

theorem Gathers.pushAll (hg : k.Gathers h n c) (lines : List Text) :
    (k.pushAll h lines).1 = .ok () ∧
      (k.pushAll h lines).2.1.Gathers (k.pushAll h lines).2.2 n (c ++ Text.encodeLines lines) := by
  induction lines generalizing k h c with
  | nil =>
    refine ⟨rfl, ?_⟩
    have hnil : Text.encodeLines [] = [] := rfl
    rw [hnil, List.append_nil]
    exact hg
  | cons line rest ih =>
    obtain ⟨f, rfl, hf⟩ := hg
    obtain ⟨hok, hline⟩ := hf.putLine line
    have hpush : (Sink.file f).push h line =
        (.ok (), .file (f.putLine h line).2.1, (f.putLine h line).2.2) := by
      unfold push
      dsimp only
      rw [hok]
    have hcons : Text.encodeLines (line :: rest) =
        (Text.utf8 line ++ [Text.lineFeed]) ++ Text.encodeLines rest := rfl
    rw [Sink.pushAll, hpush, hcons, ← List.append_assoc]
    exact ih ⟨_, rfl, hline⟩

theorem Gathers.pushPart (hg : k.Gathers h n c) (line : Text) (m : Nat) :
    (k.pushPart h line m).1.Gathers (k.pushPart h line m).2 n
      (c ++ (Text.utf8 line ++ [Text.lineFeed]).take m) := by
  obtain ⟨f, rfl, hf⟩ := hg
  exact ⟨_, rfl, (f.put_gathers h _ hf).2⟩

theorem Gathers.finish (hg : k.Gathers h n c) : (k.finish h).2.files.content n = c := by
  obtain ⟨f, rfl, hf⟩ := hg
  exact hf.finish.2

/-- All that a sink does to a host is writing to its descriptor and closing it. -/
theorem keeps_wrote_of {k : Sink} {ds : List Nat} (hd : ∀ d, k.descriptor? = some d → d ∈ ds) :
    k.Keeps (Host.Wrote ds) := by
  have hle : ∀ d, k.descriptor? = some d → [d] ⊆ ds := by
    intro d hk d' hd'
    rw [List.mem_singleton.1 hd']
    exact hd d hk
  exact ⟨Host.Wrote.refl ds, Host.Wrote.trans, fun d hk w b => (w.wrote_write d b).mono (hle d hk),
    fun d hk w => (w.wrote_close d).mono (hle d hk)⟩

theorem keeps_wrote (k : Sink) : k.Keeps (Host.Wrote k.descriptor?.toList) :=
  keeps_wrote_of fun _ hd => Option.mem_toList.2 hd

theorem Gathers.of_same (hg : k.Gathers h n c) {h' : Host}
    (hopen : ∀ d, k.descriptor? = some d → h'.files.openFile? d = h.files.openFile? d)
    (hcontent : h'.files.content n = h.files.content n) (hrec : n < h'.files.records.length) :
    k.Gathers h' n c := by
  obtain ⟨f, rfl, hf⟩ := hg
  refine ⟨f, rfl, hf.atEnd.of_same (hopen f.descriptor rfl) hcontent hrec, hf.unreported, ?_⟩
  rw [hcontent]
  exact hf.gathered

theorem Gathers.wrote (hg : k.Gathers h n c) {ds : List Nat} {h' : Host} (hw : h.Wrote ds h')
    (hd : ∀ d ∈ ds, k.descriptor? ≠ some d)
    (hn : ∀ d ∈ ds, ∀ f, h.files.openFile? d = some f → f.entry ≠ .regular n) :
    k.Gathers h' n c := by
  have hrec : n < h'.files.records.length := by
    obtain ⟨f, -, hf⟩ := hg
    rw [hw.files.records]
    exact hf.atEnd.record
  exact hg.of_same (fun d hk => hw.files.openFile? d fun hm => hd d hm hk) (hw.files.content n hn)
    hrec

/-- What one sink writes does not reach the file `n`, in which another one gathers. -/
structure Apart (k k' : Sink) (h : Host) (n : Nat) : Prop where
  descriptor : ∀ d, k'.descriptor? = some d → k.descriptor? ≠ some d
  elsewhere : ∀ d, k'.descriptor? = some d → ∀ f, h.files.openFile? d = some f →
    f.entry ≠ .regular n

theorem Apart.wrote {k k' k₁ k₁' : Sink} {h h₁ : Host} {n : Nat} {ds : List Nat}
    (ha : k.Apart k' h n) (hk : k₁.identity? = k.identity?) (hk' : k₁'.identity? = k'.identity?)
    (hw : h.Wrote ds h₁) : k₁.Apart k₁' h₁ n := by
  have hd : k₁.descriptor? = k.descriptor? := congrArg (Option.map Prod.snd) hk
  have hd' : k₁'.descriptor? = k'.descriptor? := congrArg (Option.map Prod.snd) hk'
  refine ⟨?_, fun d hm f' hf' => ?_⟩
  · rw [hd, hd']
    exact ha.descriptor
  · rw [hd'] at hm
    obtain ⟨f, hf, hentry⟩ := hw.files.entry d f' hf'
    rw [hentry]
    exact ha.elsewhere d hm f hf

theorem Gathers.beside {k' : Sink} (hg : k.Gathers h n c) (ha : k.Apart k' h n) {h' : Host}
    (hw : h.Wrote k'.descriptor?.toList h') : k.Gathers h' n c :=
  hg.wrote hw (fun d hd => ha.descriptor d (Option.mem_toList.1 hd))
    fun d hd => ha.elsewhere d (Option.mem_toList.1 hd)

end Sink

/-! ## Drains -/

namespace Drain

/-- The lines that were drained: those of all bytes that were read or, unless the output came to its
end, the lines that ended. -/
def drained (log : List Notice) : List Text :=
  if end? log = some (.ok ()) then Text.decodeLines (heard log)
  else (Text.cutLines (heard log)).1.map Text.decodeLine

theorem drained_of_open {log : List Notice} (h : end? log ≠ some (.ok ())) :
    drained log = (Text.cutLines (heard log)).1.map Text.decodeLine :=
  if_neg h

theorem drained_of_ended {log : List Notice} (h : end? log = some (.ok ())) :
    drained log = Text.decodeLines (heard log) :=
  if_pos h

theorem encodeLines_append (ls ms : List Text) :
    Text.encodeLines (ls ++ ms) = Text.encodeLines ls ++ Text.encodeLines ms :=
  List.flatMap_append

section Drained

variable {d : Drain} {log : List Notice} (ht : d.Told log) (hr : d.result = none)
include ht hr

theorem Told.end?_eq_none : end? log = none := ht.result.symm.trans hr

theorem Told.unended : end? log ≠ some (.ok ()) := by
  rw [ht.end?_eq_none hr]
  simp

theorem Told.cutLines_heard (b : Bytes) :
    (Text.cutLines (Drain.heard log ++ b)).1.map Text.decodeLine =
      drained log ++ (Text.cutLines (d.unfinished ++ b)).1.map Text.decodeLine := by
  rw [drained_of_open (ht.unended hr), Text.cutLines_append, ht.unfinished hr, List.map_append]

theorem Told.decodeLines_heard :
    Text.decodeLines (Drain.heard log) = drained log ++ Text.decodeRest d.unfinished := by
  rw [drained_of_open (ht.unended hr), ht.unfinished hr]
  rfl

end Drained

/-- The sink has gathered the drained lines, behind the bytes `c`. -/
def Gathers (d : Drain) (log : List Notice) (h : Host) (n : Nat) (c : Bytes) : Prop :=
  d.sink.Gathers h n (c ++ Text.encodeLines (drained log))

variable {d : Drain} {log : List Notice} {h : Host} {n : Nat} {c : Bytes}

/-- A sink that gathers accepts every line. -/
theorem Gathers.takeLines (hg : d.Gathers log h n c) (lines : List Text) :
    (d.takeLines h lines).1.sink.Gathers (d.takeLines h lines).2 n
        (c ++ Text.encodeLines (drained log ++ lines)) ∧
      (d.sink.pushAll h lines).1 = .ok () ∧ pushNotices d.sink h lines = acceptance lines := by
  obtain ⟨hok, hg'⟩ := Sink.Gathers.pushAll hg lines
  have hworld : (d.takeLines h lines).2 = (d.sink.pushAll h lines).2.2 := by
    unfold Drain.takeLines
    split
    · rename_i heq
      rw [heq]
    · rename_i heq
      rw [heq]
  refine ⟨?_, hok, ?_⟩
  · rw [takeLines_sink, hworld, encodeLines_append, ← List.append_assoc]
    exact hg'
  · rcases pushNotices_cases d.sink h lines with ⟨-, hn⟩ | ⟨e, _, _, _, _, herr, -⟩
    · exact hn
    · rw [hok] at herr
      cases herr

theorem Gathers.take (hg : d.Gathers log h n c) (ht : d.Told log) (b : Bytes) :
    (d.take h b).1.Gathers (log ++ d.takeNotices h b) (d.take h b).2 n c := by
  cases hr : d.result with
  | some r =>
    have hsame : d.take h b = (d, h) := by simp [Drain.take, hr]
    have hnone : d.takeNotices h b = [] := by simp [takeNotices, hr]
    rw [hsame, hnone, List.append_nil]
    exact hg
  | none =>
    have hread : ({ d with unfinished := (Text.cutLines (d.unfinished ++ b)).2 } : Drain).Gathers
        log h n c := hg
    obtain ⟨hg', -, hn⟩ := hread.takeLines
      ((Text.cutLines (d.unfinished ++ b)).1.map Text.decodeLine)
    have heq : d.take h b = { d with unfinished := (Text.cutLines (d.unfinished ++ b)).2 }.takeLines
        h ((Text.cutLines (d.unfinished ++ b)).1.map Text.decodeLine) := by
      simp [Drain.take, hr]
    have hnotices : d.takeNotices h b = [.read b] ++
        acceptance ((Text.cutLines (d.unfinished ++ b)).1.map Text.decodeLine) := by
      simp [takeNotices, hr, ← hn]
    have hend : end? (log ++ d.takeNotices h b) ≠ some (.ok ()) := by
      rw [hnotices, end?_append, end?_append, end?_acceptance, ht.end?_eq_none hr]
      simp [Notice.end?]
    have hheard : heard (log ++ d.takeNotices h b) = heard log ++ b := by
      rw [hnotices, heard_append, heard_append, heard_acceptance, heard_singleton,
        List.append_nil]
      rfl
    unfold Gathers
    rw [heq, drained_of_open hend, hheard, ht.cutLines_heard hr b]
    exact hg'

theorem Gathers.close (hg : d.Gathers log h n c) (ht : d.Told log) :
    (d.close h).1.Gathers (log ++ d.closeNotices h) (d.close h).2 n c := by
  cases hr : d.result with
  | some r =>
    have hsame : d.close h = (d, h) := by simp [Drain.close, hr]
    have hnone : d.closeNotices h = [] := by simp [closeNotices, hr]
    rw [hsame, hnone, List.append_nil]
    exact hg
  | none =>
    have hfinal : ({ d with unfinished := [] } : Drain).Gathers log h n c := hg
    obtain ⟨hg', hok, hn⟩ := hfinal.takeLines (Text.decodeRest d.unfinished)
    have heq : d.close h =
        (({ d with unfinished := [] }.takeLines h (Text.decodeRest d.unfinished)).1.settle (.ok ()),
          ({ d with unfinished := [] }.takeLines h (Text.decodeRest d.unfinished)).2) := by
      simp [Drain.close, hr]
    have hend : end? (log ++ d.closeNotices h) = some (.ok ()) := by
      simp [closeNotices, hr, hok, hn, ht.end?_eq_none hr, Notice.end?]
    have hheard : heard (log ++ d.closeNotices h) = heard log := by
      simp [closeNotices, hr, hok, Notice.bytes]
    unfold Gathers
    rw [heq, drained_of_ended hend, hheard, ht.decodeLines_heard hr]
    exact hg'

theorem Gathers.breakOff (hg : d.Gathers log h n c) (ht : d.Told log) (cause : IoError) :
    (d.settle (.error cause)).Gathers (log ++ d.breakNotices cause) h n c := by
  cases hr : d.result with
  | some r =>
    have hnone : d.breakNotices cause = [] := by simp [breakNotices, hr]
    rw [hnone, List.append_nil]
    exact hg
  | none =>
    have hend : end? (log ++ d.breakNotices cause) ≠ some (.ok ()) := by
      simp [breakNotices, hr, ht.end?_eq_none hr, Notice.end?]
    have hheard : heard (log ++ d.breakNotices cause) = heard log := by
      simp [breakNotices, hr, Notice.bytes]
    unfold Gathers
    rw [drained_of_open hend, hheard, ← drained_of_open (ht.unended hr)]
    exact hg

/-- The lines that a drain takes in next, given the chunk that completes them; without a chunk the
output came to its end. -/
def nextLines (d : Drain) : Option Bytes → List Text
  | some b => (Text.cutLines (d.unfinished ++ b)).1.map Text.decodeLine
  | none => Text.decodeRest d.unfinished

theorem nextLine?_eq_head? (d : Drain) (chunk : Option Bytes) :
    d.nextLine? chunk = (d.nextLines chunk).head? := by
  cases chunk <;> rfl

/-- A line that is on its way when a kill arrives is drained behind the others. -/
theorem Told.drained_sever (ht : d.Told log) (hr : d.result = none) (cut : Cut) :
    drained (log ++ d.severNotices (some cut)) = drained log ++ d.nextLines cut.chunk := by
  obtain ⟨_ | b, taken⟩ := cut
  · have hend : end? (log ++ d.severNotices (some ⟨none, taken⟩)) = some (.ok ()) := by
      simp [severNotices, hr, cutNotice, ht.end?_eq_none hr, Notice.end?]
    have hheard : Drain.heard (log ++ d.severNotices (some ⟨none, taken⟩)) = Drain.heard log := by
      simp [severNotices, hr, cutNotice, Notice.bytes]
    rw [drained_of_ended hend, hheard]
    exact ht.decodeLines_heard hr
  · have hend : end? (log ++ d.severNotices (some ⟨some b, taken⟩)) ≠ some (.ok ()) := by
      simp [severNotices, hr, cutNotice, ht.end?_eq_none hr, Notice.end?]
    have hheard : Drain.heard (log ++ d.severNotices (some ⟨some b, taken⟩)) =
        Drain.heard log ++ b := by
      simp [severNotices, hr, cutNotice, Notice.bytes]
    rw [drained_of_open hend, hheard]
    exact ht.cutLines_heard hr b

/-- After a kill a part of the line that was on its way may stand behind the lines before it. -/
theorem Gathers.sever (hg : d.Gathers log h n c) (ht : d.Told log) (cut : Option Cut) :
    ∃ b, (d.sever h cut).1.sink.Gathers (d.sever h cut).2 n (c ++ b) ∧
      b <+: Text.encodeLines (drained (log ++ d.severNotices cut)) := by
  cases hr : d.result with
  | some r =>
    have hsame : d.sever h cut = (d, h) := by
      unfold Drain.sever
      split
      · rfl
      · rw [hr]
        rfl
    have hnone : d.severNotices cut = [] := by simp [severNotices, hr]
    rw [hsame, hnone, List.append_nil]
    exact ⟨_, hg, List.prefix_rfl⟩
  | none =>
    cases cut with
    | none =>
      have hnone : d.severNotices none = [] := by simp [severNotices, hr]
      rw [hnone, List.append_nil]
      exact ⟨_, hg, List.prefix_rfl⟩
    | some cut =>
      rw [ht.drained_sever hr]
      cases hnext : d.nextLines cut.chunk with
      | nil =>
        have hsame : d.sever h (some cut) = (d, h) := by
          simp [Drain.sever, nextLine?_eq_head?, hnext]
        rw [hsame, List.append_nil]
        exact ⟨_, hg, List.prefix_rfl⟩
      | cons line rest =>
        have heq : d.sever h (some cut) =
            ({ d with sink := (d.sink.pushPart h line cut.taken).1 },
              (d.sink.pushPart h line cut.taken).2) := by
          simp [Drain.sever, nextLine?_eq_head?, hnext, hr]
        have hpart := Sink.Gathers.pushPart hg line cut.taken
        rw [List.append_assoc] at hpart
        rw [heq, encodeLines_append, Text.encodeLines_cons, List.append_cons]
        refine ⟨_, hpart, (List.prefix_append_right_inj _).2 ?_⟩
        exact (List.take_prefix _ _).trans (List.prefix_append _ _)

end Drain

/-! ## Tasks -/

def Stream.other : Stream → Stream
  | .stdout => .stderr
  | .stderr => .stdout

theorem Stream.eq_other_of_ne {s x : Stream} (h : x ≠ s) : x = s.other := by
  cases s <;> cases x
  · exact absurd rfl h
  · rfl
  · rfl
  · exact absurd rfl h

namespace Task

def descriptors (t : Task) : List Nat :=
  t.stdout.sink.descriptor?.toList ++ t.stderr.sink.descriptor?.toList

theorem mem_descriptors {t : Task} {d : Nat} :
    d ∈ t.descriptors ↔ ∃ s, (t.drain s).sink.descriptor? = some d := by
  unfold descriptors
  rw [List.mem_append, Option.mem_toList, Option.mem_toList]
  constructor
  · rintro (hd | hd)
    · exact ⟨.stdout, hd⟩
    · exact ⟨.stderr, hd⟩
  · rintro ⟨s, hd⟩
    cases s with
    | stdout => exact .inl hd
    | stderr => exact .inr hd

/-- All that a task does to a host is writing to its redirect files and closing them. -/
theorem step_wrote (t : Task) (h : Host) (sig : Signal) :
    t.Within (Host.Wrote t.descriptors) h (t.step h sig) :=
  step_within (fun s => Sink.keeps_wrote_of fun _ hd => mem_descriptors.2 ⟨s, hd⟩) h sig

/-- What a stage adds to a redirect file: the lines that were drained, each with its line feed; if
the stage was killed, the first bytes of that. -/
def Part (s : Stream) (log : List Notice) (b : Bytes) : Prop :=
  if wasKilled log then b <+: Text.encodeLines (Drain.drained (output s log))
  else b = Text.encodeLines (Drain.drained (output s log))

/-- One sink of a task gathers bytes in a regular file, and the other one writes elsewhere. -/
structure Gathers (s : Stream) (t : Task) (h : Host) (n : Nat) (c : Bytes) : Prop where
  own : (t.drain s).sink.Gathers h n c
  apart : (t.drain s).sink.Apart (t.drain s.other).sink h n

variable {s : Stream} {t : Task} {h : Host} {n : Nat} {c : Bytes}

theorem Gathers.of_drain_eq (hg : t.Gathers s h n c) {t' : Task}
    (hd : ∀ x, t'.drain x = t.drain x) : t'.Gathers s h n c := by
  constructor
  · rw [hd]
    exact hg.own
  · rw [hd, hd]
    exact hg.apart

theorem drain_joined (t : Task) (x : Stream) : t.joined.drain x = t.drain x := by
  unfold joined
  split
  · cases x <;> rfl
  · rfl

theorem Gathers.onDrain (hg : t.Gathers s h n c) (x : Stream) {f : Drain → Host → Drain × Host}
    (hw : (t.drain x).sink.Within (Host.Wrote (t.drain x).sink.descriptor?.toList) h
      (f (t.drain x) h).1.sink (f (t.drain x) h).2) {c' : Bytes}
    (hown : x = s → (f (t.drain x) h).1.sink.Gathers (f (t.drain x) h).2 n c')
    (hother : x ≠ s → c' = c) :
    (t.onDrain h x f).1.Gathers s (t.onDrain h x f).2 n c' := by
  have hworld : (t.onDrain h x f).2 = (f (t.drain x) h).2 := by cases x <;> rfl
  have hid : ∀ z, ((t.onDrain h x f).1.drain z).sink.identity? = (t.drain z).sink.identity? :=
    (onDrain_within h x hw).identity
  refine ⟨?_, ?_⟩
  · rw [hworld, drain_onDrain]
    by_cases hx : x = s
    · rw [if_pos hx]
      exact hown hx
    · rw [if_neg hx, hother hx]
      obtain rfl := Stream.eq_other_of_ne hx
      exact hg.own.beside hg.apart hw.world
  · rw [hworld]
    exact hg.apart.wrote (hid s) (hid s.other) hw.world

theorem Gathers.conclude (hg : t.Gathers s h n c) (status : Status) :
    (t.conclude h status).2.files.content n = c := by
  have hout := Sink.finish_within t.stdout.sink.keeps_wrote h
  have herr := Sink.finish_within t.stderr.sink.keeps_wrote (t.stdout.sink.finish h).2
  cases s with
  | stdout =>
    have hown : t.stdout.sink.Gathers h n c := hg.own
    have hapart := hg.apart.wrote rfl rfl hout
    rw [← hown.finish]
    exact herr.files.content n fun d hd => hapart.elsewhere d (Option.mem_toList.1 hd)
  | stderr =>
    have hown : t.stderr.sink.Gathers h n c := hg.own
    exact (hown.beside hg.apart hout).finish

theorem Gathers.sever {log : List Notice}
    (hg : t.Gathers s h n (c ++ Text.encodeLines (Drain.drained (output s log))))
    (ht : ∀ x, (t.drain x).Told (output x log)) (out err : Option Cut) :
    ∃ b, (t.sever h out err).1.Gathers s (t.sever h out err).2 n (c ++ b) ∧
      b <+: Text.encodeLines (Drain.drained (output s (log ++
        ((t.stdout.severNotices out).map (.output .stdout) ++
          (t.stderr.severNotices err).map (.output .stderr))))) := by
  have hwout := t.stdout.sever_within t.stdout.sink.keeps_wrote h out
  have hwerr := t.stderr.sever_within t.stderr.sink.keeps_wrote (t.stdout.sever h out).2 err
  cases s with
  | stdout =>
    have hout : t.stdout.Told (output .stdout log) := ht .stdout
    obtain ⟨b, hb, hpart⟩ := Drain.Gathers.sever hg.own hout out
    have hg' := hg.onDrain .stdout (f := fun d w => d.sever w out) hwout (fun _ => hb)
      fun hne => absurd rfl hne
    refine ⟨b, hg'.onDrain .stderr (f := fun d w => d.sever w err) hwerr nofun fun _ => rfl, ?_⟩
    simp only [output_append, (map_output _ _).2.2.2.2, if_true, reduceCtorEq, if_false,
      List.append_nil]
    exact hpart
  | stderr =>
    have herr : t.stderr.Told (output .stderr log) := ht .stderr
    have hg' := hg.onDrain .stdout (f := fun d w => d.sever w out) hwout nofun fun _ => rfl
    obtain ⟨b, hb, hpart⟩ := Drain.Gathers.sever hg'.own herr err
    refine ⟨b, hg'.onDrain .stderr (f := fun d w => d.sever w err) hwerr (fun _ => hb)
      fun hne => absurd rfl hne, ?_⟩
    simp only [output_append, (map_output _ _).2.2.2.2, if_true, reduceCtorEq, if_false,
      List.nil_append]
    exact hpart

theorem drained_closeNotices (t : Task) (h : Host) (s : Stream) (log : List Notice) :
    Drain.drained (output s (log ++ t.closeNotices h)) = Drain.drained (output s log) := by
  simp [Drain.drained, output_closeNotices, Drain.Notice.end?, Drain.Notice.bytes]

/-! ### Parts -/

section Part

variable {log : List Notice} {b : Bytes}

theorem part_of_unkilled (hkill : wasKilled log = false) :
    Part s log b ↔ b = Text.encodeLines (Drain.drained (output s log)) := by
  simp [Part, hkill]

theorem part_of_killed (hkill : wasKilled log = true) :
    Part s log b ↔ b <+: Text.encodeLines (Drain.drained (output s log)) := by
  simp [Part, hkill]

theorem part_nil : Part s [] [] := (part_of_unkilled rfl).2 (by cases s <;> rfl)

/-- Notices that tell neither of a kill nor of lines that were drained leave a part what it is. -/
theorem Part.append (hp : Part s log b) {l : List Notice} (hkill : wasKilled l = false)
    (hl : Drain.drained (output s (log ++ l)) = Drain.drained (output s log)) :
    Part s (log ++ l) b := by
  unfold Part
  rw [wasKilled_append, hkill, Bool.or_false, hl]
  exact hp

theorem Part.silent (hp : Part s log b) {l : List Notice} (hkill : wasKilled l = false)
    (hl : output s l = []) : Part s (log ++ l) b :=
  hp.append hkill (by rw [output_append, hl, List.append_nil])

theorem Part.closeNotices (hp : Part s log b) (t : Task) (h : Host) :
    Part s (log ++ t.closeNotices h) b :=
  hp.append (wasKilled_closeNotices t h) (drained_closeNotices t h s log)

theorem Part.kill (hb : b <+: Text.encodeLines (Drain.drained (output s log))) :
    Part s (log ++ [.kill]) b := by
  have hkill : wasKilled (log ++ [.kill]) = true := by simp [Notice.isKill]
  have hsame : output s (log ++ [.kill]) = output s log := by simp [Notice.output?]
  rw [part_of_killed hkill, hsame]
  exact hb

end Part

/-- What the journal of a task tells whose program is at work and was not killed. -/
theorem Told.working {t₀ : Task} {log : List Notice} (ht : Told t₀ log t) (new : t₀.IsNew)
    (hprogram : t.hasProgram = true) (hphase : t.phase ≠ .killing) : Working log t := by
  cases ht with
  | ready state =>
    rw [state, hasProgram, new.phase] at hprogram
    cases hprogram
  | transferring _ working => exact working
  | awaiting _ working => exact working
  | killing phase => exact absurd phase hphase
  | finished phase =>
    rw [hasProgram, phase] at hprogram
    cases hprogram

/-- What becomes of a gathering task: it gathers on behind the first bytes of its part, or it is
over and has handed its part on. -/
def Onward (s : Stream) (r : Task × Host) (log : List Notice) (n : Nat) (c : Bytes) : Prop :=
  ∃ b, Part s log b ∧ (r.1.outcome? = none ∧ r.1.Gathers s r.2 n (c ++ b) ∨
    r.1.outcome?.isSome ∧ r.2.files.content n = c ++ b)

section Step

variable {log : List Notice} {b : Bytes} (hg : t.Gathers s h n (c ++ b)) (hp : Part s log b)
include hg hp

theorem Gathers.idle {t' : Task} (hr : t'.outcome? = none) (hd : ∀ x, t'.drain x = t.drain x)
    {l : List Notice} (hkill : wasKilled l = false) (hl : output s l = []) :
    Onward s (t', h) (log ++ l) n c :=
  ⟨b, hp.silent hkill hl, .inl ⟨hr, hg.of_drain_eq hd⟩⟩

theorem Gathers.concluded {last : Notice} (hkill : last.isKill = false)
    (hlast : last.output? s = none) (status : Status) :
    Onward s (t.conclude h status) (log ++ last :: t.closeNotices h) n c := by
  refine ⟨b, ?_, .inr ⟨rfl, hg.conclude status⟩⟩
  rw [List.append_cons]
  exact (hp.silent (by simp [hkill]) (by simp [hlast])).closeNotices t h

variable (hunkilled : wasKilled log = false)
include hunkilled

theorem Gathers.activity (hr : t.outcome? = none) (x : Stream) {f : Drain → Host → Drain × Host}
    {l : List Drain.Notice}
    (hw : (t.drain x).sink.Within (Host.Wrote (t.drain x).sink.descriptor?.toList) h
      (f (t.drain x) h).1.sink (f (t.drain x) h).2)
    (hown : (t.drain x).Gathers (output x log) h n c →
      (f (t.drain x) h).1.Gathers (output x log ++ l) (f (t.drain x) h).2 n c) :
    Onward s ((t.onDrain h x f).1.joined, (t.onDrain h x f).2) (log ++ l.map (.output x)) n c := by
  have hr' : (t.onDrain h x f).1.outcome? = none := (outcome?_onDrain t h x f).trans hr
  have hkill' : wasKilled (log ++ l.map (.output x)) = false := by
    rw [wasKilled_append, hunkilled, (map_output _ _).2.2.2.1]
    rfl
  obtain rfl := (part_of_unkilled hunkilled).1 hp
  have hg' : (t.onDrain h x f).1.Gathers s (t.onDrain h x f).2 n
      (c ++ Text.encodeLines (Drain.drained (output s (log ++ l.map (.output x))))) := by
    refine hg.onDrain x hw (fun hx => ?_) fun hx => ?_
    · subst hx
      rw [output_append, (map_output _ _).2.2.2.2, if_pos rfl]
      exact hown hg.own
    · rw [output_append, (map_output _ _).2.2.2.2, if_neg hx, List.append_nil]
  exact ⟨_, (part_of_unkilled hkill').2 rfl,
    .inl ⟨outcome?_joined _ hr', hg'.of_drain_eq (drain_joined _)⟩⟩

theorem Gathers.killed (ht : ∀ x, (t.drain x).Told (output x log)) (out err : Option Cut) :
    Onward s ({ (t.sever h out err).1 with phase := .killing }, (t.sever h out err).2)
      (log ++ ((t.stdout.severNotices out).map (.output .stdout) ++
        (t.stderr.severNotices err).map (.output .stderr) ++ [.kill])) n c := by
  obtain rfl := (part_of_unkilled hunkilled).1 hp
  obtain ⟨b, hg', hb⟩ := hg.sever ht out err
  rw [← List.append_assoc]
  exact ⟨b, Part.kill hb, .inl ⟨rfl, hg'.of_drain_eq fun x => drain_phase _ _ x⟩⟩

theorem Gathers.stopped : Onward s ({ t with phase := .killing }, h) (log ++ [.kill]) n c := by
  obtain rfl := (part_of_unkilled hunkilled).1 hp
  exact ⟨_, Part.kill List.prefix_rfl, .inl ⟨rfl, hg.of_drain_eq fun x => drain_phase t _ x⟩⟩

end Step

/-- Whatever happens to a task that gathers, its file holds what the journal tells. -/
theorem Gathers.step {t₀ : Task} {log : List Notice} {b : Bytes} (hg : t.Gathers s h n (c ++ b))
    (hp : Part s log b) (ht : Told t₀ log t) (new : t₀.IsNew) (hargv : t.argv ≠ [])
    (hr : t.outcome? = none) (sig : Signal) :
    Onward s (t.step h sig) (log ++ t.notices h sig) n c := by
  have nothing : Onward s (t, h) (log ++ []) n c := hg.idle hp hr (fun _ => rfl) rfl rfl
  have working := ht.working new
  obtain ⟨index, argv, input, fed, stdout, stderr, phase⟩ := t
  cases phase with
  | ready =>
    cases argv with
    | nil => exact absurd rfl hargv
    | cons program args =>
      cases sig with
      | launched =>
        refine hg.idle hp rfl (fun x => by cases x <;> rfl) ?_ ?_
        · cases input <;> rfl
        · cases input <;> rfl
      | refused cause => exact hg.concluded hp rfl rfl _
      | _ => exact nothing
  | transferring =>
    have hwork := working rfl nofun
    cases sig with
    | fed r =>
      refine hg.idle hp (outcome?_joined _ rfl) (fun x => (drain_joined _ x).trans ?_) ?_ ?_
      · cases x <;> rfl
      · cases fed <;> rfl
      · cases fed <;> rfl
    | printed x b =>
      exact hg.activity hp hwork.unkilled rfl x (f := fun d w => d.take w b)
        (Drain.take_within (Sink.keeps_wrote _) h b) fun hown => hown.take (hwork.outputs x) b
    | ended x =>
      exact hg.activity hp hwork.unkilled rfl x (f := fun d w => d.close w)
        (Drain.close_within (Sink.keeps_wrote _) h) fun hown => hown.close (hwork.outputs x)
    | broken x cause =>
      exact hg.activity hp hwork.unkilled rfl x (f := fun d w => (d.settle (.error cause), w))
        ((Sink.keeps_wrote _).refl_within h) fun hown => hown.breakOff (hwork.outputs x) cause
    | killed out err => exact hg.killed hp hwork.unkilled hwork.outputs out err
    | _ => exact nothing
  | awaiting transferred =>
    cases sig with
    | exited waited => exact hg.concluded hp rfl rfl _
    | killed out err => exact hg.stopped hp (working rfl nofun).unkilled
    | _ => exact nothing
  | killing =>
    cases sig with
    | exited waited => exact hg.concluded hp rfl rfl _
    | _ => exact nothing
  | «over» => cases hr

end Task

end Relay
