import Relay.Proofs.Gathering
import Relay.Proofs.Handover
import Relay.Proofs.Text.LineEndings

/-!
# What is captured of an output

An output is captured as lines.  Two theorems say what they have of it.

* `Drain.reread_iff`: of lines that were written, by the previous stage's worker or to a redirect
  file, exactly the same lines are captured if and only if none has a line feed in it or a carriage
  return at its end.  So a program that hands its input on unchanged preserves these lines and no
  others.
* `Drain.captured`: of any bytes the lines lose their line endings and, if the output ends without
  a line feed, a carriage return at its very end.
-/

namespace Relay

/-- The bytes that some lines are written as: for the next program to read, or to a redirect file
that is emptied when it is opened, takes the lines and is finished. -/
inductive WrittenOut (ls : List Text) : Bytes → Prop where
  | input : WrittenOut ls ((Launch.content ls).getD [])
  | file {h h' : Host} {x : Text} {k : Sink} {n : Nat} (sound : h.files.Sound)
      (opened : Sink.openTarget h x .truncate = .ok (k, h')) (regular : h'.number? x = some n) :
      WrittenOut ls (((k.pushAll h' ls).2.1.finish (k.pushAll h' ls).2.2).2.files.content n)

theorem WrittenOut.eq_encodeLines {ls : List Text} {b : Bytes} (h : WrittenOut ls b) :
    b = Text.encodeLines ls := by
  cases h with
  | input => exact Launch.getD_content ls
  | file sound opened regular =>
    obtain ⟨d, ho, rfl⟩ := Sink.eq_file_of_openTarget opened
    have hempty := Sink.gathers_opened sound ho nofun regular
    exact (hempty.pushAll ls).2.finish

namespace Drain

/-- **The lines that were written are captured again exactly if no line feed is inside one of them
and no carriage return at the end of one**, however the bytes arrive. -/
theorem reread_iff {ω : Type} [FileStore ω] {ls : List Text} {chunks : List Bytes}
    (h : WrittenOut ls chunks.flatten) (w : ω) :
    (readOut w chunks).1.result = some (.ok ()) ∧
      ∃ lines, (readOut w chunks).1.sink.finish (readOut w chunks).2 = (.ok lines, w) ∧
        (lines = ls ↔ ∀ l ∈ ls, '\n' ∉ l ∧ l.getLast? ≠ some '\r') := by
  rw [readOut_eq, h.eq_encodeLines]
  exact ⟨rfl, _, rfl, Text.decodeLines_encodeLines_eq_iff ls⟩

/-- A line of a redirect file whose carriage return is not captured again. -/
theorem reread_file :
    let ls : List Text := [['a'], ['b', '\r']]
    let chunks : List Bytes := [[97], [10, 98, 13, 10]]
    WrittenOut ls chunks.flatten ∧
      ∃ lines, (readOut ({} : Host) chunks).1.sink.finish (readOut ({} : Host) chunks).2 =
        (.ok lines, {}) ∧ lines ≠ ls := by
  intro ls chunks
  obtain ⟨k, h', ho, hn⟩ : ∃ k h', Sink.openTarget ({} : Host) ['f'] .truncate = .ok (k, h') ∧
      h'.number? ['f'] = some 0 := ⟨_, _, rfl, by decide +kernel⟩
  have hwritten : WrittenOut ls chunks.flatten := by
    have hfile : WrittenOut ls _ := .file Host.sound_empty ho hn
    rw [hfile.eq_encodeLines] at hfile
    exact hfile
  obtain ⟨-, lines, hlines, hiff⟩ := reread_iff hwritten ({} : Host)
  refine ⟨hwritten, lines, hlines, fun heq => ?_⟩
  have hlast := hiff.1 heq ['b', '\r'] (List.mem_cons_of_mem _ List.mem_cons_self)
  exact hlast.2 rfl

/-- **The captured lines lose nothing but their line endings, with one exception**: if the output
ends without a line feed it is taken as if it had one, and so a carriage return at its very end is
taken for a part of a line ending.  Apart from it the lines of a text are those that it has as a
file. -/
theorem captured {ω : Type} [FileStore ω] (w : ω) (chunks : List Bytes) :
    (readOut w chunks).1.result = some (.ok ()) ∧
      ∃ lines, (readOut w chunks).1.sink.finish (readOut w chunks).2 = (.ok lines, w) ∧
        lines = Text.plainLines (Text.terminated chunks.flatten) ∧
        (lines = Text.plainLines chunks.flatten ↔
          chunks.flatten.getLast? ≠ some Text.carriageReturn) ∧
        ∀ t, chunks.flatten = Text.utf8 t → (lines = Text.lines t ↔ t.getLast? ≠ some '\r') := by
  rw [readOut_eq]
  have hplain := Text.decodeLines_eq_plainLines_iff chunks.flatten
  refine ⟨rfl, Text.decodeLines chunks.flatten, rfl, Text.decodeLines_eq_plainLines _, hplain, ?_⟩
  intro t ht
  rw [ht, Text.plainLines_utf8, ne_eq, Text.getLast?_utf8_eq_return_iff] at hplain
  rw [ht]
  exact hplain

/-- A carriage return in front of another character is captured. -/
theorem captured_text :
    let t : Text := ['a', '\r', '\n', '\r', 'b']
    (readOut ({} : Host) [Text.utf8 t]).1.sink.finish (readOut ({} : Host) [Text.utf8 t]).2 =
      (.ok [['a'], ['\r', 'b']], {}) := by
  intro t
  obtain ⟨-, lines, hlines, -, -, htext⟩ := captured ({} : Host) [Text.utf8 t]
  have hsame : lines = Text.lines t := (htext t (List.append_nil _)).2 (by decide)
  rw [hlines, hsame]
  rfl

/-- A carriage return that is not part of a line ending, and not captured. -/
theorem not_captured_return :
    let t : Text := ['a', 'b', 'c', '\r']
    (readOut ({} : Host) [Text.utf8 t]).1.sink.finish (readOut ({} : Host) [Text.utf8 t]).2 =
        (.ok [['a', 'b', 'c']], {}) ∧
      Text.plainLines (Text.utf8 t) = [t] ∧ Text.lines t = [t] := by
  intro t
  have hlines : Text.lines t = [t] := rfl
  refine ⟨?_, (Text.plainLines_utf8 t).trans hlines, hlines⟩
  have hread : Text.decodeLines [Text.utf8 t].flatten =
      [Text.ofUtf8Lossy (Text.utf8 ['a', 'b', 'c'])] := rfl
  rw [readOut_eq, hread, Text.ofUtf8Lossy_utf8]
  rfl

end Drain

end Relay
