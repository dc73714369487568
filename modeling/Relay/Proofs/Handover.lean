import Relay.Launch
import Relay.Proofs.Text.LineCodec
import Relay.Task

/-!
# From one program to the next

What a program prints is read in chunks, kept in memory as lines, and written to the next program.
However the chunks fall, a drain holds what the bytes so far determine (`Drain.take_holding`), so at
the end of the output it has kept their lines (`Drain.readOut_eq`), and the next program reads the
whole output with the three changes that lines make (`Drain.handover`).
-/

namespace Relay

variable {ω : Type} [FileStore ω]

theorem Sink.pushAll_memory (kept : Array Text) (w : ω) (lines : List Text) :
    (Sink.memory kept).pushAll w lines = (.ok (), .memory (kept ++ lines.toArray), w) := by
  induction lines generalizing kept with
  | nil => simp [pushAll]
  | cons line lines ih =>
    rw [pushAll, push]
    exact (ih _).trans (by simp)

namespace Drain

/-- The drain that has read some bytes into memory, but not the end of the output. -/
def holding (b : Bytes) : Drain :=
  { sink := .memory ((Text.cutLines b).1.map Text.decodeLine).toArray
    unfinished := (Text.cutLines b).2 }

theorem holding_nil : holding [] = { sink := .empty } := rfl

/-- A chunk goes on with the bytes before it. -/
theorem take_holding (b c : Bytes) (w : ω) : (holding b).take w c = (holding (b ++ c), w) := by
  simp only [take, holding, takeLines, Sink.pushAll_memory, Text.cutLines_append b c]
  simp

/-- At the end of the output all its lines have been kept. -/
theorem close_holding (b : Bytes) (w : ω) :
    (holding b).close w =
      ({ sink := .memory (Text.decodeLines b).toArray, result := some (.ok ()) }, w) := by
  simp only [close, holding, takeLines, Sink.pushAll_memory, settle, Text.decodeLines]
  simp

def takeAll (d : Drain) (w : ω) : List Bytes → Drain × ω
  | [] => (d, w)
  | c :: chunks =>
    let (d, w) := d.take w c
    d.takeAll w chunks

theorem takeAll_holding (b : Bytes) (w : ω) (chunks : List Bytes) :
    (holding b).takeAll w chunks = (holding (b ++ chunks.flatten), w) := by
  induction chunks generalizing b with
  | nil => simp [takeAll]
  | cons c chunks ih =>
    rw [takeAll, take_holding, List.flatten_cons, ← List.append_assoc]
    exact ih (b ++ c)

/-- Reads an output into memory, in chunks and to its end. -/
def readOut (w : ω) (chunks : List Bytes) : Drain × ω :=
  let (d, w) := takeAll { sink := .empty } w chunks
  d.close w

theorem readOut_eq (w : ω) (chunks : List Bytes) :
    readOut w chunks =
      ({ sink := .memory (Text.decodeLines chunks.flatten).toArray, result := some (.ok ()) },
        w) := by
  rw [readOut, ← holding_nil, takeAll_holding]
  exact close_holding _ w

end Drain

theorem Launch.getD_content (input : List Text) :
    (content input).getD [] = Text.encodeLines input := by
  unfold content
  split
  · rename_i h
    rw [List.isEmpty_iff.1 h]
    rfl
  · rfl

theorem Launch.content_eq_none_iff (input : List Text) : content input = none ↔ input = [] := by
  simp [content]

/-- However a program's output is read in chunks, it is read to its end, and what the next program
reads is the whole output, with a last line feed if it lacks one, without the carriage returns
before line feeds, and decoded lossily.  The number of lines is the number of line feeds, and the
next program's input is at its end from the start exactly if there was no output. -/
theorem Drain.handover (w : ω) (chunks : List Bytes) :
    (readOut w chunks).1.result = some (.ok ()) ∧
      ∃ lines, (readOut w chunks).1.sink.finish (readOut w chunks).2 = (.ok lines, w) ∧
        (Launch.content lines).getD [] =
          Text.utf8 (Text.ofUtf8Lossy (Text.dropReturns (Text.terminated chunks.flatten))) ∧
        lines.length = (Text.terminated chunks.flatten).count Text.lineFeed ∧
        (Launch.content lines = none ↔ chunks.flatten = []) := by
  rw [readOut_eq]
  refine ⟨rfl, Text.decodeLines chunks.flatten, rfl, ?_, ?_, ?_⟩
  · rw [Launch.getD_content, Text.encodeLines_decodeLines]
  · exact Text.length_decodeLines _
  · rw [Launch.content_eq_none_iff, Text.decodeLines_eq_nil_iff]

end Relay
