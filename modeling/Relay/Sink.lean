import Relay.Files.Store
import Relay.Refusal
import Relay.Text.LineCodec

/-!
# Sinks

A sink takes the lines of one output: it keeps them in memory, or writes them to a redirect file,
each followed by a line feed.

A file sink gathers small writes in a buffer and hands them on when the buffer would overflow, and
what remains when it is finished.  Handing on does not wait for the file: a write that fails is
reported by the next one, or by finishing.  A redirect target that refuses its bytes therefore
fails late: a little output only when the sink is finished, more output while lines still arrive.
-/

namespace Relay

/-- An open redirect file. -/
structure FileSink where
  target : Text
  descriptor : Nat
  /-- Bytes that were not handed on yet. -/
  buffer : Array UInt8 := #[]
  /-- A write that failed and was not reported yet. -/
  unreported : Option IoError := none
  deriving Repr

/-- Where the lines of an output go. -/
inductive Sink where
  | memory (lines : Array Text)
  | file (sink : FileSink)
  deriving Repr

namespace FileSink

variable {ω : Type} [FileStore ω]

/-- How many bytes are gathered at most. -/
def capacity : Nat := 8192

/-- How many bytes are handed on at a time at most. -/
def largestWrite : Nat := 2 * 1024 * 1024

def openTarget (w : ω) (target : Text) (mode : OpenMode) : Except IoError (FileSink × ω) := do
  let (descriptor, w) ← FileStore.openTarget w target mode
  return ({ target, descriptor }, w)

/-- Hands bytes on to the file, unless an earlier failure is to be reported first. -/
def handOn (s : FileSink) (w : ω) (b : Bytes) : Except IoError Unit × FileSink × ω :=
  match s.unreported with
  | some e => (.error e, { s with unreported := none }, w)
  | none =>
    match FileStore.write w s.descriptor b with
    | (.ok (), w) => (.ok (), s, w)
    | (.error e, w) => (.ok (), { s with unreported := some e }, w)

/-- Hands the gathered bytes on; they stay gathered if that fails. -/
def flush (s : FileSink) (w : ω) : Except IoError Unit × FileSink × ω :=
  if s.buffer.isEmpty then (.ok (), s, w)
  else
    match s.handOn w s.buffer.toList with
    | (.ok (), s, w) => (.ok (), { s with buffer := #[] }, w)
    | failed => failed

/-- Takes bytes in: they are gathered, after the earlier ones were handed on if there is no room
left; bytes that would fill the buffer alone are handed on at once, a bounded part after another. -/
def put (s : FileSink) (w : ω) (b : Bytes) : Except IoError Unit × FileSink × ω :=
  let n := b.length
  if n = 0 then (.ok (), s, w)
  else
    let (made, s, w) := if capacity < s.buffer.size + n then s.flush w else (.ok (), s, w)
    match made with
    | .error e => (.error e, s, w)
    | .ok () =>
      if n < capacity then (.ok (), { s with buffer := s.buffer ++ b.toArray }, w)
      else
        match s.handOn w (b.take largestWrite) with
        | (.ok (), s, w) => s.put w (b.drop largestWrite)
        | failed => failed
termination_by b.length
decreasing_by
  simp only [List.length_drop, largestWrite]
  omega

def putLine (s : FileSink) (w : ω) (line : Text) : Except IoError Unit × FileSink × ω :=
  match s.put w (Text.utf8 line) with
  | (.ok (), s, w) => s.put w [Text.lineFeed]
  | failed => failed

/-- Takes in the first bytes of a line with its line feed, as far as they came before the sink was
interrupted. -/
def putPart (s : FileSink) (w : ω) (line : Text) (n : Nat) : FileSink × ω :=
  (s.put w ((Text.utf8 line ++ [Text.lineFeed]).take n)).2

/-- Hands everything on, waits for the file and closes it. -/
def finish (s : FileSink) (w : ω) : Except IoError Unit × ω :=
  let (flushed, s, w) := s.flush w
  let result := match flushed, s.unreported with
    | .error e, _ => .error e
    | .ok (), some e => .error e
    | .ok (), none => .ok ()
  (result, FileStore.close w s.descriptor)

end FileSink

namespace Sink

variable {ω : Type} [FileStore ω]

/-- A sink that keeps lines in memory and holds none yet. -/
def empty : Sink := .memory #[]

instance : Inhabited Sink := ⟨empty⟩

def push (s : Sink) (w : ω) (line : Text) : Except IoError Unit × Sink × ω :=
  match s with
  | .memory lines => (.ok (), .memory (lines.push line), w)
  | .file f =>
    let (result, f, w) := f.putLine w line
    (result, .file f, w)

/-- Takes lines in, up to the first that fails. -/
def pushAll (s : Sink) (w : ω) : List Text → Except IoError Unit × Sink × ω
  | [] => (.ok (), s, w)
  | line :: rest =>
    match s.push w line with
    | (.ok (), s, w) => s.pushAll w rest
    | failed => failed

/-- Takes in the first bytes of a line that is interrupted; memory takes a line as a whole or not at
all. -/
def pushPart (s : Sink) (w : ω) (line : Text) (n : Nat) : Sink × ω :=
  match s with
  | .memory lines => (.memory lines, w)
  | .file f =>
    let (f, w) := f.putPart w line n
    (.file f, w)

/-- Finishes a sink; answers the lines it kept, of which a file sink has none. -/
def finish (s : Sink) (w : ω) : Except IoError (List Text) × ω :=
  match s with
  | .memory lines => (.ok lines.toList, w)
  | .file f =>
    let (result, w) := f.finish w
    (result.map fun _ => [], w)

/-- Gives a sink up without handing anything on. -/
def abandon (s : Sink) (w : ω) : ω :=
  match s with
  | .memory _ => w
  | .file f => FileStore.close w f.descriptor

/-- Opens a redirect target as a sink; a refusal names the target. -/
def openTarget (w : ω) (target : Text) (mode : OpenMode) : Except Refusal (Sink × ω) :=
  match FileSink.openTarget w target mode with
  | .ok (f, w) => .ok (.file f, w)
  | .error cause => .error (.redirect target cause)

end Sink

end Relay
