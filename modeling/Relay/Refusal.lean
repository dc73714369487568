import Relay.Files.Errno
import Relay.Pipeline.Command
import Relay.Pipeline.Validation

/-!
# Refusals

What a caller is told at once: the command cannot be read, the pipeline is not valid, a redirect
target cannot be opened, a run is in progress, or a file cannot be read.  Failures inside a running
stage are not refusals; they are part of the stage's outcome.
-/

namespace Relay

/-- Why a request was refused. -/
inductive Refusal where
  | parse (error : ParseError)
  | invalid (reasons : List String)
  | redirect (target : Text) (cause : IoError)
  | alreadyRunning
  | io (cause : IoError)
  deriving DecidableEq, Repr

namespace Refusal

def message : Refusal → String
  | .parse error => error.message
  | .invalid reasons => "invalid command: " ++ String.intercalate ", " reasons
  | .redirect target cause =>
    s!"cannot open redirect target {String.ofList target}: {cause.message}"
  | .alreadyRunning => "pipeline is already running"
  | .io cause => s!"io error: {cause.message}"

/-- The reasons for which a pipeline is not valid. -/
def reasons : Refusal → List String
  | .invalid reasons => reasons
  | _ => []

end Refusal

/-- Reads a command, as a request. -/
def Pipeline.read (command : Text) : Except Refusal Pipeline :=
  (Pipeline.parse command).mapError .parse

/-- A pipeline that can be run, or why it cannot. -/
def Pipeline.check (p : Pipeline) : Except Refusal Pipeline :=
  if p.isValid then .ok p else .error (.invalid p.reasons)

end Relay
