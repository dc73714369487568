import Relay.Files.Errno
import Relay.Text.Basic

/-!
# Outcomes

What a stage hands back when it is over: how it ended and the lines it printed.  A failure is kept
as its cause; `Failure.message` is the only place that words it.
-/

namespace Relay

/-- Why a stage failed, as opposed to its program ending by itself. -/
inductive Failure where
  /-- The stage names no program. -/
  | noProgram
  | launch (program : Text) (cause : IoError)
  /-- Feeding the program, reading its output or storing its lines failed. -/
  | transfer (program : Text) (cause : IoError)
  | waiting (program : Text) (cause : IoError)
  /-- A redirect file could not be closed. -/
  | closing (cause : IoError)
  /-- A failure known by its description only. -/
  | other (description : String)
  deriving DecidableEq, Repr

def Failure.message : Failure → String
  | .noProgram => "stage has no program"
  | .launch program cause => s!"{String.ofList program}: {cause.message}"
  | .transfer program cause => s!"{String.ofList program}: {cause.message}"
  | .waiting program cause => s!"{String.ofList program}: failed to wait: {cause.message}"
  | .closing cause => s!"closing redirect file: {cause.message}"
  | .other description => description

/-- How a stage ended. -/
inductive Status where
  /-- The program ended with this code; death by signal `n` counts as code `128 + n`. -/
  | exited (code : Int)
  | failed (failure : Failure)
  | stopped
  deriving DecidableEq, Repr

namespace Status

/-- Whether the program ended with code 0. -/
def isSuccess : Status → Bool
  | .exited code => code == 0
  | _ => false

/-- The program's code, if it ended by itself. -/
def code? : Status → Option Int
  | .exited code => some code
  | _ => none

def isFailed : Status → Bool
  | .failed _ => true
  | _ => false

def message : Status → String
  | .exited code => s!"exited with code {code}"
  | .failed failure => s!"failed: {failure.message}"
  | .stopped => "stopped"

end Status

/-- What a stage hands back: its position in the pipeline, the program call, how it ended, and the
lines of each output that was not redirected. -/
structure Outcome where
  index : Nat
  argv : List Text
  status : Status
  stdout : List Text := []
  stderr : List Text := []
  deriving DecidableEq, Repr

/-- Whether the stage ended with code 0. -/
def Outcome.isSuccess (o : Outcome) : Bool := o.status.isSuccess

end Relay
