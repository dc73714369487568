import Relay.Text.Basic

/-!
# Pipelines

A pipeline is a list of program calls with two optional redirect targets.  The standard-output
target belongs to the last stage, the error-output target to every stage.  `Pipeline.render` writes
a pipeline as a command; `Pipeline.describe` writes it as a list of labelled lines.
-/

namespace Relay

/-- One program call: the program's name followed by its arguments.  A stage without tokens names
no program; it can be written down but not run. -/
structure Stage where
  argv : List Text
  deriving DecidableEq, Repr, Inhabited

namespace Stage

/-- The program's name, if the stage has any tokens. -/
def program? (s : Stage) : Option Text := s.argv.head?

/-- The arguments after the program's name. -/
def args (s : Stage) : List Text := s.argv.tail

/-- Whether the stage names no program. -/
def isEmpty (s : Stage) : Bool := s.argv.isEmpty

/-- The tokens with one space between neighbours. -/
def render (s : Stage) : Text := Text.join [' '] s.argv

end Stage

/-- The program calls of a command and where their output goes. -/
structure Pipeline where
  stages : List Stage
  stdoutTarget : Option Text := none
  stderrTarget : Option Text := none
  deriving DecidableEq, Repr, Inhabited

namespace Pipeline

/-- What a command writes before the standard-output target. -/
def stdoutDelimiter : Text := [' ', '>']

/-- What a command writes before the error-output target. -/
def stderrDelimiter : Text := [' ', '2', '>']

/-- A redirect as a command writes it: the delimiter, a space and the target. -/
def renderRedirect (delimiter : Text) : Option Text → Text
  | none => []
  | some target => delimiter ++ ' ' :: target

def render (p : Pipeline) : Text :=
  Text.join [' ', '|', ' '] (p.stages.map Stage.render)
    ++ renderRedirect stdoutDelimiter p.stdoutTarget
    ++ renderRedirect stderrDelimiter p.stderrTarget

/-- A line that names what it shows. -/
def labelled (label : String) (t : Text) : Text := label.toList ++ t ++ ['\n']

/-- One labelled line for each stage and each redirect target. -/
def describe (p : Pipeline) : Text :=
  p.stages.flatMap (fun s => labelled "Program call: " s.render)
    ++ (p.stdoutTarget.map (labelled "Standard output: ")).getD []
    ++ (p.stderrTarget.map (labelled "Error output: ")).getD []

end Pipeline

end Relay
