import Relay.Pipeline.Basic

/-!
# Validation

What is wrong with a pipeline before anything runs.  Every rule is checked, so that all problems
can be reported at once: stages first, then the standard-output target, then the error-output
target.
-/

namespace Relay

inductive IssueKind where
  | noStages
  | emptyStage
  /-- A redirect names no target. -/
  | emptyTarget
  deriving DecidableEq, Repr

def IssueKind.code : IssueKind → String
  | .noStages => "E001"
  | .emptyStage => "E002"
  | .emptyTarget => "E003"

/-- One problem: its kind, the problem in words, and the stage it concerns, counted from zero. -/
structure Issue where
  kind : IssueKind
  message : String
  stage : Option Nat := none
  deriving DecidableEq, Repr

/-- The problem with its code in front. -/
def Issue.format (i : Issue) : String := s!"error[{i.kind.code}]: {i.message}"

namespace Pipeline

def noStagesIssue : Issue := { kind := .noStages, message := "no program calls" }

/-- The issue of a stage without a program; people count stages from one. -/
def emptyStageIssue (index : Nat) : Issue :=
  { kind := .emptyStage, message := s!"stage {index + 1} has no program", stage := some index }

def emptyStdoutIssue : Issue :=
  { kind := .emptyTarget, message := "standard-output redirect has no target" }

def emptyStderrIssue : Issue :=
  { kind := .emptyTarget, message := "error-output redirect has no target" }

def stageIssues (stages : List Stage) : List Issue :=
  (stages.zipIdx.filter (·.1.isEmpty)).map fun (_, index) => emptyStageIssue index

/-- All issues of a pipeline, in the order in which they are reported. -/
def issues (p : Pipeline) : List Issue :=
  (if p.stages.isEmpty then [noStagesIssue] else [])
    ++ stageIssues p.stages
    ++ (if p.stdoutTarget = some [] then [emptyStdoutIssue] else [])
    ++ (if p.stderrTarget = some [] then [emptyStderrIssue] else [])

def isValid (p : Pipeline) : Bool := p.issues.isEmpty

/-- The issues of a pipeline in words. -/
def reasons (p : Pipeline) : List String := p.issues.map Issue.message

end Pipeline

end Relay
