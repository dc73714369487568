import Relay.Session
import Relay.Settings.Lookup

/-!
# The command line

Arguments become a request: run a pipeline, run the pipeline in a file, show how a command is read,
or show help or the version.  `CommandLine.answer` carries a request out on a host and answers what
is printed and the exit code, which is 0 only if what was asked for was done.
-/

namespace Relay.CommandLine

/-! ## Arguments -/

/-- What is asked for. -/
inductive Request where
  | run (command : Text)
  | runFile (path : Text)
  | parse (command : Text)
  | help
  | version
  deriving DecidableEq, Repr

structure Arguments where
  request : Request := .help
  /-- The settings file that is asked for. -/
  config : Option Text := none
  deriving DecidableEq, Repr

/-- Why arguments cannot be understood. -/
inductive UsageError where
  | noCommand (option : Text)
  | noFile
  | noPath
  | unknownOption (option : Text)
  | severalCommands
  deriving DecidableEq, Repr

def UsageError.message : UsageError → String
  | .noCommand option => s!"{String.ofList option} requires a command argument"
  | .noFile => "-f requires a file argument"
  | .noPath => "--config requires a path"
  | .unknownOption option => s!"Unknown option: {String.ofList option}"
  | .severalCommands => "Only one command may be given"

/-- What the settings option is called when its path follows in the same argument. -/
def joinedConfig : Text := "--config=".toList

/-- What an argument means where an item may start. -/
inductive Meaning where
  /-- The settings file, in the argument itself. -/
  | config (path : Text)
  /-- The settings file, in the next argument. -/
  | configFollows
  | request (r : Request)
  /-- A request whose value is the next argument. -/
  | requestFollows (r : Text → Request) (missing : UsageError)
  | unknown

/-- The meaning of an argument where an item may start. -/
def meaning (a : Text) : Meaning :=
  if joinedConfig.isPrefixOf a then .config (a.drop joinedConfig.length)
  else
    match String.ofList a with
    | "-h" => .request .help
    | "--help" => .request .help
    | "-V" => .request .version
    | "--version" => .request .version
    | "-c" => .requestFollows .run (.noCommand a)
    | "-f" => .requestFollows .runFile .noFile
    | "--parse" => .requestFollows .parse (.noCommand a)
    | "--config" => .configFollows
    | _ => if a.head? = some '-' then .unknown else .request (.run a)

/-- What was found in arguments so far. -/
structure Found where
  request : Option Request := none
  config : Option Text := none
  deriving DecidableEq, Repr

/-- Adds a request, of which there may be one. -/
def Found.add (f : Found) (r : Request) : Except UsageError Found :=
  match f.request with
  | none => .ok { f with request := some r }
  | some _ => .error .severalCommands

/-- Reads items, of one argument or two, after those that were found. -/
def readItems (f : Found) : List Text → Except UsageError Found
  | [] => .ok f
  | a :: rest =>
    match meaning a with
    | .config path => readItems { f with config := some path } rest
    | .configFollows =>
      match rest with
      | path :: rest => readItems { f with config := some path } rest
      | [] => .error .noPath
    | .request r =>
      match f.add r with
      | .ok f => readItems f rest
      | .error e => .error e
    | .requestFollows r missing =>
      match rest with
      | value :: rest =>
        match f.add (r value) with
        | .ok f => readItems f rest
        | .error e => .error e
      | [] => .error missing
    | .unknown => .error (.unknownOption a)

/-- Reads all arguments; without a request, help is asked for. -/
def readArguments (args : List Text) : Except UsageError Arguments :=
  (readItems {} args).map fun f => { request := f.request.getD .help, config := f.config }

/-! ## Answers -/

/-- What is printed and the exit code. -/
structure Response where
  out : Text := []
  err : Text := []
  code : Nat := 0
  deriving DecidableEq, Repr

def line (s : String) : Text := s.toList ++ ['\n']

def failureCode : Nat := 1

def version : String := "0.1.0"

def helpText : Text :=
  ["chainsh v" ++ version,
    "",
    "Usage:",
    "  chainsh <command>            Run a pipeline and print its output",
    "  chainsh -c <command>         Run a pipeline (explicit form)",
    "  chainsh -f <file>            Run the pipeline in a file",
    "  chainsh --parse <command>    Show stages and redirects without running",
    "",
    "Options:",
    "  --config <path>              Config file (default: ~/.config/chainsh/config.toml)",
    "  -h, --help                   Show this help",
    "  -V, --version                Show version",
    "",
    "Syntax:",
    "  a | b                        stdout of a feeds stdin of b",
    "  cmd > path                   final stage's stdout goes to path",
    "  cmd 2> path                  every stage's stderr goes to path",
    "",
    "Examples:",
    "  chainsh 'ls -l | sort | head -n 3'",
    "  chainsh 'echo hi | wc -c > count.txt 2> errors.txt'",
    ""].flatMap line

/-- The answer to arguments that cannot be understood. -/
def usage (e : UsageError) : Response :=
  { err := line e.message ++ line "Run 'chainsh --help' for usage.", code := failureCode }

def refused (e : Refusal) : Response :=
  match e with
  | .invalid reasons =>
    { err := line "Invalid command:" ++ reasons.flatMap fun r => line ("  - " ++ r)
      code := failureCode }
  | other => { err := line ("chainsh: " ++ other.message), code := failureCode }

/-- The answer if no settings are found. -/
def unsettled (e : SettingsError) : Response :=
  let causes := match e.causes with
    | [] => []
    | causes => line "" ++ line "Caused by:" ++ causes.flatMap fun c => line ("    " ++ c)
  { err := line ("Error: " ++ e.message) ++ causes, code := failureCode }

def shown (command : Text) : Response :=
  match Pipeline.read command with
  | .ok p => { out := p.describe }
  | .error e => refused e

/-- An exit code between 0 and 255; any other code counts as a failure. -/
def exitCode (code : Int) : Nat := if 0 ≤ code ∧ code < 256 then code.toNat else failureCode

def failedCode : Nat := 127

/-- The exit code of a run that did not reach its end. -/
def stoppedCode : Nat := 130

/-- The exit code of a run, and the line that explains it. -/
def ending (final : Option Outcome) : Nat × Text :=
  match final with
  | none => (stoppedCode, [])
  | some outcome =>
    match outcome.status with
    | .exited code => (exitCode code, [])
    | .failed failure => (failedCode, line ("chainsh: " ++ failure.message))
    | .stopped => (stoppedCode, [])

/-- Lines, each with a line feed. -/
def printed (ls : List Text) : Text := ls.flatMap (· ++ ['\n'])

/-- The answer after a run. -/
def reported {ω : Type} (o : Orchestrator ω) : Response :=
  let (code, explanation) := ending o.finalOutcome?
  { out := printed o.stdoutLines, err := printed o.stderrLines ++ explanation, code }

/-- Runs a pipeline to its end. -/
def run (p : Pipeline) (s : Settings) (h : Host) : Response × Host :=
  match Orchestrator.ofPipeline p s h with
  | .error e => (refused e, h)
  | .ok o =>
    match (Session.of o).start with
    | (.error e, session) => (refused e, session.host)
    | (.ok (), session) =>
      let session := session.wait
      (reported session.orchestrator, session.host)

/-- Runs a pipeline with the settings that are found; a mistake in the command is reported only if
there are settings. -/
def runWith (config : Option Text) (p : Except Refusal Pipeline) (h : Host) : Response × Host :=
  match Settings.resolve h config, p with
  | .error e, _ => (unsettled e, h)
  | .ok _, .error e => (refused e, h)
  | .ok s, .ok p => run p s h

def pipelineIn (h : Host) (path : Text) : Except Refusal Pipeline := do
  let content ← (h.readText path).mapError .io
  (Pipeline.parseFile content).mapError .parse

def carryOut (a : Arguments) (h : Host) : Response × Host :=
  match a.request with
  | .help => ({ out := helpText }, h)
  | .version => ({ out := line ("chainsh " ++ version) }, h)
  | .parse command => (shown command, h)
  | .run command => runWith a.config (Pipeline.read command) h
  | .runFile path => runWith a.config (pipelineIn h path) h

def answer (args : List Text) (h : Host) : Response × Host :=
  match readArguments args with
  | .ok a => carryOut a h
  | .error e => (usage e, h)

end Relay.CommandLine
