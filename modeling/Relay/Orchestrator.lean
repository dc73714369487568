import Relay.Event
import Relay.Refusal
import Relay.Task

/-!
# Orchestrators

An orchestrator runs the stages of a valid pipeline one after another.  Each run has a driver, which
receives the completions of that run's tasks and launches the next stage after each.  `start`,
`stop` and the drivers change the state under one lock: `start` and `act` are single steps, while a
stop holds the lock from `beginStop` until the killed task is over, in `endStop`.

The state keeps the workers and drivers of all runs, so that what a leftover of an earlier run can
still do is part of the picture.  `Step` lists everything that can happen and `next?` says what it
leads to; the order of the steps is free.
-/

namespace Relay

/-- Receives the completions of one run. -/
structure Driver where
  generation : Nat
  /-- Completions that were sent and not received. -/
  queue : List Completion := []
  /-- A completion that was received and not acted on. -/
  inHand : Option Completion := none
  /-- The driver has not left its loop. -/
  isLive : Bool := true

def Driver.of (generation : Nat) : Driver := { generation := generation }

def Driver.left (d : Driver) : Driver := { d with isLive := false, inHand := none, queue := [] }

/-- A pipeline with the state of its runs. -/
structure Orchestrator (ω : Type) where
  pipeline : Pipeline
  settings : Settings := {}
  running : Bool := false
  /-- The next stage to launch. -/
  cursor : Nat := 0
  /-- The number of starts so far.  It has no bound; a counter of 64 bits shows the same numbers for
  the first 2 ^ 64 - 1 starts. -/
  generation : Nat := 0
  /-- The worker of the current stage. -/
  current : Option Nat := none
  /-- The run whose completions are expected; present only while running. -/
  completions : Option Nat := none
  /-- The outcomes of the current or latest run. -/
  outcomes : List Outcome := []
  /-- What those who wait for the end of a run see. -/
  watched : Bool := false
  /-- All events that were sent. -/
  log : List Event := []
  /-- The workers of all runs, in the order of their launch. -/
  workers : List Worker := []
  drivers : List Driver := []
  /-- The worker that a stop in progress waits for; it holds the lock. -/
  stopping : Option Nat := none
  world : ω

namespace Orchestrator

variable {ω : Type} [FileStore ω]

/-- An orchestrator for a pipeline, if the pipeline is valid. -/
def ofPipeline (p : Pipeline) (settings : Settings) (world : ω) :
    Except Refusal (Orchestrator ω) := do
  let pipeline ← p.check
  return { pipeline, settings, world }

def ofCommand (command : Text) (settings : Settings) (world : ω) :
    Except Refusal (Orchestrator ω) := do
  ofPipeline (← Pipeline.read command) settings world

/-- Whether nobody holds the lock. -/
def isFree (o : Orchestrator ω) : Bool := o.stopping.isNone

/-! ## Launching stages -/

def send (o : Orchestrator ω) (e : Event) : Orchestrator ω := { o with log := o.log ++ [e] }

/-- Goes idle. -/
def reset (o : Orchestrator ω) (completed : Bool) : Orchestrator ω :=
  { o with running := false, cursor := 0, current := none, completions := none,
           watched := false }.send (.idle completed)

/-- Keeps the outcome of a stage. -/
def record (o : Orchestrator ω) (outcome : Outcome) : Orchestrator ω :=
  let o := o.send (.finished outcome.index outcome.status)
  { o with outcomes := o.outcomes ++ [outcome] }

/-- Opens a redirect target as a sink; without a target the sink is in memory. -/
def openSink (w : ω) (target : Option Text) (mode : OpenMode) : Except Refusal (Sink × ω) :=
  match target with
  | none => .ok (.empty, w)
  | some path => Sink.openTarget w path mode

/-- How a stage opens the error-output target: the first stage empties it, later ones add. -/
def stderrMode (index : Nat) : OpenMode := if index = 0 then .truncate else .append

/-- The standard-output target of a stage, which only the last stage has. -/
def stdoutTargetOf (p : Pipeline) (index : Nat) : Option Text :=
  if index + 1 = p.stages.length then p.stdoutTarget else none

/-- Opens the sinks of a stage: the error output first.  If the second one cannot be opened the
first one is given up. -/
def openSinks (w : ω) (p : Pipeline) (index : Nat) : Except Refusal (Sink × Sink) × ω :=
  match openSink w p.stderrTarget (stderrMode index) with
  | .error e => (.error e, w)
  | .ok (err, w) =>
    match openSink w (stdoutTargetOf p index) .truncate with
    | .error e => (.error e, err.abandon w)
    | .ok (out, w) => (.ok (out, err), w)

/-- The lines that the next stage reads: what the stage before it printed. -/
def nextInput (o : Orchestrator ω) : List Text :=
  match o.outcomes.getLast? with
  | some outcome => outcome.stdout
  | none => []

/-- Puts a task to work for the current run. -/
def employ (o : Orchestrator ω) (task : Task) : Orchestrator ω :=
  { o with workers := o.workers ++ [{ generation := o.generation, task }]
           current := some o.workers.length
           cursor := o.cursor + 1 }

/-- What launches the next stage of a run. -/
abbrev Launcher (ω : Type) := Orchestrator ω → Except Refusal Unit × Orchestrator ω

/-- Launches the stage under the cursor, or goes idle if all are done.  If no run is in progress,
there was no stage to begin with or nobody expects completions it is left to `other` what to do, and
`name` is told of a stage that names no program. -/
def launchOr (other : Launcher ω) (name : Text) (o : Orchestrator ω) :
    Except Refusal Unit × Orchestrator ω :=
  if !o.running then other o
  else
    match o.pipeline.stages[o.cursor]?, o.completions with
    | none, _ => if o.cursor = 0 then other o else (.ok (), o.reset true)
    | some _, none => other o
    | some stage, some _ =>
      match openSinks o.world o.pipeline o.cursor with
      | (.error e, world) => (.error e, { o with world })
      | (.ok (out, err), world) =>
        let task : Task :=
          { index := o.cursor, argv := stage.argv, input := o.nextInput,
            stdout := { sink := out }, stderr := { sink := err } }
        let event := Event.started o.cursor (stage.program?.getD name)
        (.ok (), (({ o with world }).employ task).send event)

/-- Goes idle if a run is in progress and has no stage left, and does nothing otherwise. -/
def launchNone (o : Orchestrator ω) : Except Refusal Unit × Orchestrator ω :=
  (.ok (), if o.running && o.pipeline.stages[o.cursor]?.isNone then o.reset true else o)

/-- Launches the stage under the cursor, or goes idle if there is none left. -/
def launchNext (o : Orchestrator ω) : Except Refusal Unit × Orchestrator ω :=
  o.launchOr launchNone []

/-! ## Starting and stopping -/

/-- Starts a run and leaves it to `launch` to launch the first stage.  If that cannot be done no run
is in progress. -/
def startBy (launch : Launcher ω) (o : Orchestrator ω) : Except Refusal Unit × Orchestrator ω :=
  if o.running then (.error .alreadyRunning, o)
  else
    let generation := o.generation + 1
    let o := { o with running := true, cursor := 0, generation, outcomes := [],
                      completions := some generation, watched := true }
    match launch o with
    | (.error e, o) => (.error e, o.reset false)
    | (.ok (), o) => (.ok (), { o with drivers := o.drivers ++ [Driver.of generation] })

/-- Starts a run. -/
def start (o : Orchestrator ω) : Except Refusal Unit × Orchestrator ω := o.startBy launchNext

/-- Begins to stop the run: takes the lock and kills the current stage. -/
def beginStop (o : Orchestrator ω) : Orchestrator ω :=
  if !o.running then o
  else
    match o.current with
    | none => o.reset false
    | some k =>
      { o with current := none, stopping := some k, workers := o.workers.modify k Worker.kill }

/-- Ends a stop once the killed worker is finished. -/
def endStop? (o : Orchestrator ω) : Option (Orchestrator ω) := do
  let k ← o.stopping
  let worker ← o.workers[k]?
  if !worker.isFinished then none
  let (outcome, worker) := worker.collect
  let o := { o with stopping := none, workers := o.workers.set k worker }
  let o := match outcome with
    | some outcome => o.record outcome
    | none => o
  return o.reset false

/-! ## Workers and drivers -/

/-- Changes a worker's task together with the world. -/
def onTask (o : Orchestrator ω) (k : Nat) (f : Task → ω → Task × ω) : Orchestrator ω :=
  match o.workers[k]? with
  | none => o
  | some worker =>
    let (task, world) := f worker.task o.world
    { o with workers := o.workers.set k { worker with task }, world }

/-- Lets a signal arrive at a worker. -/
def work (o : Orchestrator ω) (k : Nat) (signal : Task.Signal) : Orchestrator ω :=
  match o.workers[k]? with
  | none => o
  | some worker =>
    let (worker, world) := worker.step o.world signal
    { o with workers := o.workers.set k worker, world }

/-- Puts a completion into the queue of the driver of its run, unless that one has left. -/
def post (drivers : List Driver) (c : Completion) : List Driver :=
  drivers.map fun d =>
    if d.generation = c.generation && d.isLive then { d with queue := d.queue ++ [c] } else d

/-- Lets a worker send its completion. -/
def report (o : Orchestrator ω) (k : Nat) : Orchestrator ω :=
  match o.workers[k]? with
  | none => o
  | some worker =>
    let (completion, worker) := worker.report
    let drivers := match completion with
      | some c => post o.drivers c
      | none => o.drivers
    { o with workers := o.workers.set k worker, drivers }

/-- Whether more completions of a run may come: the state expects them, or a worker has yet to
report. -/
def channelOpen (o : Orchestrator ω) (generation : Nat) : Bool :=
  o.completions == some generation
    || o.workers.any fun k => k.generation == generation && !k.reported

/-- Lets a driver receive a completion; it leaves if none can come any more. -/
def receive (o : Orchestrator ω) (d : Nat) : Orchestrator ω :=
  match o.drivers[d]? with
  | none => o
  | some driver =>
    if !driver.isLive || driver.inHand.isSome then o
    else
      match driver.queue with
      | c :: queue => { o with drivers := o.drivers.set d { driver with queue, inHand := some c } }
      | [] =>
        if o.channelOpen driver.generation then o
        else { o with drivers := o.drivers.set d { driver with isLive := false } }

/-- Whether a completion that a driver received belongs to the current run. -/
def isCurrent (o : Orchestrator ω) (driver : Driver) (c : Completion) : Bool :=
  o.running && driver.generation == o.generation && c.generation == o.generation

/-- Advances the run by a completion and leaves it to `launch` to launch the next stage; a redirect
target that cannot be opened ends the run. -/
def advanceBy (launch : Launcher ω) (o : Orchestrator ω) (c : Completion) : Orchestrator ω :=
  match launch (o.record c.outcome) with
  | (.ok (), o) => o
  | (.error _, o) => o.reset false

/-- Lets a driver act on the completion it received: it advances the run, or leaves if the
completion is none of the current run. -/
def actBy (launch : Launcher ω) (o : Orchestrator ω) (d : Nat) : Orchestrator ω :=
  match o.drivers[d]? with
  | none => o
  | some driver =>
    match driver.inHand with
    | none => o
    | some c =>
      if o.isCurrent driver c then
        let o := o.advanceBy launch c
        let driver := if o.running then { driver with inHand := none } else driver.left
        { o with drivers := o.drivers.set d driver }
      else { o with drivers := o.drivers.set d (driver.left) }

def advance (o : Orchestrator ω) (c : Completion) : Orchestrator ω := o.advanceBy launchNext c

/-- Lets a driver act. -/
def act (o : Orchestrator ω) (d : Nat) : Orchestrator ω := o.actBy launchNext d

/-! ## What can happen -/

/-- What can happen to an orchestrator. -/
inductive Step (ω : Type) where
  | start
  | beginStop
  | endStop
  | work (worker : Nat) (signal : Task.Signal)
  | report (worker : Nat)
  | receive (driver : Nat)
  | act (driver : Nat)
  /-- Programs change files. -/
  | disturb (world : ω)

/-- What a step leads to, if it can be taken; it is left to `launch` to launch stages. -/
def nextBy? (launch : Launcher ω) (o : Orchestrator ω) : Step ω → Option (Orchestrator ω)
  | .start => if o.isFree then some (o.startBy launch).2 else none
  | .beginStop => if o.isFree then some o.beginStop else none
  | .endStop => o.endStop?
  | .work k signal => some (o.work k signal)
  | .report k => some (o.report k)
  | .receive d => some (o.receive d)
  | .act d => if o.isFree then some (o.actBy launch d) else none
  | .disturb world => some { o with world }

/-- What a step leads to, if it can be taken. -/
def next? (o : Orchestrator ω) (s : Step ω) : Option (Orchestrator ω) := o.nextBy? launchNext s

/-! ## Looking -/

/-- The outcome of the last stage, once there is one. -/
def finalOutcome? (o : Orchestrator ω) : Option Outcome :=
  if o.pipeline.stages.isEmpty then none
  else o.outcomes.find? fun outcome => outcome.index == o.pipeline.stages.length - 1

/-- The lines that the last stage printed; none if they went to a file. -/
def stdoutLines (o : Orchestrator ω) : List Text := (o.finalOutcome?.map (·.stdout)).getD []

/-- The lines that the last stage printed on its error output; none if they went to a file. -/
def stderrLines (o : Orchestrator ω) : List Text := (o.finalOutcome?.map (·.stderr)).getD []

end Orchestrator

end Relay
