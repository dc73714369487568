import Relay.Orchestrator
import Relay.Scene

/-!
# Sessions

A session runs an orchestrator on a host: it starts real programs, follows them and lets workers and
drivers take their steps in the order in which things happen.
-/

namespace Relay

/-- An orchestrator on a host with those who watch it. -/
structure Session where
  orchestrator : Orchestrator Host
  /-- What the current stage's program does next. -/
  standing : Standing := .gone
  /-- What earlier programs left behind. -/
  leftover : Option Leftover := none
  /-- The positions of the receivers in the log. -/
  receivers : List Nat := []

namespace Session

def of (o : Orchestrator Host) : Session := { orchestrator := o }

def host (s : Session) : Host := s.orchestrator.world

/-- The host and what is at work on it. -/
def scene (s : Session) : Scene :=
  { host := s.host, standing := s.standing, leftover := s.leftover }

def onHost (s : Session) (f : Host → Host) : Session :=
  { s with orchestrator := { s.orchestrator with world := f s.orchestrator.world } }

/-- A session after something happened on its host. -/
def withScene (s : Session) (scene : Scene) : Session :=
  { s.onHost (fun _ => scene.host) with standing := scene.standing, leftover := scene.leftover }

/-- Changes a worker's task together with the host and what is at work on it. -/
def onTask (s : Session) (k : Nat) (f : Task → Scene → Task × Scene) : Session :=
  match s.orchestrator.workers[k]? with
  | none => s
  | some worker =>
    let (task, scene) := f worker.task s.scene
    let s := s.withScene scene
    { s with orchestrator := s.orchestrator.onTask k fun _ h => (task, h) }

def start (s : Session) : Except Refusal Unit × Session :=
  let (r, orchestrator) := s.orchestrator.start
  let standing := match r with
    | .ok () => .unstarted
    | .error _ => s.standing
  (r, { s with orchestrator, standing })

/-- Lets the driver of the latest run receive a completion and act on it. -/
def drive (o : Orchestrator Host) : Orchestrator Host :=
  let d := o.drivers.length - 1
  (o.receive d).act d

/-- Whether the task of a worker is over. -/
def isOver (s : Session) (k : Nat) : Bool :=
  s.orchestrator.workers[k]?.any fun worker => worker.task.isOver

/-- Lets the run go on while patience lasts, for at most so many stages. -/
def settle (p : Patience) : Nat → Session → Session
  | 0, s => s
  | n + 1, s =>
    match s.orchestrator.current with
    | none => s.withScene (s.scene.settle p)
    | some k =>
      let s := s.onTask k (Task.proceed s.orchestrator.settings p)
      if s.isOver k then
        settle p n
          { s with orchestrator := drive (s.orchestrator.report k), standing := .unstarted }
      else s

/-- How many stages a run has, and one more for what happens behind them. -/
def stageCount (s : Session) : Nat := s.orchestrator.pipeline.stages.length + 1

/-- Waits for the end of the run. -/
def wait (s : Session) : Session := s.settle .endless s.stageCount

def pass (s : Session) (milliseconds : Nat) : Session :=
  s.settle (s.scene.patience milliseconds) s.stageCount

def waitForFile (s : Session) (path : Text) : Session :=
  s.settle (.untilHolds path) s.stageCount

def stop (s : Session) : Session :=
  let o := s.orchestrator.beginStop
  let s := { s with orchestrator := o }
  match o.stopping with
  | none => s
  | some k =>
    let s := s.onTask k (Task.takeKill o.settings)
    let o := s.orchestrator.report k
    { s with orchestrator := drive ((o.endStop?).getD o), standing := .gone }

/-- Adds a receiver, which is told what happens from now on; answers its number. -/
def subscribe (s : Session) : Nat × Session :=
  (s.receivers.length, { s with receivers := s.receivers ++ [s.orchestrator.log.length] })

/-- What a receiver was not told yet. -/
def events (s : Session) (receiver : Nat) : List Event.News × Session :=
  let o := s.orchestrator
  let position := s.receivers.getD receiver o.log.length
  (Event.pending o.settings.eventCapacity o.log position,
    { s with receivers := s.receivers.set receiver o.log.length })

end Session

end Relay
