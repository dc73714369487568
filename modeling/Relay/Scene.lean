import Relay.Launch
import Relay.Task

/-!
# Scenes

A scene is a host on which a stage's program is at work, next to the processes that earlier programs
left behind.  Time passes only while somebody waits: whoever comes first takes a turn, until the
program is gone or patience ends.

What programs do is a tree of turns, and every function here that lets them act recurses over that
tree.  So whoever waits without end for a program sees its end.
-/

namespace Relay

/-! ## Those left behind -/

/-- Processes that programs left behind, and when they go on. -/
structure Leftover where
  due : Nat
  resume : FileTree → Aftermath

namespace Aftermath

/-- What others do next to processes that go on at the time `due`; `join` says what all of them do
once those have taken that turn. -/
def before (due : Nat) (resume : FileTree → Aftermath) (join : FileTree → Leftover → Aftermath) :
    Aftermath → Aftermath
  | .over files => .resting files due resume
  | .resting files due' resume' =>
    .resting files (min due due') fun now =>
      if due < due' then join now ⟨due', resume'⟩ else before due resume join (resume' now)

/-- What two groups of processes do side by side.  Who comes first takes the next turn; at the same
time it is that of the second group. -/
def beside : Aftermath → Leftover → Aftermath
  | .over files, l => .resting files l.due l.resume
  | .resting files due resume, l =>
    before due resume (fun now l => (resume now).beside l) (.resting files l.due l.resume)

end Aftermath

/-! ## Scenes -/

/-- How long somebody waits. -/
inductive Patience where
  /-- Until the program is gone. -/
  | endless
  | upTo (time : Nat)
  /-- Until a path leads to a file. -/
  | untilHolds (path : Text)

/-- What a task's program does next. -/
inductive Standing where
  | unstarted
  | resting (due : Nat) (resume : FileTree → Execution) (kill : FileTree → Aftermath)
  | gone

/-- A host and what is at work on it. -/
structure Scene where
  host : Host
  standing : Standing := .unstarted
  leftover : Option Leftover := none

namespace Scene

/-- The time in microseconds. -/
def now (s : Scene) : Nat := s.host.files.clock

/-- The patience of somebody who waits for some milliseconds. -/
def patience (s : Scene) (milliseconds : Nat) : Patience := .upTo (s.now + 1000 * milliseconds)

def passTo (s : Scene) (time : Nat) : Scene :=
  { s with host := { s.host with files := { s.host.files with clock := max s.now time } } }

/-- What those left behind do. -/
def others (s : Scene) : Aftermath :=
  match s.leftover with
  | none => .over s.host.files
  | some l => .resting s.host.files l.due l.resume

def withOthers (s : Scene) : Aftermath → Scene
  | .over files => { s with host := { s.host with files }, leftover := none }
  | .resting files due resume =>
    { s with host := { s.host with files }, leftover := some ⟨due, resume⟩ }

/-- A scene on which more processes are left behind. -/
def leave (s : Scene) (a : Aftermath) : Scene :=
  match s.leftover with
  | none => s.withOthers a
  | some l => s.withOthers (a.beside l)

/-- Whether patience ends before the next turn, which is that of the program at the time `own?` or
that of others at the time `other?`. -/
def isSpent (s : Scene) (own? other? : Option Nat) : Patience → Bool
  | .endless => own?.isNone
  | .upTo time => (own?.toList ++ other?.toList).all (time < ·)
  | .untilHolds path => s.host.holds path || (own?.isNone && other?.isNone)

/-- A scene on which somebody waited to the end of patience. -/
def waited (s : Scene) : Patience → Scene
  | .upTo time => s.passTo time
  | _ => s

/-- Waits for the turn of the program, if it takes one, at the time `own?`; others take those of
their turns that come first.  Answers whether the turn of the program came while patience lasted. -/
def await (p : Patience) (own? : Option Nat) (s : Scene) : Aftermath → Bool × Scene
  | .over files =>
    let s := s.withOthers (.over files)
    match own? with
    | none => (false, s.waited p)
    | some own => if s.isSpent own? none p then (false, s.waited p) else (true, s.passTo own)
  | .resting files due resume =>
    let s := s.withOthers (.resting files due resume)
    if s.isSpent own? (some due) p then (false, s.waited p)
    else
      match own?.filter (· ≤ due) with
      | some own => (true, s.passTo own)
      | none => await p own? s (resume (s.passTo due).host.files)

/-- Lets those left behind go on while patience lasts. -/
def settle (s : Scene) (p : Patience) : Scene :=
  ({ s with standing := .gone }.await p none s.others).2

end Scene

/-! ## Tasks -/

namespace Task

/-- The signals of one stretch of a program's work. -/
def signalsOf (a : Stretch) : List Signal :=
  [.printed .stdout a.out, .printed .stderr a.err]
    ++ (if a.outOpen then [] else [.ended .stdout])
    ++ (if a.errOpen then [] else [.ended .stderr])

def endSignals (ending : Ending) : List Signal :=
  [.fed (.ok ()), .ended .stdout, .ended .stderr, .exited (.ok (ending.code : Nat))]

/-- The signals of a kill: the task takes it, and the program is dead. -/
def killSignals : List Signal := [.killed, .exited (.ok ((Ending.killed 9).code : Nat))]

/-- Takes in one stretch of a program's work. -/
def observe (t : Task) (h : Host) (a : Stretch) : Task × Host :=
  t.steps { h with files := a.files } (signalsOf a)

/-- Takes in what a program does from now on, while patience lasts. -/
def follow (p : Patience) (t : Task) (s : Scene) : Execution → Task × Scene
  | .ended a ending aftermath =>
    let left := s.leave aftermath
    let (t, host) := t.observe s.host a
    let (t, host) := t.steps host (endSignals ending)
    (t, { left with host, standing := .gone })
  | .resting a due resume kill =>
    let (t, host) := t.observe s.host a
    let s := { s with host, standing := .resting due resume kill }
    match s.await p (some due) s.others with
    | (true, s) => follow p t s (resume s.host.files)
    | (false, s) => (t, s)

/-- Launches a task's program; answers the program unless there is none. -/
def launch (settings : Settings) (t : Task) (h : Host) : Option Execution × Task × Host :=
  match Launch.start h settings (t.argv.headD []) t.argv.tail t.input with
  | .error cause => (none, t.step h (.refused cause))
  | .ok program =>
    let (t, h) := t.step h .launched
    (if t.isOver then none else some program, t, h)

/-- Lets a task go on while patience lasts; its program is launched if it was not. -/
def proceed (settings : Settings) (p : Patience) (t : Task) (s : Scene) : Task × Scene :=
  match s.standing with
  | .unstarted =>
    match s.await p (some s.now) s.others with
    | (false, s) => (t, s)
    | (true, s) =>
      match t.launch settings s.host with
      | (none, t, host) => (t, { s with host, standing := .gone })
      | (some program, t, host) => t.follow p { s with host } program
  | .resting due resume _ =>
    match s.await p (some due) s.others with
    | (false, s) => (t, s)
    | (true, s) => t.follow p s (resume s.host.files)
  | .gone => (t, s)

/-- Kills a task's program, which is launched if it was not. -/
def takeKill (settings : Settings) (t : Task) (s : Scene) : Task × Scene :=
  let (t, s) := match s.standing with
    | .unstarted =>
      let (_, t, host) := t.launch settings s.host
      (t, { s with host })
    | .resting _ _ kill => (t, s.leave (kill s.host.files))
    | .gone => (t, s)
  let (t, host) := t.steps s.host killSignals
  (t, { s with host, standing := .gone })

end Task

namespace Worker

/-- Lets a worker go on while patience lasts. -/
def proceed (settings : Settings) (p : Patience) (k : Worker) (s : Scene) : Worker × Scene :=
  let (task, s) := k.task.proceed settings p s
  ({ k with task }, s)

def stop (settings : Settings) (k : Worker) (s : Scene) : Worker × Scene :=
  let (task, s) := k.task.takeKill settings s
  ({ k.kill with task }, s)

end Worker

end Relay
