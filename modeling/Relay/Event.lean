import Relay.Outcome

/-!
# Events

What observers of a run are told.  The events that were sent so far form a log; a receiver is a
position in it.  Only the latest events are kept for receivers: one that falls behind learns how
many it missed and goes on with the oldest event that is kept.
-/

namespace Relay

/-- News of a run. -/
inductive Event where
  /-- A stage was launched. -/
  | started (index : Nat) (program : Text)
  /-- A stage is over. -/
  | finished (index : Nat) (status : Status)
  /-- No run is in progress any more; the flag tells whether the run was completed. -/
  | idle (completed : Bool)
  deriving DecidableEq, Repr

namespace Event

/-- How many events are kept, given how many are asked for: at least one, and a power of two. -/
def kept (capacity : Nat) : Nat := (max capacity 1).nextPowerOfTwo

/-- What a receiver is told. -/
inductive News where
  | event (e : Event)
  /-- So many events are lost. -/
  | lagged (missed : Nat)
  deriving DecidableEq, Repr

/-- What a receiver at a position in the log is told, which takes it to the end of the log. -/
def pending (capacity : Nat) (log : List Event) (position : Nat) : List News :=
  let oldest := log.length - kept capacity
  let missed := if position < oldest then [News.lagged (oldest - position)] else []
  missed ++ (log.drop (max position oldest)).map News.event

end Event

end Relay
