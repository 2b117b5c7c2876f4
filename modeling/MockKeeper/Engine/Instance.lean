import MockKeeper.Stop.Channel

/-! A supervised engine instance. A supervisor follows the run behind it and
publishes how it ended, once. Everyone who waits for the instance, and every
channel registered with it, is told that one ending. -/

namespace MockKeeper

inductive Outcome
  | success
  | failure (detail : String)
  | error (cause : EngineError)
  /-- The supervisor died and will never publish anything. -/
  | lost
deriving DecidableEq, Repr

inductive Supervision
  | running
  /-- The run is over and the supervisor has not looked at it yet. -/
  | ended (outcome : Outcome)
  /-- The ending is published: an error, or none if the stop was wanted or clean. -/
  | published (error : Option EngineError)
  | lost
deriving DecidableEq, Repr

structure Instance where
  id : String
  pid : Option Nat := none
  /-- A stop was asked for, so the coming end is not an error. -/
  stopRequested : Bool := false
  killRequested : Bool := false
  supervision : Supervision := .running
  watchers : List Nat := []
  /-- Those of them that have not been told yet. -/
  waiters : List Nat := []
deriving DecidableEq, Repr

namespace Instance

/-- An instance counts as running until its end is published. -/
def isRunning (entry : Instance) : Bool :=
  match entry.supervision with
  | .published _ => false
  | _ => true

/-- What someone waiting for the instance is told, once it is gone. An instance
whose supervisor died is gone without an error. -/
def gone? (entry : Instance) : Option (Option EngineError) :=
  match entry.supervision with
  | .published error => some error
  | .lost => some none
  | _ => none

def markStopping (entry : Instance) : Instance := { entry with stopRequested := true }

def requestKill (entry : Instance) : Instance := { entry with killRequested := true }

/-- The run ends. Only the first ending counts. -/
def finish (entry : Instance) (outcome : Outcome) : Option Instance :=
  match entry.supervision with
  | .running => some { entry with supervision := .ended outcome }
  | _ => none

def publishedError (id : String) (stopRequested : Bool) : Outcome → Option EngineError
  | .failure detail => if stopRequested then none else some (.exited id detail)
  | .error cause => if stopRequested then none else some cause
  | _ => none

def examine (entry : Instance) : Option Instance :=
  match entry.supervision with
  | .ended .lost => some { entry with supervision := .lost }
  | .ended outcome =>
    some { entry with
      supervision := .published (publishedError entry.id entry.stopRequested outcome) }
  | _ => none

/-- Registers a channel to be told of the stop; a registered one is not added again. -/
def watch (entry : Instance) (channel : Nat) : Instance :=
  if channel ∈ entry.watchers then entry
  else { entry with
    watchers := entry.watchers ++ [channel], waiters := entry.waiters ++ [channel] }

def report (entry : Instance) (channel : Nat) : Option (StopEvent × Instance) :=
  match entry.gone? with
  | some error =>
    if channel ∈ entry.waiters then
      some (⟨entry.id, error⟩, { entry with waiters := entry.waiters.erase channel })
    else none
  | none => none

end Instance

end MockKeeper
