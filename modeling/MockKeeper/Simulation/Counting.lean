import MockKeeper.Loop.Basic
import MockKeeper.Watch.Stream

/-! An engine that only counts what is asked of it, for following the control loop
by itself. Its stops can be held back and reported later. -/

namespace MockKeeper.Simulation

structure CountingEngine where
  startFailures : List (Option EngineError) := []
  restartFailures : List (Option EngineError) := []
  holdRestart : Bool := false
  holdRemoval : Bool := false
  starts : Nat := 0
  restarts : Nat := 0
  removals : Nat := 0
  arms : Nat := 0
  held : List StopEvent := []

namespace CountingEngine

def currentId (engine : CountingEngine) : String :=
  "fake-" ++ toString (engine.starts + engine.restarts)

def start (engine : CountingEngine) : Option EngineError × CountingEngine :=
  let rest := { engine with startFailures := engine.startFailures.drop 1 }
  match engine.startFailures.head?.join with
  | some failure => (some failure, rest)
  | none => (none, { rest with starts := engine.starts + 1 })

end CountingEngine

structure CountedLoop where
  loop : ControlLoop
  engine : CountingEngine
  channel : StopChannel := {}
  changes : ChangeStream
  watching : Bool
  interruptOnRestart : Bool := false

namespace CountedLoop

def report (world : CountedLoop) (hold : Bool) : CountedLoop :=
  let event : StopEvent := ⟨world.engine.currentId, none⟩
  if hold then
    { world with engine := { world.engine with held := world.engine.held ++ [event] } }
  else { world with channel := (world.channel.notify event).2 }

def meet (world : CountedLoop) (input : LoopInput) : CountedLoop :=
  match world.loop.step input with
  | some loop =>
    if loop.result?.isSome then { world with loop, changes := world.changes.abandon }
    else { world with loop }
  | none => world

def interruptOnly (world : CountedLoop) : Bool × CountedLoop :=
  if world.loop.terminating then (false, world)
  else
    let begun := world.meet .interrupt
    let counted := { begun with engine := { begun.engine with removals := begun.engine.removals + 1 } }
    (true, counted.report counted.engine.holdRemoval)

/-- The answer to a restart: the current id is reported stopped before the count goes up. -/
def restart (world : CountedLoop) : Option EngineError × CountedLoop :=
  let before := if world.interruptOnRestart then world.interruptOnly.2 else world
  let rest := { before with engine := { before.engine with
    restartFailures := before.engine.restartFailures.drop 1 } }
  match before.engine.restartFailures.head?.join with
  | some failure => (some failure, rest)
  | none =>
    let reported := rest.report rest.engine.holdRestart
    (none, { reported with engine := { reported.engine with
      restarts := reported.engine.restarts + 1 } })

def next? (world : CountedLoop) : Option CountedLoop :=
  match world.loop.point with
  | .ready | .returned _ => none
  | .starting =>
    let (failure, engine) := world.engine.start
    some ({ world with engine }.meet (.started failure))
  | .recovering =>
    let (failure, engine) := world.engine.start
    some ({ world with engine }.meet (.recovered failure))
  | .arming =>
    some ({ world with engine := { world.engine with arms := world.engine.arms + 1 } }.meet .armed)
  | .restarting =>
    let (failure, after) := world.restart
    some (after.meet (.restarted failure))
  | .leaving _ => some (world.meet .leave)
  | .awaiting =>
    match world.channel.tryReceive with
    | (some event, channel) => some ({ world with channel }.meet (.stopped event))
    | (none, _) =>
      if world.watching then
        match world.changes.take with
        | some changes => some ({ world with changes }.meet .changed)
        | none =>
          if world.changes.ended then
            some ({ world with watching := false, changes := world.changes.abandon }.meet
              .watcherClosed)
          else none
      else none

/-- More steps than can follow each other before somebody outside acts. -/
def patience (world : CountedLoop) : Nat :=
  16 * (4 + world.changes.waiting + world.channel.pending)

def settleWithin : Nat → CountedLoop → CountedLoop
  | 0, world => world
  | fuel + 1, world =>
    match world.next? with
    | none => world
    | some after => settleWithin fuel after

def settle (world : CountedLoop) : CountedLoop := world.settleWithin world.patience

def run (world : CountedLoop) : CountedLoop := (world.meet .run).settle

def change (world : CountedLoop) : Bool × CountedLoop :=
  match world.changes.offer with
  | (.accepted, changes) => (true, settle { world with changes })
  | _ => (false, world)

def closeWatcher (world : CountedLoop) : Bool × CountedLoop :=
  (world.changes.senderOpen, settle { world with changes := world.changes.close })

def interrupt (world : CountedLoop) : Bool × CountedLoop :=
  let (won, after) := world.interruptOnly
  (won, after.settle)

/-- Someone reports a stop to the loop's channel; without an id, the current instance's. -/
def stop (world : CountedLoop) (id : Option String) (error : Option EngineError) :
    Bool × CountedLoop :=
  let (queued, channel) := world.channel.notify ⟨id.getD world.engine.currentId, error⟩
  (queued, settle { world with channel })

def release (world : CountedLoop) : List Bool × CountedLoop :=
  let emptied := { world with engine := { world.engine with held := [] } }
  world.engine.held.foldl (fun (answers, world) event =>
    let (queued, channel) := world.channel.notify event
    (answers ++ [queued], settle { world with channel })) ([], emptied)

def reset (world : CountedLoop) : CountedLoop :=
  settle { world with channel := world.channel.reset }

end CountedLoop

end MockKeeper.Simulation
