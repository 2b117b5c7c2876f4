import MockKeeper.Engine.Instance

/-! One instance with scripted endings. Calls are made one at a time, and after
each one everything that can happen by itself happens. -/

namespace MockKeeper.Simulation

structure Supervised where
  entry : Instance
  channels : List StopChannel
  onKill : Outcome
  /-- The ending from outside can be given once. -/
  endingGiven : Bool := false

inductive SupervisedCall
  | kill
  | mark
  | finish (outcome : Outcome)
  | notify (channel : Nat)
  | wait
  | drain (channel : Nat)
  | reset (channel : Nat)
  | about

inductive SupervisedAnswer
  | unit
  | delivered (value : Bool)
  | pending
  | gone (error : Option EngineError)
  | events (events : List StopEvent)
  | about (id : String) (pid : Option Nat)

namespace Supervised

def reportOne (world : Supervised) (channel : Nat) : Supervised :=
  match world.entry.report channel with
  | none => world
  | some (event, entry) =>
    { world with entry, channels := world.channels.modify channel fun queue => (queue.notify event).2 }

/-- Lets the supervisor and the waiters do all they can. -/
def settle (world : Supervised) : Supervised :=
  let killed := if world.entry.killRequested then world.entry.finish world.onKill else none
  let entry := killed.getD world.entry
  let examined := { world with entry := entry.examine.getD entry }
  examined.entry.waiters.foldl reportOne examined

def call (world : Supervised) (request : SupervisedCall) : SupervisedAnswer × Supervised :=
  let (answer, after) : SupervisedAnswer × Supervised :=
    match request with
    | .kill => (.unit, { world with entry := world.entry.requestKill })
    | .mark => (.unit, { world with entry := world.entry.markStopping })
    | .finish outcome =>
      if world.endingGiven then (.unit, world)
      else
        match world.entry.finish outcome with
        | some entry => (.delivered true, { world with entry, endingGiven := true })
        | none => (.delivered false, { world with endingGiven := true })
    | .notify channel => (.unit, { world with entry := world.entry.watch channel })
    | .wait =>
      match world.entry.gone? with
      | some error => (.gone error, world)
      | none => (.pending, world)
    | .drain channel =>
      match world.channels[channel]? with
      | some queue =>
        let (events, rest) := queue.drain
        (.events events, { world with channels := world.channels.set channel rest })
      | none => (.events [], world)
    | .reset channel =>
      (.unit, { world with channels := world.channels.modify channel StopChannel.reset })
    | .about => (.about world.entry.id world.entry.pid, world)
  (answer, after.settle)

def queued (world : Supervised) : List Nat := world.channels.map StopChannel.pending

end Supervised

end MockKeeper.Simulation
