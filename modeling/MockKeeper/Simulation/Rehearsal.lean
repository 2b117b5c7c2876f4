import MockKeeper.Simulation.Script
import MockKeeper.Simulation.Turn

/-! A session over a scripted engine, driven step by step: after each step
everything that can proceed does so, in one fixed order. -/

namespace MockKeeper.Simulation

/-- A session, its scripted backend, and whether each restart is preceded by an interrupt. -/
structure Rehearsal where
  session : Session
  script : Script
  interruptOnRestart : Bool := false
  /-- The interrupt of the restart at hand has been made. -/
  interrupted : Bool := false
  log : Log := []

namespace Rehearsal

/-- The session has moved on; what it wrote meanwhile goes to the common log. -/
def follow (world : Rehearsal) (session : Session) : Rehearsal :=
  { world with session, log := world.log ++ session.linesSince world.session }

def sessionEvent? (world : Rehearsal) : Option SessionEvent :=
  match world.session.turn?, world.session.loop.point with
  | some .call, .restarting =>
    if !world.interruptOnRestart then some .call
    else if !world.interrupted then some .interrupt
    else if !world.session.removalSettled then none
    else some .call
  | event, _ => event

def next? (world : Rehearsal) : Option Rehearsal :=
  match world.script.next? world.session.engine with
  | some (event, script) =>
    (world.session.step (.engine event)).map fun session => { world.follow session with script }
  | none => do
    let event ← world.sessionEvent?
    let session ← world.session.step event
    let interrupted := match event with
      | .interrupt => true
      | .call => false
      | _ => world.interrupted
    some { world.follow session with interrupted }

def patience (world : Rehearsal) : Nat :=
  let engine := world.session.engine
  100 * (4 + engine.instances.length + engine.waiting.length + world.session.changes.waiting +
    world.session.queue.length)

def settleWithin : Nat → Rehearsal → Rehearsal
  | 0, world => world
  | fuel + 1, world =>
    match world.next? with
    | none => world
    | some after => settleWithin fuel after

def settle (world : Rehearsal) : Rehearsal := world.settleWithin world.patience

def act (world : Rehearsal) (event : SessionEvent) : Bool × Rehearsal :=
  match world.session.step event with
  | some session => (true, (world.follow session).settle)
  | none => (false, world.settle)

/-- An interrupt: says whether it began the shutdown. -/
def interrupt (world : Rehearsal) : Bool × Rehearsal :=
  (world.session.interruptWins, (world.act .interrupt).2)

def finishLatest (world : Rehearsal) (outcome : Outcome) : Bool × Rehearsal :=
  world.act (.engine (.ended (world.session.engine.instances.length - 1) outcome))

def stop (world : Rehearsal) (id : Option String) (error : Option EngineError) : Bool × Rehearsal :=
  let engine := world.session.engine
  let event : StopEvent := ⟨(id.orElse fun _ => engine.currentId).getD "", error⟩
  match engine.channels[Session.stopChannel]? with
  | some channel =>
    let (queued, after) := channel.notify event
    (queued, settle { world with session := { world.session with
      engine := { engine with channels := engine.channels.set Session.stopChannel after } } })
  | none => (false, world)

def reset (world : Rehearsal) : Rehearsal :=
  let engine := world.session.engine
  settle { world with session := { world.session with
    engine := { engine with
      channels := engine.channels.modify Session.stopChannel StopChannel.reset } } }

end Rehearsal

end MockKeeper.Simulation
