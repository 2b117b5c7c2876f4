import MockKeeper.Command.Up
import MockKeeper.Loop.Watched
import MockKeeper.Proxy.Server
import MockKeeper.Simulation.Stage
import MockKeeper.Simulation.Turn

/-! Running an engine for a config directory on a simulated machine: the loop, its engine,
the watch and the proxy, driven in time by what somebody outside does. -/

namespace MockKeeper.Simulation

inductive Happening
  /-- Waits until so many engines have come up. -/
  | awaitLaunches (count : Nat)
  | awaitText (text : String)
  | act (action : FileTree.Action)
  | sleep (span : Elapsed)
  | signal
deriving DecidableEq, Repr

inductive ProxyState
  | absent
  | listening (address : String)
  | failed (error : OsError)
deriving DecidableEq, Repr

structure UpRun where
  watched : WatchedSession
  stage : Stage
  places : List (List Name) := []
  proxy : ProxyState := .absent
  log : Log := []

namespace UpRun

def session (world : UpRun) : Session := world.watched.session

def follow (world : UpRun) (watched : WatchedSession) : UpRun :=
  { world with watched, log := world.log ++ watched.session.linesSince world.session }

def result? (world : UpRun) : Option (Except EngineError Summary) := world.session.loop.result?

/-- Whether the loop waits for something to happen, or has ended. -/
def loopWaits (world : UpRun) : Bool :=
  match world.session.loop.point with
  | .awaiting | .returned _ => true
  | _ => false

/-- Begins a run as it was planned. The proxy begins as soon as the loop has to wait. -/
def start (plan : UpPlan) (host : Host) : Except CommandFailure UpRun := do
  let (places, debouncer) ← match plan.window with
    | none => pure ([], ({ window := 0, point := .stopped } : Debouncer))
    | some window =>
      match host.tree.watchedPlaces plan.configDir with
      | .ok places => pure (places, ({ window := window.nanoseconds } : Debouncer))
      | .error error => .error (.unwatched plan.configDir error)
  let (proxy, meanwhile) := match plan.proxy with
    | none => (ProxyState.absent, [])
    | some settings =>
      match host.listen settings.port with
      | .ok address => (.listening address, Proxy.openingLines address settings.upstream)
      | .error error => (.failed error, [])
  let session : Session :=
    { loop := plan.loop
      engine := { title := plan.kind.name, port := plan.options.port, channels := [{}] }
      changes := { capacity := 1 }, watching := plan.window.isSome }
  let world : UpRun :=
    { watched := { session, debouncer }
      stage := { kind := plan.kind, options := plan.options, host, meanwhile }
      places, proxy, log := [plan.openingLine] }
  return match world.watched.step (.session .run) with
    | some watched => world.follow watched
    | none => world

def nextMeanwhile? (world : UpRun) : Option UpRun :=
  if world.loopWaits && !world.stage.meanwhile.isEmpty then
    some { world with
      stage := { world.stage with meanwhile := [] }, log := world.log ++ world.stage.meanwhile }
  else none

def nextEngine? (world : UpRun) : Option UpRun :=
  (world.stage.next? world.session.engine world.watched.now).map fun (engine, stage) =>
    { world with stage }.follow
      { world.watched with session := { world.session with engine } }

def nextTurn? (world : UpRun) : Option UpRun :=
  world.session.turn?.bind fun event =>
    (world.watched.step (.session event)).map world.follow

def nextReport? (world : UpRun) : Option UpRun :=
  (world.watched.step .debounce).map world.follow

def next? (world : UpRun) : Option UpRun :=
  world.nextMeanwhile? <|> world.nextEngine? <|> world.nextTurn? <|> world.nextReport?

def patience : Nat := 4000

def settleWithin : Nat → UpRun → UpRun
  | 0, world => world
  | fuel + 1, world =>
    match world.next? with
    | none => world
    | some after => settleWithin fuel after

def settle (world : UpRun) : UpRun := world.settleWithin patience

def moment? (world : UpRun) : Option Nat :=
  ((world.stage.moment? world.session.engine).toList ++
    (world.watched.debouncer.wake?).toList).min?

def goTo (world : UpRun) (moment : Nat) : UpRun :=
  let span := moment - world.watched.now
  match world.watched.step (.elapse span) with
  | some watched => { world with watched }
  | none => world

/-- Time passes, from one moment that is waited for to the next, until something is so, or
until a moment. -/
def waitFor (so : UpRun → Bool) (limit : Option Nat) : Nat → UpRun → UpRun
  | 0, world => world
  | fuel + 1, world =>
    let settled := world.settle
    if so settled then settled
    else
      match settled.moment?, limit with
      | some moment, none => waitFor so limit fuel (settled.goTo moment)
      | some moment, some limit =>
        if moment ≤ limit then waitFor so (some limit) fuel (settled.goTo moment)
        else settled.goTo limit
      | none, some limit => settled.goTo limit
      | none, none => settled

def hasEnded (world : UpRun) : Bool := world.result?.isSome

def rest (world : UpRun) (span : Elapsed) : UpRun :=
  world.waitFor (fun _ => false) (some (world.watched.now + span.nanoseconds)) patience

/-- How many engines have come up: those with a process of their own, or a wait for their
container. -/
def launchCount (world : UpRun) : Nat :=
  world.stage.host.launches.length + world.stage.host.waits.length

def act (world : UpRun) (action : FileTree.Action) : UpRun :=
  match world.stage.host.tree.perform action with
  | none => world
  | some changed =>
    let told := (List.range (changed.seenBy world.places)).foldl (fun (watched : WatchedSession) _ =>
      (watched.step .rawChange).getD watched) world.watched
    { world with
      watched := told
      stage := { world.stage with host := { world.stage.host with tree := changed.tree } }
      places := changed.carry world.places }

def happen (world : UpRun) : Happening → UpRun
  | .awaitLaunches count => world.waitFor
      (fun world => decide (count ≤ world.launchCount) || world.hasEnded) none patience
  | .awaitText text => world.waitFor (fun world =>
      (world.log.any fun line => ((line.render.splitOn text).length != 1)) || world.hasEnded)
      none patience
  | .act action => world.act action
  | .sleep span => world.rest span
  | .signal => ((world.watched.step (.session .interrupt)).map world.follow).getD world

def pause : Elapsed := .ofMilliseconds 40

/-- Does one thing after another, as long as the run has not ended. -/
def play (world : UpRun) (happenings : List Happening) : UpRun :=
  happenings.foldl (fun world happening =>
    let settled := world.settle
    if settled.hasEnded then settled else (settled.happen happening).rest pause) world

def proxyLines (world : UpRun) : Log :=
  match world.proxy with
  | .absent => []
  | .listening address => [Proxy.closingLine address]
  | .failed error => [proxyFailedLine error]

def conclude (world : UpRun) : Except CommandFailure Unit × UpRun :=
  let ended := world.waitFor hasEnded none patience
  let closed := { ended with log := ended.log ++ ended.proxyLines }
  match ended.result? with
  | some (.ok summary) => (.ok (), { closed with log := closed.log ++ [summary.closingLine] })
  | some (.error error) => (.error (.engine error), closed)
  | none => (.ok (), ended)

end UpRun

end MockKeeper.Simulation
