import MockKeeper.Engine.Basic
import MockKeeper.Engine.Probe
import MockKeeper.Simulation.Host

/-! The backend of an engine on a simulated machine: containers or processes. It answers
what the engine asks for, step by step, and everything that can happen at a moment
happens before time goes on. -/

namespace MockKeeper.Simulation

/-- What stands behind an instance, and what ends it: the behaviour of its process, or the
answer to the wait for its container. -/
inductive Hosted
  | process (run : ProcessRun) (conduct : Conduct)
  | container (run : ContainerRun) (answer : Except String ToolAnswer)

structure Stage where
  kind : EngineKind
  options : LaunchOptions
  tool : String := "docker"
  host : Host := {}
  hosted : List Hosted := []
  /-- Lines that others write as soon as the engine has to wait for the tool. -/
  meanwhile : Log := []
  later : List (Nat × LogLine) := []

namespace Stage

abbrev Acting := StateM (Stage × Log)

def note (line : LogLine) : Acting Unit := modify fun (stage, log) => (stage, log ++ [line])

def call (command : ContainerCommand) : Acting (Except String ToolAnswer) := do
  let (stage, log) ← get
  let (answer, host) := stage.host.callTool stage.tool command
  set (({ stage with host, meanwhile := [] } : Stage), log ++ stage.meanwhile)
  return answer

def callFor (command : ContainerCommand) : Acting (Except EngineError String) := do
  let answer ← call command
  return toolResult (← get).1.tool command (Host.reply answer)

def containerTool (stage : Stage) : ContainerTool Acting :=
  { program := stage.tool, call := callFor, note }

def after {α : Type} (stage : Stage) (engine : Engine) (act : Acting α)
    (event : α → EngineEvent) : Option (Engine × Stage) :=
  let (answer, (stage, log)) := act.run (stage, [])
  ({ engine with log := engine.log ++ log }.step (event answer)).map fun engine => (engine, stage)

/-- The line by which a launch is told to have failed to come up, and when it is written. In
this machine nobody answers. -/
def readiness (options : LaunchOptions) (now : Nat) : List (Nat × LogLine) :=
  match options.readyTimeout with
  | none => []
  | some timeout => [(now + Probe.refusedUntil timeout, Probe.logLine options.port timeout false)]

def adopt (hosted : Hosted) (now : Nat) : Acting Unit :=
  modify fun (stage, log) =>
    ({ stage with
        hosted := stage.hosted ++ [hosted]
        later := stage.later ++ readiness stage.options now }, log)

def launch (now : Nat) : Acting (Except EngineError Launched) := do
  let (stage, _) ← get
  match stage.kind with
  | .process =>
    match stage.host.startProcess stage.options with
    | (.error reason, _) => return .error (.spawn stage.options.engineBinary reason)
    | (.ok conduct, host) =>
      set (({ stage with host } : Stage), (← get).2)
      let launched : Launched := { id := processId host.processes (some Host.pid), pid := some Host.pid }
      note (processLaunchedLine stage.options.engineBinary launched.id)
      adopt (.process { entry := { id := launched.id, pid := launched.pid } } conduct) now
      return .ok launched
  | .docker =>
    match ← stage.containerTool.launch stage.options with
    | .error error => return .error error
    | .ok id =>
      let answer ← call (.wait id)
      adopt (.container (.launched { id }) answer) now
      return .ok { id }

def prepare : Acting (Option EngineError) := do
  let (stage, _) ← get
  match stage.kind with
  | .process => return none
  | .docker => stage.containerTool.prepare stage.options

def processEvent? (run : ProcessRun) (conduct : Conduct) : Option ProcessEvent :=
  match run.entry.supervision with
  | .running =>
    if run.entry.killRequested && !run.noticed then some .noticeKill
    else (conduct.end? run.signals).map fun status => .exited (.ok status)
  | .ended _ => some .examine
  | _ => none

def processTeardown? (run : ProcessRun) (now : Nat) : Option ProcessEvent :=
  match run.teardown with
  | .unasked => some (.terminate now true)
  | .waiting deadline =>
    if run.entry.gone?.isSome then some .gone
    else if deadline ≤ now then some (.graceOver now) else none
  | .insisting => if run.entry.gone?.isSome then some .gone else none
  | .done => none

def containerEvent? (stage : Stage) (run : ContainerRun) (answer : Except String ToolAnswer) :
    Option (Acting (ContainerEvent × Except String ToolAnswer)) :=
  let id := run.entry.id
  match run.entry.supervision with
  | .running =>
    if run.following == .killing then
      some do
        let result ← callFor (.kill id)
        return (.killed result, ← call (.wait id))
    else if run.entry.killRequested && run.following == .waiting then
      some (return (.noticeKill, answer))
    else if stage.host.waitReturns answer id then
      some (return (.waited (toolResult stage.tool (.wait id) (Host.reply answer)), answer))
    else none
  | .ended _ => some (return (.examine, answer))
  | _ => none

def containerTeardown? (stage : Stage) (run : ContainerRun) : Option (Acting ContainerEvent) :=
  let id := run.entry.id
  match run.teardown with
  | .unasked => some (return .terminate)
  | .stopping => some do return .stopped (← callFor (.stop id stage.options.stopGrace.seconds))
  | .waiting => if run.entry.gone?.isSome then some (return .gone) else none
  | .removing => some do return .removed (← callFor (.remove id))
  | .done => none

/-- The engine after something happened behind an instance, and the lines written of it. -/
def publish (engine : Engine) (index : Nat) (entry : Instance) (log : Log) : Engine :=
  { engine.changeInstance index (fun _ => entry) with log := engine.log ++ log }

/-- One event of a process. The engine sees it as a change of its instance. -/
def stepProcess (stage : Stage) (engine : Engine) (index : Nat) (run : ProcessRun)
    (conduct : Conduct) (event : ProcessEvent) : Option (Engine × Stage) :=
  (run.step stage.options.stopGrace event).map fun next =>
    (publish engine index next.entry next.log,
      { stage with hosted := stage.hosted.set index (.process { next with log := [] } conduct) })

def stepContainer (stage : Stage) (engine : Engine) (index : Nat) (run : ContainerRun)
    (act : Acting (ContainerEvent × Except String ToolAnswer)) : Option (Engine × Stage) :=
  let ((event, answer), (stage, log)) := act.run (stage, [])
  (run.step stage.options.stopGrace event).map fun next =>
    (publish engine index next.entry (log ++ next.log),
      { stage with hosted := stage.hosted.set index (.container { next with log := [] } answer) })

def hosted? (stage : Stage) (engine : Engine) (index : Nat) : Option Hosted :=
  match stage.hosted[index]?, engine.instances[index]? with
  | some (.process run conduct), some entry => some (.process { run with entry } conduct)
  | some (.container run answer), some entry => some (.container { run with entry } answer)
  | _, _ => none

def nextOf? (stage : Stage) (engine : Engine) (index : Nat) : Option (Engine × Stage) :=
  let own := match stage.hosted? engine index with
    | some (.process run conduct) =>
      (processEvent? run conduct).bind (stage.stepProcess engine index run conduct)
    | some (.container run answer) =>
      (stage.containerEvent? run answer).bind (stage.stepContainer engine index run)
    | none => none
  own <|> ((engine.instances[index]?).bind fun entry =>
    entry.waiters.head?.bind fun channel => engine.step (.report index channel)).map (·, stage)

def nextTeardown? (stage : Stage) (engine : Engine) (index now : Nat) : Option (Engine × Stage) :=
  match stage.hosted? engine index with
  | some (.process run conduct) =>
    if run.teardown == .done then (engine.step .terminated).map (·, stage)
    else (processTeardown? run now).bind (stage.stepProcess engine index run conduct)
  | some (.container run answer) =>
    if run.teardown == .done then (engine.step .terminated).map (·, stage)
    else (stage.containerTeardown? run).bind fun act =>
      stage.stepContainer engine index run (do return (← act, answer))
  | none => none

def nextCall? (stage : Stage) (engine : Engine) (now : Nat) : Option (Engine × Stage) :=
  match engine.busy with
  | none => if engine.waiting.isEmpty then none else (engine.step (.begin 0)).map (·, stage)
  | some work =>
    match work.stage with
    | .preparing => stage.after engine prepare .prepared
    | .launching => stage.after engine (launch now) .launched
    | .terminating index => stage.nextTeardown? engine index now

def nextLine? (stage : Stage) (engine : Engine) (now : Nat) : Option (Engine × Stage) :=
  match stage.later.find? fun (moment, _) => moment ≤ now with
  | none => none
  | some due => some (engine.note due.2, { stage with later := stage.later.erase due })

def next? (stage : Stage) (engine : Engine) (now : Nat) : Option (Engine × Stage) :=
  stage.nextLine? engine now <|>
    (List.range engine.instances.length).findSome? (stage.nextOf? engine) <|>
    stage.nextCall? engine now

def moment? (stage : Stage) (engine : Engine) : Option Nat :=
  let deadlines := (List.range stage.hosted.length).filterMap fun index =>
    match stage.hosted? engine index with
    | some (.process run _) =>
      match run.teardown with
      | .waiting deadline => if run.entry.gone?.isSome then none else some deadline
      | _ => none
    | _ => none
  (deadlines ++ stage.later.map Prod.fst).min?

end Stage

structure HostedEngine where
  engine : Engine
  stage : Stage
  now : Nat := 0

namespace HostedEngine

def patience : Nat := 1000

def settleWithin : Nat → HostedEngine → HostedEngine
  | 0, world => world
  | fuel + 1, world =>
    match world.stage.next? world.engine world.now with
    | none => world
    | some (engine, stage) => settleWithin fuel { world with engine, stage }

def settle (world : HostedEngine) : HostedEngine := world.settleWithin patience

/-- Time passes, from one moment that is waited for to the next, until something is there. -/
def waitFor (there : HostedEngine → Bool) : Nat → HostedEngine → HostedEngine
  | 0, world => world
  | fuel + 1, world =>
    let settled := world.settle
    if there settled then settled
    else
      match settled.stage.moment? settled.engine with
      | none => settled
      | some moment => waitFor there fuel { settled with now := max settled.now moment }

def call (world : HostedEngine) (operation : Operation) : Option EngineError × HostedEngine :=
  let called := { world with engine := world.engine.enqueue 0 operation }
  let answered := called.waitFor (fun world => (world.engine.answer? 0).isSome) patience
  ((answered.engine.answer? 0).join, settle { answered with engine := answered.engine.takeAnswer 0 })

def receive (world : HostedEngine) : Option StopEvent × HostedEngine :=
  let waited := world.waitFor (fun world => world.engine.channels.any fun queue => 0 < queue.pending)
    patience
  let event := (waited.engine.channels.head?.map StopChannel.tryReceive).bind Prod.fst
  (event, { waited with engine := { waited.engine with
    channels := waited.engine.channels.map fun queue => queue.tryReceive.2 } })

def pending (world : HostedEngine) : Nat := 
  world.engine.channels.foldl (fun count queue => count + queue.pending) 0

def start (stage : Stage) : HostedEngine :=
  { engine := { title := stage.kind.name, port := stage.options.port, channels := [{}] }, stage }

end HostedEngine

end MockKeeper.Simulation
