import MockKeeper.Log
import MockKeeper.Engine.Instance

/-! The engine: at most one instance at a time, launched and torn down under a
lock. Callers queue for the lock, and the holder waits for its backend, so
everything else may happen in between. A state and the events that move it on
are values; whoever runs an engine picks the next event. -/

namespace MockKeeper

/-- A caller's claim on the answer of one call. -/
abbrev Ticket := Nat

/-- What a caller can ask of the engine. Channels are known by their number. -/
inductive Operation
  | start
  /-- Stop the instance, report that stop, and launch another one. -/
  | restart (channel : Nat)
  | remove (channel : Nat)
  | notifyOnStop (channel : Nat)
deriving DecidableEq, Repr

/-- What the holder of the lock waits for. -/
inductive Stage
  | terminating (index : Nat)
  | preparing
  | launching
deriving DecidableEq, Repr

structure Work where
  ticket : Ticket
  operation : Operation
  stage : Stage
deriving DecidableEq, Repr

/-- What the engine asked of its backend. Instances are known by the order of
their launch. -/
inductive BackendCall
  | prepare
  | launch
  | terminate (index : Nat)
deriving DecidableEq, Repr

structure Launched where
  id : String
  pid : Option Nat := none
deriving DecidableEq, Repr

structure Engine where
  title : String
  port : Nat
  channels : List StopChannel
  instances : List Instance := []
  /-- The instance that was launched last, until it is replaced or taken out. -/
  current : Option Nat := none
  /-- The backend's one-off work is done; a backend that has none is prepared from the start. -/
  prepared : Bool := false
  removed : Bool := false
  busy : Option Work := none
  waiting : List (Ticket × Operation) := []
  /-- Answers nobody has taken yet: a failure, or none. -/
  answers : List (Ticket × Option EngineError) := []
  /-- Stops that have no instance behind them are numbered through all engines of a process.
  This is what the counter came to with the last one that this engine reported. -/
  nextSynthetic : Nat := 1
  /-- How many of them the other engines have reported since. -/
  elsewhere : Nat := 0
  calls : List BackendCall := []
  log : Log := []

inductive EngineEvent
  | begin (position : Nat)
  | terminated
  | prepared (failure : Option EngineError)
  | launched (result : Except EngineError Launched)
  | ended (index : Nat) (outcome : Outcome)
  | kill (index : Nat)
  | examine (index : Nat)
  | report (index : Nat) (channel : Nat)
  /-- Another engine of the process reports a stop that has no instance behind it. -/
  | elsewhere

namespace Engine

def runningAt (engine : Engine) (index : Nat) : Bool :=
  (engine.instances[index]?).any Instance.isRunning

def goneAt (engine : Engine) (index : Nat) : Bool :=
  (engine.instances[index]?).any fun entry => entry.gone?.isSome

def runningCurrent (engine : Engine) : Option Nat := engine.current.filter engine.runningAt

def currentId (engine : Engine) : Option String :=
  engine.runningCurrent.bind fun index => (engine.instances[index]?).map Instance.id

def enqueue (engine : Engine) (ticket : Ticket) (operation : Operation) : Engine :=
  { engine with waiting := engine.waiting ++ [(ticket, operation)] }

def answer? (engine : Engine) (ticket : Ticket) : Option (Option EngineError) :=
  engine.answers.lookup ticket

def takeAnswer (engine : Engine) (ticket : Ticket) : Engine :=
  { engine with answers := engine.answers.filter fun entry => entry.1 != ticket }

def finishCall (engine : Engine) (ticket : Ticket) (failure : Option EngineError) : Engine :=
  { engine with busy := none, answers := engine.answers ++ [(ticket, failure)] }

def note (engine : Engine) (line : LogLine) : Engine :=
  { engine with log := engine.log ++ [line] }

def changeInstance (engine : Engine) (index : Nat) (change : Instance → Instance) : Engine :=
  { engine with instances := engine.instances.modify index change }

def deliver (engine : Engine) (channel : Nat) (event : StopEvent) : Engine :=
  { engine with channels := engine.channels.modify channel fun queue => (queue.notify event).2 }

def syntheticNumber (engine : Engine) : Nat := engine.nextSynthetic + engine.elsewhere

def countSynthetic (engine : Engine) : Engine :=
  { engine with nextSynthetic := engine.syntheticNumber + 1, elsewhere := 0 }

/-- Reports a stop that has no instance behind it, under a fresh id. -/
def reportSynthetic (engine : Engine) (channel : Nat) (kind : String) : Engine :=
  engine.countSynthetic.deliver channel ⟨kind ++ "-" ++ toString engine.syntheticNumber, none⟩

def beginLaunch (engine : Engine) (ticket : Ticket) (operation : Operation) : Engine :=
  if engine.prepared then
    { engine with
      busy := some ⟨ticket, operation, .launching⟩, calls := engine.calls ++ [.launch] }
  else
    { engine with
      busy := some ⟨ticket, operation, .preparing⟩, calls := engine.calls ++ [.prepare] }

/-- Has the backend stop an instance whose stop a channel is told of. Its end is
marked as wanted before anything else is done. -/
def beginTermination (engine : Engine) (ticket : Ticket) (operation : Operation)
    (index : Nat) : Engine :=
  { engine.changeInstance index Instance.markStopping with
    busy := some ⟨ticket, operation, .terminating index⟩
    calls := engine.calls ++ [.terminate index] }

/-- A call runs up to the first thing it has to wait for. -/
def takeLock (engine : Engine) (ticket : Ticket) : Operation → Engine
  | .start =>
    if engine.removed then engine.finishCall ticket none
    else if engine.runningCurrent.isSome then engine.finishCall ticket none
    else engine.beginLaunch ticket .start
  | .restart channel =>
    match engine.current with
    | some index =>
      ({ engine with current := none }.changeInstance index (·.watch channel)).beginTermination
        ticket (.restart channel) index
    | none =>
      let reported := engine.reportSynthetic channel "restart"
      if reported.removed then reported.finishCall ticket none
      else reported.beginLaunch ticket (.restart channel)
  | .remove channel =>
    match engine.runningCurrent with
    | some index =>
      let stopping := LogLine.info
        ("stopping engine instance " ++ ((engine.instances[index]?).map Instance.id).getD "")
      (({ engine with removed := true, current := none }.changeInstance index
        (·.watch channel)).note stopping).beginTermination ticket (.remove channel) index
    | none =>
      ({ engine with removed := true, current := none }.reportSynthetic channel
        "removal").finishCall ticket none
  | .notifyOnStop channel =>
    match engine.current with
    | some index => (engine.changeInstance index (·.watch channel)).finishCall ticket none
    | none => engine.finishCall ticket none

def afterTermination (engine : Engine) (work : Work) : Engine :=
  match work.operation with
  | .restart _ =>
    if engine.removed then engine.finishCall work.ticket none
    else engine.beginLaunch work.ticket work.operation
  | _ => engine.finishCall work.ticket none

def adopt (engine : Engine) (work : Work) (launched : Launched) : Engine :=
  let entry : Instance := { id := launched.id, pid := launched.pid }
  let started := LogLine.info ("started " ++ engine.title ++ " engine instance " ++ launched.id ++
    " on port " ++ toString engine.port)
  ({ engine with
    instances := engine.instances ++ [entry]
    current := some engine.instances.length }.note started).finishCall work.ticket none

/-- One event. There is no result where the event cannot happen: the lock is
held or free, an instance still runs or has no waiter for the channel. -/
def step (engine : Engine) : EngineEvent → Option Engine
  | .begin position =>
    match engine.busy, engine.waiting[position]? with
    | none, some (ticket, operation) =>
      some ({ engine with waiting := engine.waiting.eraseIdx position }.takeLock ticket operation)
    | _, _ => none
  | .terminated =>
    match engine.busy with
    | some work =>
      match work.stage with
      | .terminating index => if engine.goneAt index then some (engine.afterTermination work) else none
      | _ => none
    | none => none
  | .prepared failure =>
    match engine.busy with
    | some work =>
      match work.stage, failure with
      | .preparing, none => some ({ engine with prepared := true }.beginLaunch work.ticket work.operation)
      | .preparing, some _ => some (engine.finishCall work.ticket failure)
      | _, _ => none
    | none => none
  | .launched result =>
    match engine.busy with
    | some work =>
      match work.stage, result with
      | .launching, .ok launched => some (engine.adopt work launched)
      | .launching, .error failure => some (engine.finishCall work.ticket (some failure))
      | _, _ => none
    | none => none
  | .ended index outcome =>
    ((engine.instances[index]?).bind (·.finish outcome)).map fun entry =>
      engine.changeInstance index fun _ => entry
  | .kill index =>
    if engine.runningAt index then some (engine.changeInstance index Instance.requestKill) else none
  | .examine index =>
    ((engine.instances[index]?).bind Instance.examine).map fun entry =>
      engine.changeInstance index fun _ => entry
  | .report index channel =>
    ((engine.instances[index]?).bind (·.report channel)).map fun (event, entry) =>
      (engine.changeInstance index fun _ => entry).deliver channel event
  | .elsewhere => some { engine with elsewhere := engine.elsewhere + 1 }

def preparedCount (engine : Engine) : Nat := engine.calls.count .prepare

def launchedCount (engine : Engine) : Nat := engine.calls.count .launch

def terminatedCount (engine : Engine) : Nat :=
  (engine.calls.filter fun call => match call with
    | .terminate _ => true
    | _ => false).length

end Engine

end MockKeeper
