import MockKeeper.Engine.Basic

/-! A scripted backend. Its answers are given in advance, its instances run until
they are ended or killed, and the engine over it is driven until nothing can
proceed. -/

namespace MockKeeper.Simulation

structure Script where
  /-- One for each time the one-off work is asked for; success when used up. -/
  prepares : List (Option EngineError) := []
  launches : List (Option EngineError) := []
  /-- Ids of the launched instances; numbered names when used up. -/
  ids : List String := []
  onKill : Outcome := .failure "killed"
  nextLaunch : Nat := 1

namespace Script

/-- Answers a launch: only a successful one uses up an id. -/
def launch (script : Script) : Except EngineError Launched × Script :=
  let counted := { script with
    launches := script.launches.drop 1, nextLaunch := script.nextLaunch + 1 }
  match script.launches.head?.join with
  | some failure => (.error failure, counted)
  | none =>
    match script.ids with
    | id :: rest => (.ok { id }, { counted with ids := rest })
    | [] => (.ok { id := "fake-" ++ toString script.nextLaunch }, counted)

def prepare (script : Script) : Option EngineError × Script :=
  (script.prepares.head?.join, { script with prepares := script.prepares.drop 1 })

def instanceEvent? (script : Script) (engine : Engine) : Option EngineEvent :=
  engine.instances.zipIdx.findSome? fun (entry, index) =>
    match entry.supervision with
    | .ended _ => some (.examine index)
    | .running => if entry.killRequested then some (.ended index script.onKill) else none
    | _ => entry.waiters.head?.map (.report index ·)

def lockEvent? (script : Script) (engine : Engine) : Option (EngineEvent × Script) :=
  match engine.busy with
  | none => if engine.waiting.isEmpty then none else some (.begin 0, script)
  | some work =>
    match work.stage with
    | .preparing =>
      let (failure, rest) := script.prepare
      some (.prepared failure, rest)
    | .launching =>
      let (result, rest) := script.launch
      some (.launched result, rest)
    | .terminating index =>
      if engine.goneAt index then some (.terminated, script)
      else if (engine.instances[index]?).any Instance.killRequested then none
      else some (.kill index, script)

def next? (script : Script) (engine : Engine) : Option (EngineEvent × Script) :=
  match script.instanceEvent? engine with
  | some event => some (event, script)
  | none => script.lockEvent? engine

end Script

structure ScriptedEngine where
  engine : Engine
  script : Script

namespace ScriptedEngine

def patience (engine : Engine) : Nat :=
  (16 + engine.channels.length) * (2 + engine.waiting.length + engine.instances.length)

/-- Proceeds until nothing can, or patience is used up. -/
def settleWithin : Nat → ScriptedEngine → ScriptedEngine
  | 0, world => world
  | fuel + 1, world =>
    match world.script.next? world.engine with
    | none => world
    | some (event, script) =>
      match world.engine.step event with
      | none => world
      | some engine => settleWithin fuel { engine, script }

def settle (world : ScriptedEngine) : ScriptedEngine :=
  world.settleWithin (patience world.engine)

def call (world : ScriptedEngine) (operation : Operation) : Option EngineError × ScriptedEngine :=
  let after := settle { world with engine := world.engine.enqueue 0 operation }
  ((after.engine.answer? 0).join, { after with engine := after.engine.takeAnswer 0 })

/-- The latest instance ends by itself. Says whether its supervisor still listened. -/
def finishLatest (world : ScriptedEngine) (outcome : Outcome) : Bool × ScriptedEngine :=
  match world.engine.step (.ended (world.engine.instances.length - 1) outcome) with
  | some engine => (true, settle { world with engine })
  | none => (false, world)

def drain (world : ScriptedEngine) (channel : Nat) : List StopEvent × ScriptedEngine :=
  match world.engine.channels[channel]? with
  | some queue =>
    let (events, rest) := queue.drain
    (events, { world with engine := { world.engine with
      channels := world.engine.channels.set channel rest } })
  | none => ([], world)

def reset (world : ScriptedEngine) (channel : Nat) : ScriptedEngine :=
  { world with engine := { world.engine with
    channels := world.engine.channels.modify channel StopChannel.reset } }

end ScriptedEngine

end MockKeeper.Simulation
