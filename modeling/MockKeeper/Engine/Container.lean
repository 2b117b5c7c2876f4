import MockKeeper.Config.Launch
import MockKeeper.Engine.Process
import MockKeeper.Text.Blank
import MockKeeper.Text.Integer
import MockKeeper.Text.Utf8

/-! An engine run in a container, through the commands of a container tool: how its image
is made ready, how it is launched, what is made of its end, and how it is stopped. -/

namespace MockKeeper

/-- Where a container finds the configuration, and the port its engine listens on. -/
def containerConfigDir : String := "/opt/imposter/config"

def containerPort : Nat := 8080

def managedLabel : String := "mocksync.managed=true"

inductive ContainerCommand
  | inspectImage (image : String)
  | pull (image : String)
  | run (options : LaunchOptions)
  | followLogs (id : String)
  | wait (id : String)
  | stop (id : String) (graceSeconds : Nat)
  | kill (id : String)
  | remove (id : String)
deriving DecidableEq, Repr

namespace ContainerCommand

def runArguments (options : LaunchOptions) : List String :=
  ["run", "-d",
    "-p", s!"{options.port}:{containerPort}",
    "-v", s!"{options.configDir}:{containerConfigDir}:ro",
    "-e", s!"{LaunchOptions.levelVariable}={options.levelWord}",
    "--label", managedLabel,
    imageName options.version,
    s!"--configDir={containerConfigDir}",
    s!"--listenPort={containerPort}"]

def arguments : ContainerCommand → List String
  | .inspectImage image => ["image", "inspect", image]
  | .pull image => ["pull", image]
  | .run options => runArguments options
  | .followLogs id => ["logs", "-f", id]
  | .wait id => ["wait", id]
  | .stop id graceSeconds => ["stop", "-t", toString graceSeconds, id]
  | .kill id => ["kill", id]
  | .remove id => ["rm", "-f", id]

def word (command : ContainerCommand) : String := command.arguments.headD ""

end ContainerCommand

structure ToolReply where
  output : Bytes := []
  complaint : Bytes := []
  status : ExitStatus := .code 0
deriving DecidableEq, Repr

/-- The result of a command: what the tool wrote, or why it failed. A tool that cannot be
started has no reply, only a reason. -/
def toolResult (program : String) (command : ContainerCommand) :
    Except String ToolReply → Except EngineError String
  | .error reason => .error (.spawn program reason)
  | .ok reply =>
    if reply.status.isSuccess then .ok (Utf8.lossy reply.output)
    else .error (.command (program ++ " " ++ command.word) (Text.trim (Utf8.lossy reply.complaint)))

/-- The id of a launched container, short as it is shown: from the last line written. -/
def shortId? (output : String) : Option String :=
  let id := Text.trim ((Text.lines output).getLastD "")
  if id.isEmpty then none else some (String.ofList (id.toList.take 12))

/-- What the output of a wait, an exit code, means for the instance. -/
def waitOutcome (output : String) : Outcome :=
  let said := Text.trim output
  match Text.readInteger true 64 said with
  | .ok code => if code = 0 then .success else .failure s!"exit code {code}"
  | .error _ => .failure s!"unexpected wait output: {said}"

structure ContainerTool (m : Type → Type) where
  program : String
  call : ContainerCommand → m (Except EngineError String)
  note : LogLine → m Unit

namespace ContainerTool

variable {m : Type → Type} [Monad m]

def pull (tool : ContainerTool m) (image : String) : m (Option EngineError) := do
  tool.note (.info ("pulling engine image " ++ image))
  match ← tool.call (.pull image) with
  | .ok _ => return none
  | .error error => return some (.pull image error.message)

/-- Makes the image ready: always pulls it, or only if it is not there. -/
def prepare (tool : ContainerTool m) (options : LaunchOptions) : m (Option EngineError) := do
  let image := imageName options.version
  match options.pullPolicy with
  | .always => tool.pull image
  | .ifNotPresent =>
    match ← tool.call (.inspectImage image) with
    | .ok _ => return none
    | .error _ => tool.pull image

def launch (tool : ContainerTool m) (options : LaunchOptions) : m (Except EngineError String) := do
  match ← tool.call (.run options) with
  | .error error => return .error error
  | .ok output =>
    match shortId? output with
    | some id => return .ok id
    | none => return .error (.command (tool.program ++ " run") "no container id in output")

end ContainerTool

inductive ContainerFollowing
  | waiting
  | killing
  | waitingAgain
deriving DecidableEq, Repr

inductive ContainerTeardown
  | unasked
  | stopping
  | waiting
  | removing
  | done
deriving DecidableEq, Repr

structure ContainerRun where
  entry : Instance
  following : ContainerFollowing := .waiting
  teardown : ContainerTeardown := .unasked
  commands : List ContainerCommand := []
  log : Log := []
deriving DecidableEq, Repr

inductive ContainerEvent
  | waited (result : Except EngineError String)
  | noticeKill
  | killed (result : Except EngineError String)
  | examine
  | terminate
  | stopped (result : Except EngineError String)
  | gone
  | removed (result : Except EngineError String)

namespace ContainerRun

def launched (entry : Instance) : ContainerRun := { entry, commands := [.wait entry.id] }

def command (run : ContainerRun) (command : ContainerCommand) : ContainerRun :=
  { run with commands := run.commands ++ [command] }

def outcomeOf : Except EngineError String → Outcome
  | .ok output => waitOutcome output
  | .error error => .error error

def stopFailedLine (id : String) (error : EngineError) : LogLine :=
  .warn s!"failed to stop container {id}: {error.message}"

def beginRemoval (run : ContainerRun) : ContainerRun :=
  { run with teardown := .removing }.command (.remove run.entry.id)

/-- One event under a grace. There is no result where it cannot happen. -/
def step (run : ContainerRun) (grace : Elapsed) : ContainerEvent → Option ContainerRun
  | .waited result =>
    if run.following == .killing then none
    else (run.entry.finish (outcomeOf result)).map fun entry => { run with entry }
  | .noticeKill =>
    if run.entry.killRequested && run.following == .waiting && run.entry.supervision == .running then
      some ({ run with following := .killing }.command (.kill run.entry.id))
    else none
  | .killed _ =>
    if run.following == .killing then
      some ({ run with following := .waitingAgain }.command (.wait run.entry.id))
    else none
  | .examine => run.entry.examine.map fun entry => { run with entry }
  | .terminate =>
    if run.teardown != .unasked then none
    else
      let marked := { run with entry := run.entry.markStopping }
      if marked.entry.isRunning then
        some ({ marked with teardown := .stopping }.command (.stop run.entry.id grace.seconds))
      else some marked.beginRemoval
  | .stopped result =>
    if run.teardown != .stopping then none
    else
      match result with
      | .ok _ => some { run with teardown := .waiting }
      | .error error =>
        some { run with
          teardown := .waiting, entry := run.entry.requestKill
          log := run.log ++ [stopFailedLine run.entry.id error] }
  | .gone =>
    if run.teardown == .waiting && run.entry.gone?.isSome then some run.beginRemoval else none
  | .removed _ => if run.teardown == .removing then some { run with teardown := .done } else none

end ContainerRun

end MockKeeper
