import MockKeeper.Engine.Container
import MockKeeper.Files.Tree
import MockKeeper.Simulation.Conduct

/-! A simulated machine for engines to run on: the programs it has, engine processes that
behave as planned, and a container tool that answers from a script. It keeps a record of
what it was asked. -/

namespace MockKeeper.Simulation

structure ToolAnswer where
  /-- What it writes, unless what it writes follows from the call. -/
  output : Option Bytes := none
  complaint : Bytes := []
  code : Nat := 0
  /-- A wait returns at once instead of when the container has ended. -/
  atOnce : Bool := false
deriving DecidableEq, Repr

structure EngineLaunch where
  arguments : List String
  levelWord : String
deriving DecidableEq, Repr

inductive Program
  | engine
  | tool
  | shell
  | quits (number : Nat)
deriving DecidableEq, Repr

structure Host where
  tree : FileTree := {}
  /-- The behaviour of the engines still to be launched; then they run on. -/
  plan : List Conduct := []
  /-- The answers of the tool by the first word of the call; the last one stays. -/
  answers : List (String × List ToolAnswer) := []
  launches : List EngineLaunch := []
  calls : List (List String) := []
  halted : List String := []
  processes : Nat := 0
  busyPorts : List Nat := []

namespace Host

def pid : Nat := 41005

def freePort : Nat := 41004

def listen (host : Host) (port : Nat) : Except OsError String :=
  if host.busyPorts.contains port then .error .addressInUse
  else .ok s!"0.0.0.0:{if port = 0 then freePort else port}"

def zeroReason : String := "nul byte found in provided data"

def searched : List (String × Program) :=
  [("fake-engine", .engine), ("docker", .tool), ("sh", .shell), ("true", .quits 0), ("false", .quits 1)]

def directories : List String :=
  ["/", "/bin", "/dev", "/etc", "/home", "/opt", "/proc", "/root", "/sys", "/tmp", "/usr",
    "/usr/bin", "/usr/lib", "/var"]

/-- The program at a path, or why it cannot be run. Files of the tree are no programs. -/
def programAt (host : Host) (path : String) : Except OsError Program :=
  let bare := String.ofList ((path.toList.reverse.dropWhile (· == '/')).reverse)
  if directories.contains bare || bare.isEmpty then .error .permissionDenied
  else
    match searched.find? fun (name, _) => path == "/bin/" ++ name || path == "/usr/bin/" ++ name with
    | some (_, program) => .ok program
    | none =>
      match host.tree.entry (Utf8.encode path) with
      | .ok _ => .error .permissionDenied
      | .error (.system error) => .error error
      | .error .zeroByte => .error .notFound

def program (host : Host) (command : String) (arguments : List String) : Except String Program :=
  if (command :: arguments).any fun text => text.toList.contains '\x00' then .error zeroReason
  else if command == "." || command == ".." then .error OsError.permissionDenied.message
  else if command.toList.contains '/' then (host.programAt command).mapError OsError.message
  else
    match searched.lookup command with
    | some program => .ok program
    | none => .error OsError.notFound.message

def startProcess (host : Host) (options : LaunchOptions) : Except String Conduct × Host :=
  let arguments := options.processArguments
  match host.program options.engineBinary (options.levelWord :: arguments) with
  | .error reason => (.error reason, host)
  | .ok program =>
    let counted := { host with processes := host.processes + 1 }
    match program with
    | .engine =>
      (.ok (host.plan.headD .runs),
        { counted with
          plan := host.plan.drop 1
          launches := host.launches ++ [⟨arguments, options.levelWord⟩] })
    | .shell => (.ok (Conduct.ofShell arguments), counted)
    | .quits number => (.ok (.ends (.code number)), counted)
    | .tool => (.ok (.ends (.code 0)), { counted with calls := host.calls ++ [arguments] })

def containerId (number : Nat) : String :=
  let digits := toString number
  "".pushn '0' (12 - digits.length) ++ digits ++ "".pushn '0' 20

def usualOutput (command : ContainerCommand) (number : Nat) : Bytes :=
  match command with
  | .run _ => Utf8.encode (containerId number ++ "\n")
  | .wait _ => Utf8.encode "0\n"
  | _ => []

/-- The containers that are halted after a call. A stop that fails halts none. -/
def haltedAfter (host : Host) (command : ContainerCommand) (code : Nat) : List String :=
  match command with
  | .stop id _ => if code = 0 then id :: host.halted else host.halted
  | .kill id => id :: host.halted
  | _ => host.halted

def answerTool (host : Host) (command : ContainerCommand) : ToolAnswer × Host :=
  let earlier := (host.calls.filter fun call => call.head? == some command.word).length
  let scripted := (host.answers.lookup command.word).getD []
  let answer := (scripted[earlier]?).getD (scripted.getLastD {})
  ({ answer with output := some (answer.output.getD (usualOutput command (earlier + 1))) },
    { host with
      calls := host.calls ++ [command.arguments]
      halted := host.haltedAfter command answer.code })

def callTool (host : Host) (tool : String) (command : ContainerCommand) :
    Except String ToolAnswer × Host :=
  match host.program tool command.arguments with
  | .error reason => (.error reason, host)
  | .ok .tool =>
    let (answer, after) := host.answerTool command
    (.ok answer, after)
  | .ok (.quits number) => (.ok { code := number, atOnce := true }, host)
  | .ok _ => (.ok { code := 2, atOnce := true }, host)

/-- Whether a wait for a container returns. -/
def waitReturns (host : Host) (answer : Except String ToolAnswer) (id : String) : Bool :=
  match answer with
  | .error _ => true
  | .ok answer => answer.atOnce || host.halted.contains id

def reply (answer : Except String ToolAnswer) : Except String ToolReply :=
  answer.map fun answer =>
    { output := answer.output.getD [], complaint := answer.complaint, status := .code answer.code }

def otherCalls (host : Host) : List (List String) :=
  host.calls.filter fun call => call.head? != some "wait"

def waits (host : Host) : List (List String) :=
  host.calls.filter fun call => call.head? == some "wait"

end Host

end MockKeeper.Simulation
