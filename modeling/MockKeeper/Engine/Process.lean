import MockKeeper.Config.Launch
import MockKeeper.Engine.Instance
import MockKeeper.Log
import MockKeeper.Text.Capitals

/-! An engine run as a local process: how it is launched, what is made of its end, and how
it is stopped. It is asked politely first, and killed when its grace is over. -/

namespace MockKeeper

inductive ExitStatus
  | code (number : Nat)
  | signal (number : Nat)
deriving DecidableEq, Repr

namespace ExitStatus

def isSuccess (status : ExitStatus) : Bool := status == .code 0

def outcome : ExitStatus → Outcome
  | .code 0 => .success
  | .code number => .failure s!"exit code {number}"
  | .signal number => .failure s!"terminated by signal {number}"

end ExitStatus

namespace LaunchOptions

def levelVariable : String := "IMPOSTER_LOG_LEVEL"

def levelWord (options : LaunchOptions) : String := Text.capitalized options.logLevel

/-- The arguments of an engine process. Those from the settings come first. -/
def processArguments (options : LaunchOptions) : List String :=
  options.engineArgs ++
    ["--configDir=" ++ options.configDir, s!"--listenPort={options.port}"]

end LaunchOptions

/-- The id of the instance behind a process: launches are numbered. -/
def processId (number : Nat) (pid : Option Nat) : String :=
  match pid with
  | some pid => s!"process-{number}-pid-{pid}"
  | none => s!"process-{number}"

def processLaunchedLine (program id : String) : LogLine := .info s!"launched {program} as {id}"

inductive Signal
  | term
  | kill
deriving DecidableEq, Repr

inductive ProcessTeardown
  | unasked
  /-- The process was asked to end, and has until a deadline. -/
  | waiting (deadline : Nat)
  /-- The deadline has passed and the supervisor was asked to kill the process. -/
  | insisting
  | done
deriving DecidableEq, Repr

structure ProcessRun where
  entry : Instance
  /-- The supervisor has seen that it shall kill the process. -/
  noticed : Bool := false
  teardown : ProcessTeardown := .unasked
  signals : List Signal := []
  log : Log := []
deriving DecidableEq, Repr

inductive ProcessEvent
  | exited (result : Except String ExitStatus)
  | noticeKill
  | examine
  | terminate (now : Nat) (delivered : Bool)
  | gone
  | graceOver (now : Nat)

namespace ProcessRun

def outcomeOf : Except String ExitStatus → Outcome
  | .ok status => status.outcome
  | .error reason => .error (.system reason)

def graceOverLine (id : String) (grace : Elapsed) : LogLine :=
  .warn s!"engine instance {id} still running after {grace.seconds}s, killing it"

/-- Whether the system can tell a process by this number. It counts them in 32 bits with a sign. -/
def pidFits (pid : Nat) : Bool := pid < Nat.pow 2 31

/-- The termination of a running instance begins. A process that cannot be asked is killed. -/
def beginTeardown (run : ProcessRun) (grace : Elapsed) (now : Nat) (delivered : Bool) : ProcessRun :=
  let asked := { run with teardown := .waiting (now + grace.nanoseconds) }
  match run.entry.pid with
  | none => { asked with entry := asked.entry.requestKill }
  | some pid =>
    let sent := if pidFits pid then { asked with signals := asked.signals ++ [.term] } else asked
    if delivered then sent else { sent with entry := sent.entry.requestKill }

def step (run : ProcessRun) (grace : Elapsed) : ProcessEvent → Option ProcessRun
  | .exited result => (run.entry.finish (outcomeOf result)).map fun entry => { run with entry }
  | .noticeKill =>
    if run.entry.killRequested && !run.noticed && run.entry.supervision == .running then
      some { run with noticed := true, signals := run.signals ++ [.kill] }
    else none
  | .examine => run.entry.examine.map fun entry => { run with entry }
  | .terminate now delivered =>
    if run.teardown != .unasked then none
    else if delivered && run.entry.pid.any (!pidFits ·) then none
    else
      let marked := { run with entry := run.entry.markStopping }
      if marked.entry.isRunning then some (marked.beginTeardown grace now delivered)
      else some { marked with teardown := .done }
  | .gone =>
    match run.teardown, run.entry.gone? with
    | .waiting _, some _ | .insisting, some _ => some { run with teardown := .done }
    | _, _ => none
  | .graceOver now =>
    match run.teardown, run.entry.gone? with
    | .waiting deadline, none =>
      if deadline ≤ now then
        some { run with
          teardown := .insisting, entry := run.entry.requestKill
          log := run.log ++ [graceOverLine run.entry.id grace] }
      else none
    | _, _ => none

end ProcessRun

end MockKeeper
