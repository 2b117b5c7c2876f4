import MockKeeper.Command.Program
import MockKeeper.Config.Load
import MockKeeper.Simulation.UpRun

/-! Whole commands, and the whole program, on a simulated machine. -/

namespace MockKeeper.Simulation

structure CommandRun where
  result : Except CommandFailure Unit
  host : Host
  log : Log := []

namespace CommandRun

def up (host : Host) (flags : UpOptions) (settings : Settings) (logLevel : String)
    (happenings : List Happening) : CommandRun :=
  match UpPlan.make host.tree flags settings logLevel with
  | .error failure => { result := .error failure, host }
  | .ok plan =>
    match UpRun.start plan host with
    | .error failure => { result := .error failure, host, log := [plan.openingLine] }
    | .ok world =>
      let (result, ended) := (world.play happenings).conclude
      { result, host := ended.stage.host, log := ended.log }

def proxy (host : Host) (flags : ProxyOptions) (settings : Settings)
    (happenings : List Happening) : CommandRun :=
  let resolved := ProxySettings.resolve flags settings
  match resolved.validate with
  | .error error => { result := .error (.upstream error), host }
  | .ok () =>
    match host.listen resolved.port with
    | .error error => { result := .error (.listening error), host }
    | .ok address =>
      { result := .ok (), host
        log := Proxy.openingLines address resolved.upstream ++
          if happenings.contains .signal then [Proxy.closingLine address] else [] }

def ofRequest (host : Host) (request : Request) (settings : Settings) (logLevel : String)
    (happenings : List Happening) : CommandRun :=
  match request with
  | .up flags => up host flags settings logLevel happenings
  | .proxy flags => proxy host flags settings happenings

end CommandRun

inductive Output
  | help
  | lines (lines : List String)
deriving DecidableEq, Repr

structure ProgramRun where
  exitCode : Nat
  output : Output
  complaints : List String := []
  host : Host

namespace ProgramRun

def ofOptionError (host : Host) (error : Options.OptionError) : ProgramRun :=
  { exitCode := error.exitCode, host
    output := match error with
      | .help => .help
      | .version => .lines [versionLine]
      | _ => .lines []
    complaints := match error with
      | .nothingGiven => [aboutLine]
      | error => error.line?.toList }

def ofArguments (host : Host) (home : Bytes) (environment : String → Option String)
    (arguments : List String) (happenings : List Happening) : ProgramRun :=
  match Invocation.read environment arguments with
  | .error error => ofOptionError host error
  | .ok invocation =>
    let settings := Settings.load host.tree home (invocation.config.map Utf8.encode)
    let levelWord := invocation.levelWord settings
    let (filter, complaints) := LogFilter.ofRun (environment "RUST_LOG") levelWord
    let shown (log : Log) : Output :=
      .lines (((filter.apply log).upTo .info).map LogLine.render)
    match settings with
    | .error error =>
      { exitCode := 1, output := shown [.error error.message], complaints, host }
    | .ok settings =>
      let run := CommandRun.ofRequest host invocation.request settings levelWord happenings
      { exitCode := MockKeeper.exitCode run.result
        output := shown (run.log ++ failureLines run.result)
        complaints, host := run.host }

end ProgramRun

end MockKeeper.Simulation
