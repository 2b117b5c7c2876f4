import MockKeeper.Command.Failure
import MockKeeper.Config.Directory
import MockKeeper.Config.Launch
import MockKeeper.Loop.Basic

/-! Running an engine for a config directory: what is settled before it is started, and
what is told when it has stopped. -/

namespace MockKeeper

structure UpPlan where
  kind : EngineKind
  options : LaunchOptions
  crashPolicy : CrashPolicy
  configDir : Bytes
  window : Option Elapsed
  proxy : Option ProxySettings
deriving DecidableEq, Repr

namespace UpPlan

/-- Settles everything, in the order in which faults are told: the directory is looked at
before the engine is chosen. -/
def make (tree : FileTree) (flags : UpOptions) (settings : Settings) (logLevel : String) :
    Except CommandFailure UpPlan := do
  let path := Utf8.encode flags.configDir
  (tree.checkConfigDirectory path).mapError .config
  let configDir ← (tree.canonical path).mapError (.unresolved flags.configDir)
  let kind ← (EngineKind.resolve flags.engine settings.engine).mapError .config
  let options := LaunchOptions.resolve flags settings (Utf8.lossy configDir) logLevel
  return {
    kind, options, configDir
    crashPolicy := CrashPolicy.resolve flags settings
    window := if flags.autoRestart then some (.ofMilliseconds settings.watchDebounceMs) else none
    proxy := flags.proxyPort.map fun port => { upstream := options.url, port, pool := settings.pool } }

def openingLine (plan : UpPlan) : LogLine :=
  .info s!"starting {plan.kind.name} engine {plan.options.version} for {plan.options.configDir}"

def loop (plan : UpPlan) : ControlLoop :=
  { policy := plan.crashPolicy, label := plan.options.configDir }

end UpPlan

def Summary.closingLine (summary : Summary) : LogLine :=
  .info (s!"mock engine stopped ({summary.restarts} restart(s), " ++
    s!"{summary.unexpectedStops} unexpected stop(s))")

def proxyFailedLine (error : OsError) : LogLine := .warn ("recording proxy failed: " ++ error.message)

/-- The settings of a proxy that runs alone. A time limit given as a flag wins. -/
def ProxySettings.resolve (flags : ProxyOptions) (settings : Settings) : ProxySettings :=
  { upstream := flags.upstream, port := flags.port
    pool := match flags.requestTimeoutSeconds with
      | some seconds => { settings.pool with requestTimeoutSeconds := seconds }
      | none => settings.pool }

end MockKeeper
