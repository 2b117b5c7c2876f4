import MockKeeper.Config.Names
import MockKeeper.Config.Settings
import MockKeeper.Options.Invocation
import MockKeeper.Text.Elapsed

/-! What an engine needs to be launched. Flags win over the settings file. -/

namespace MockKeeper

structure LaunchOptions where
  configDir : String
  port : Nat := 8080
  version : String := "latest"
  pullPolicy : PullPolicy := .ifNotPresent
  logLevel : String := "info"
  engineBinary : String := "imposter-engine"
  engineArgs : List String := []
  /-- How long an instance may take to come up; without a limit it is not asked. -/
  readyTimeout : Option Elapsed := some (.ofSeconds 60)
  /-- How long an instance may take to end after a polite stop. -/
  stopGrace : Elapsed := .ofSeconds 10
deriving DecidableEq, Repr

namespace LaunchOptions

def url (options : LaunchOptions) : String := engineUrl options.port

def resolve (flags : UpOptions) (settings : Settings) (configDir logLevel : String) : LaunchOptions :=
  { configDir, logLevel
    port := flags.port
    version := choose flags.version settings.version "latest"
    pullPolicy := if flags.pull then .always else settings.pullPolicy.getD .ifNotPresent
    engineBinary := choose flags.engineBinary settings.engineBinary "imposter-engine"
    engineArgs := settings.engineArgs }

end LaunchOptions

def CrashPolicy.resolve (flags : UpOptions) (settings : Settings) : CrashPolicy :=
  if flags.restartOnCrash then .restart else settings.crashPolicy

end MockKeeper
