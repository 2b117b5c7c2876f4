/-! The options of the program, as data: what each is called, what it takes, and which
variable of the environment can stand in for it. -/

namespace MockKeeper.Options

inductive Key
  | logLevel
  | config
  | configDir
  | engine
  | version
  | port
  | pull
  | autoRestart
  | restartOnCrash
  | engineBinary
  | proxyPort
  | upstream
  | requestTimeout
deriving DecidableEq, Repr

inductive ValueKind
  | text
  | path
  | port
  | count
  | truth
deriving DecidableEq, Repr

inductive Action
  | take (kind : ValueKind)
  | raise
deriving DecidableEq, Repr

structure Spec where
  key : Key
  long : String
  short : Option Char := none
  action : Action := .take .text
  /-- The variable of the environment that can give the value. -/
  standIn : Option String := none
deriving DecidableEq, Repr

/-- A name in capitals with lines below instead of hyphens. -/
def placeholder (long : String) : String :=
  String.ofList (long.toList.map fun c => if c = '-' then '_' else c.toUpper)

namespace Spec

def shown (spec : Spec) : String :=
  match spec.action with
  | .take _ => s!"--{spec.long} <{placeholder spec.long}>"
  | .raise => "--" ++ spec.long

end Spec

def sharedOptions : List Spec := [
  { key := .logLevel, long := "log-level", standIn := some "MOCKSYNC_LOG_LEVEL" },
  { key := .config, long := "config", action := .take .path, standIn := some "MOCKSYNC_CONFIG" }]

inductive CommandName
  | up
  | proxy
deriving DecidableEq, Repr

namespace CommandName

def ofText? (text : String) : Option CommandName :=
  if text = "up" then some .up else if text = "proxy" then some .proxy else none

def options : CommandName → List Spec
  | .up => [
      { key := .engine, long := "engine", short := some 'e', standIn := some "MOCKSYNC_ENGINE" },
      { key := .version, long := "version", short := some 'v' },
      { key := .port, long := "port", short := some 'p', action := .take .port },
      { key := .pull, long := "pull", action := .raise },
      { key := .autoRestart, long := "auto-restart", action := .take .truth },
      { key := .restartOnCrash, long := "restart-on-crash", action := .raise },
      { key := .engineBinary, long := "engine-binary", action := .take .path
        standIn := some "MOCKSYNC_ENGINE_BINARY" },
      { key := .proxyPort, long := "proxy-port", action := .take .port }] ++ sharedOptions
  | .proxy => [
      { key := .upstream, long := "upstream", short := some 'u', standIn := some "MOCKSYNC_UPSTREAM" },
      { key := .port, long := "port", short := some 'p', action := .take .port },
      { key := .requestTimeout, long := "request-timeout", action := .take .count }] ++ sharedOptions

end CommandName

end MockKeeper.Options
