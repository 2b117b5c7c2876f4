import MockKeeper.Command.Up
import MockKeeper.Log.Filter
import MockKeeper.Options.Error

/-! The program around its commands: how much it logs, and what it ends with. -/

namespace MockKeeper

def versionLine : String := "mocksync 0.1.0"

def aboutLine : String := "mocksync - run a mock engine and keep it in sync with its config"

def helpLines : List String := [aboutLine, "", "Usage: mocksync [OPTIONS] <COMMAND>"]

def environmentNames : List String :=
  ["HOME", "MOCKSYNC_CONFIG", "MOCKSYNC_ENGINE", "MOCKSYNC_ENGINE_BINARY", "MOCKSYNC_LOG_LEVEL",
    "MOCKSYNC_UPSTREAM", "RUST_LOG"]

/-- How much is logged: the flag wins over the settings, if those could be read. -/
def Invocation.levelWord (invocation : Invocation) (settings : Except ConfigError Settings) : String :=
  choose invocation.logLevel (match settings with
    | .ok settings => settings.logLevel
    | .error _ => none) "info"

def exitCode (result : Except CommandFailure Unit) : Nat :=
  match result with
  | .ok () => 0
  | .error _ => 1

def failureLines (result : Except CommandFailure Unit) : Log :=
  match result with
  | .ok () => []
  | .error failure => [.error failure.message]

end MockKeeper
