import MockKeeper.Config.Choices
import MockKeeper.Config.Error
import MockKeeper.Config.Pool

/-! The settings file. Flags win over it, and it fills in what they leave unset. -/

namespace MockKeeper

namespace EngineKind

/-- The kind a word stands for, whatever its case and the blanks around it. -/
def ofWord (word : String) : Except ConfigError EngineKind :=
  let plain := Text.asciiLower (Text.trim word)
  match ofName? plain with
  | some kind => .ok kind
  | none => .error (.invalidEngine plain)

/-- The kind to run: a container, unless a flag or the settings say otherwise. -/
def resolve (flag configured : Option String) : Except ConfigError EngineKind :=
  match flag.or configured with
  | some word => ofWord word
  | none => .ok .docker

end EngineKind

structure Settings where
  engine : Option String := none
  version : Option String := none
  logLevel : Option String := none
  engineBinary : Option String := none
  engineArgs : List String := []
  pullPolicy : Option PullPolicy := none
  crashPolicy : CrashPolicy := .exit
  watchDebounceMs : Nat := 500
  pool : PoolSettings := {}
deriving DecidableEq, Repr

open Yaml (Decoder)

def EngineKind.decoder : Decoder EngineKind :=
  Decoder.variant ([EngineKind.docker, .process].map fun kind => (kind.name, kind))

def PullPolicy.decoder : Decoder PullPolicy :=
  Decoder.variant ([PullPolicy.always, .ifNotPresent].map fun policy => (policy.name, policy))

def CrashPolicy.decoder : Decoder CrashPolicy :=
  Decoder.variant ([CrashPolicy.exit, .restart].map fun policy => (policy.name, policy))

namespace Settings

open Yaml.Decoder in
def decoder : Decoder Settings :=
  let word := optional (text "a string")
  record "CliConfig" [
    field "engine" word fun settings engine => { settings with engine },
    field "version" word fun settings version => { settings with version },
    field "log-level" word fun settings logLevel => { settings with logLevel },
    field "engine-binary" (optional (text "path string")) fun settings engineBinary =>
      { settings with engineBinary },
    field "engine-args" (list (text "a string")) fun settings engineArgs => { settings with engineArgs },
    field "pull-policy" (optional PullPolicy.decoder) fun settings pullPolicy => { settings with pullPolicy },
    field "crash-policy" CrashPolicy.decoder fun settings crashPolicy => { settings with crashPolicy },
    field "watch-debounce-ms" (natural (Nat.pow 2 64) "u64") fun settings watchDebounceMs =>
      { settings with watchDebounceMs },
    field "connection-pool" PoolSettings.decoder fun settings pool => { settings with pool }]
    ({} : Settings) .ok

def notText : String := "stream did not contain valid UTF-8"

/-- The settings in a file. A file of blanks only stands for the defaults. -/
def ofFile (path : String) (content : Bytes) : Except ConfigError Settings :=
  match Utf8.decode? content with
  | none => .error (.unreadable path notText)
  | some text =>
    if text.toList.all Text.isBlank then .ok {}
    else
      match Yaml.read decoder text with
      | .ok settings => .ok settings
      | .error fault => .error (.unparsable path fault.message)

end Settings

end MockKeeper
