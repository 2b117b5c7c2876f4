import MockKeeper.Options.Parse

/-! What a command line asks for. -/

namespace MockKeeper

structure UpOptions where
  configDir : String := "."
  engine : Option String := none
  version : Option String := none
  port : Nat := 8080
  pull : Bool := false
  autoRestart : Bool := true
  restartOnCrash : Bool := false
  engineBinary : Option String := none
  proxyPort : Option Nat := none
deriving DecidableEq, Repr

structure ProxyOptions where
  upstream : String
  port : Nat := 8081
  requestTimeoutSeconds : Option Nat := none
deriving DecidableEq, Repr

inductive Request
  | up (options : UpOptions)
  | proxy (options : ProxyOptions)
deriving DecidableEq, Repr

structure Invocation where
  logLevel : Option String := none
  /-- The settings file to read instead of the user's. -/
  config : Option String := none
  request : Request
deriving DecidableEq, Repr

namespace Invocation

open Options

/-- The values of a command line. What was given wins over what stood in for it, and
what came later over what came before. -/
structure Values where
  ofLayers ::
  outer : Layer
  inner : Layer

namespace Values

def find? (values : Values) (key : Key) : Option Value :=
  (values.inner.given ++ values.outer.given ++ values.inner.stoodIn ++ values.outer.stoodIn).lookup key

def text? (values : Values) (key : Key) : Option String :=
  match values.find? key with
  | some (.text text) => some text
  | _ => none

def number? (values : Values) (key : Key) : Option Nat :=
  match values.find? key with
  | some (.number n) => some n
  | _ => none

def truth? (values : Values) (key : Key) : Option Bool :=
  match values.find? key with
  | some (.truth truth) => some truth
  | _ => none

end Values

def requestOf (name : CommandName) (values : Values) : Request :=
  match name with
  | .up => .up {
      configDir := (values.text? .configDir).getD "."
      engine := values.text? .engine
      version := values.text? .version
      port := (values.number? .port).getD 8080
      pull := (values.truth? .pull).getD false
      autoRestart := (values.truth? .autoRestart).getD true
      restartOnCrash := (values.truth? .restartOnCrash).getD false
      engineBinary := values.text? .engineBinary
      proxyPort := values.number? .proxyPort }
  | .proxy => .proxy {
      upstream := (values.text? .upstream).getD ""
      port := (values.number? .port).getD 8081
      requestTimeoutSeconds := values.number? .requestTimeout }

def read (environment : String → Option String) (arguments : List String) :
    Except OptionError Invocation := do
  let (name, outer, inner) ←
    readAll environment { options := sharedOptions, positional := none, tellsVersion := true } arguments
  let values : Values := ⟨outer, inner⟩
  .ok { logLevel := values.text? .logLevel, config := values.text? .config, request := requestOf name values }

end Invocation

end MockKeeper
