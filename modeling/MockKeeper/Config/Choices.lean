import MockKeeper.Text.Blank

/-! The choices a user makes by name: how the engine is run, when its image is pulled,
and what to do when it stops by itself. -/

namespace MockKeeper

inductive EngineKind
  | docker
  | process
deriving DecidableEq, Repr

namespace EngineKind

def name : EngineKind → String
  | .docker => "docker"
  | .process => "process"

/-- The kind that a user's word stands for; two older words still name the process. -/
def ofName? (word : String) : Option EngineKind :=
  if word = "docker" then some .docker
  else if word = "process" ∨ word = "local" ∨ word = "jvm" then some .process
  else none

end EngineKind

inductive PullPolicy
  | always
  | ifNotPresent
deriving DecidableEq, Repr

namespace PullPolicy

def name : PullPolicy → String
  | .always => "always"
  | .ifNotPresent => "if-not-present"

end PullPolicy

inductive CrashPolicy
  | exit
  | restart
deriving DecidableEq, Repr

namespace CrashPolicy

def name : CrashPolicy → String
  | .exit => "exit"
  | .restart => "restart"

end CrashPolicy

/-- A flag wins over what is configured, which wins over the default. -/
def choose {α : Type} (flag configured : Option α) (default : α) : α := (flag.or configured).getD default

end MockKeeper
