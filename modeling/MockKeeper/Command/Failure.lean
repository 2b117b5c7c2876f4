import MockKeeper.Config.Error
import MockKeeper.Config.Upstream
import MockKeeper.Engine.Error
import MockKeeper.Files.Tree
import MockKeeper.Watch.Places

/-! Why a command fails. -/

namespace MockKeeper

inductive CommandFailure
  | config (error : ConfigError)
  | unresolved (path : String) (error : FileError)
  | unwatched (path : Bytes) (error : FileError)
  | engine (error : EngineError)
  | upstream (error : UpstreamError)
  | listening (error : OsError)
deriving DecidableEq, Repr

namespace CommandFailure

def message : CommandFailure → String
  | .config error => error.message
  | .unresolved path error => s!"cannot resolve {path}: {error.message}"
  | .unwatched path error => s!"{watchFailure path error}: {error.message}"
  | .engine error => "mock engine failed: " ++ error.message
  | .upstream error => error.message
  | .listening error => error.message

end CommandFailure

end MockKeeper
