/-! Why an engine instance could not be provisioned, or stopped by itself. -/

namespace MockKeeper

inductive EngineError
  | spawn (program reason : String)
  | command (command reason : String)
  | pull (image reason : String)
  | exited (id detail : String)
  | system (reason : String)
deriving DecidableEq, Repr

namespace EngineError

def message : EngineError → String
  | .spawn program reason => s!"failed to launch {program}: {reason}"
  | .command line reason => "command `" ++ line ++ "` failed: " ++ reason
  | .pull image reason => s!"failed to pull image {image}: {reason}"
  | .exited id detail => s!"engine instance {id} exited unexpectedly: {detail}"
  | .system reason => s!"engine I/O error: {reason}"

end EngineError

end MockKeeper
