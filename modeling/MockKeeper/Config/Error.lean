/-! Why the configuration cannot be used. -/

namespace MockKeeper

/-- Why the configuration cannot be used. Paths are kept as they are shown. -/
inductive ConfigError
  | unreadable (path reason : String)
  | unparsable (path reason : String)
  | notFound (path : String)
  | notADirectory (path : String)
  | noConfigFiles (path : String)
  | invalidEngine (word : String)
deriving DecidableEq, Repr

namespace ConfigError

def message : ConfigError → String
  | .unreadable path reason => s!"failed to read {path}: {reason}"
  | .unparsable path reason => s!"failed to parse {path}: {reason}"
  | .notFound path => s!"cannot find config dir: {path}"
  | .notADirectory path => s!"path is not a directory: {path}"
  | .noConfigFiles path => s!"no mock configuration files found in: {path}"
  | .invalidEngine word => s!"invalid engine type '{word}' (valid: docker, process)"

end ConfigError

end MockKeeper
