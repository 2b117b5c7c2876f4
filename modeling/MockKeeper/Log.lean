/-! Log lines as values. A run collects the lines it writes, so what is logged
and in which order is part of its result. -/

namespace MockKeeper

inductive Level
  | error
  | warn
  | info
  | debug
  | trace
deriving DecidableEq, Repr

namespace Level

def word : Level → String
  | error => "ERROR"
  | warn => "WARN"
  | info => "INFO"
  | debug => "DEBUG"
  | trace => "TRACE"

/-- Position in the order of verbosity: errors first. -/
def rank : Level → Nat
  | error => 1
  | warn => 2
  | info => 3
  | debug => 4
  | trace => 5

end Level

structure LogLine where
  level : Level
  text : String
deriving DecidableEq, Repr

namespace LogLine

def error (text : String) : LogLine := ⟨.error, text⟩
def warn (text : String) : LogLine := ⟨.warn, text⟩
def info (text : String) : LogLine := ⟨.info, text⟩
def debug (text : String) : LogLine := ⟨.debug, text⟩

def render (line : LogLine) : String := line.level.word ++ " " ++ line.text

end LogLine

abbrev Log := List LogLine

def Log.upTo (limit : Level) (log : Log) : Log :=
  log.filter fun line => line.level.rank ≤ limit.rank

end MockKeeper
