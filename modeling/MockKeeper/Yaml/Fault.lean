/-! Places in a YAML text, and the faults found at them. -/

namespace MockKeeper.Yaml

/-- A place in a text, counted in characters. Lines and columns start at zero. -/
structure Mark where
  index : Nat := 0
  line : Nat := 0
  column : Nat := 0
deriving DecidableEq, Repr, Inhabited

namespace Mark

def isOrigin (mark : Mark) : Bool := mark.line == 0 && mark.column == 0

def render (mark : Mark) : String := s!"line {mark.line + 1} column {mark.column + 1}"

def suffix (mark : Mark) : String := if mark.isOrigin then "" else " at " ++ mark.render

end Mark

/-- What is wrong with a text, and what was being read when that was found. -/
structure Fault where
  problem : String
  mark : Mark := {}
  /-- The byte at fault, where the fault is a character that no text may hold. -/
  offset : Nat := 0
  context : Option (String × Mark) := none
deriving DecidableEq, Repr

namespace Fault

/-- The context's own place is left out where it says nothing new. -/
def message (fault : Fault) : String :=
  let place :=
    if fault.mark.isOrigin && fault.offset != 0 then s!" at position {fault.offset}"
    else fault.mark.suffix
  let context := match fault.context with
    | none => ""
    | some (doing, mark) =>
      if mark.line == fault.mark.line && mark.column == fault.mark.column then ", " ++ doing
      else ", " ++ doing ++ mark.suffix
  fault.problem ++ place ++ context

end Fault

end MockKeeper.Yaml
