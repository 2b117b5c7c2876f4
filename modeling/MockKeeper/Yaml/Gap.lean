import MockKeeper.Yaml.Cursor

/-! Spaces and line ends inside a scalar that may run over several lines. A single end
of a line becomes a space; of several, the first is dropped. -/

namespace MockKeeper.Yaml

/-- The spaces and line ends between two parts of a scalar. -/
structure Gap where
  spaces : List Char := []
  /-- Whether there was an end of a line, written or escaped. -/
  broken : Bool := false
  first : List Char := []
  others : List Char := []

namespace Gap

def text (gap : Gap) : List Char :=
  if gap.broken then
    if gap.first == ['\n'] then
      if gap.others.isEmpty then [' '] else gap.others
    else gap.first ++ gap.others
  else gap.spaces

/-- Adds an end of a line. Spaces before it are dropped. -/
def breakLine (gap : Gap) (line : List Char) : Gap :=
  if gap.broken then { gap with others := gap.others ++ line }
  else { spaces := [], broken := true, first := line, others := [] }

/-- Reads on over spaces and line ends. After an end of a line a tab may not stand
left of `indent`. -/
def read (indent : Nat) (start : Mark) : Nat → Gap → Cursor → Except Fault (Gap × Cursor)
  | 0, gap, cursor => .ok (gap, cursor)
  | fuel + 1, gap, cursor =>
    match cursor.next? with
    | none => .ok (gap, cursor)
    | some c =>
      if isSpaceOrTab c then
        if gap.broken then
          if c == '\t' && cursor.mark.column < indent then
            cursor.fault "while scanning a plain scalar" start
              "found a tab character that violates indentation"
          else read indent start fuel gap cursor.skip
        else read indent start fuel { gap with spaces := gap.spaces ++ [c] } cursor.skip
      else if isBreak c then
        let (line, after) := cursor.readBreak
        read indent start fuel (gap.breakLine line) after
      else .ok (gap, cursor)

end Gap

end MockKeeper.Yaml
