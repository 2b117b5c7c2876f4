import MockKeeper.Yaml.Cursor
import MockKeeper.Yaml.Token

/-! Block scalars, whose lines are set off by their indentation. -/

namespace MockKeeper.Yaml.Block

inductive Chomping
  | strip
  | clip
  | keep
deriving DecidableEq, Repr

structure Header where
  chomping : Chomping := .clip
  /-- How much deeper the lines are indented, if that is said. -/
  increment : Option Nat := none

def chomping? : Option Char → Option Chomping
  | some '+' => some .keep
  | some '-' => some .strip
  | _ => none

def doing : String := "while scanning a block scalar"

def readIncrement (start : Mark) (cursor : Cursor) : Except Fault (Option Nat × Cursor) :=
  match cursor.next? with
  | some c =>
    if c == '0' then cursor.fault doing start "found an indentation indicator equal to 0"
    else if c.isDigit then .ok (some (c.toNat - '0'.toNat), cursor.skip)
    else .ok (none, cursor)
  | none => .ok (none, cursor)

def readHeader (start : Mark) (cursor : Cursor) : Except Fault (Header × Cursor) :=
  match chomping? cursor.next? with
  | some chomping => do
    let (increment, cursor) ← readIncrement start cursor.skip
    .ok ({ chomping, increment }, cursor)
  | none => do
    let (increment, cursor) ← readIncrement start cursor
    match increment, chomping? cursor.next? with
    | some _, some chomping => .ok ({ chomping, increment }, cursor.skip)
    | _, _ => .ok ({ increment }, cursor)

/-- The scalar's indentation, and the empty lines read while it was looked for. -/
structure Margin where
  indent : Nat
  breaks : List Char
  stop : Mark
  cursor : Cursor

/-- Reads indentation and empty lines. While the indentation is not known, the widest
line of spaces is kept in `widest`. -/
def readLines (start : Mark) (indent : Option Nat) :
    Nat → Nat → List Char → Mark → Cursor → Except Fault (Nat × List Char × Mark × Cursor)
  | 0, widest, breaks, stop, cursor => .ok (widest, breaks, stop, cursor)
  | fuel + 1, widest, breaks, stop, cursor =>
    let room := match indent with
      | none => cursor.rest.length
      | some indent => indent - cursor.mark.column
    let spaces := ((cursor.rest.take room).takeWhile (· == ' ')).length
    let cursor := cursor.skipMany spaces
    let widest := max widest cursor.mark.column
    let inMargin := match indent with
      | none => true
      | some indent => cursor.mark.column < indent
    if inMargin && cursor.startsWith '\t' then
      cursor.fault doing start "found a tab character where an indentation space is expected"
    else if cursor.atBreak then
      let (line, cursor) := cursor.readBreak
      readLines start indent fuel widest (breaks ++ line) cursor.mark cursor
    else .ok (widest, breaks, stop, cursor)

/-- Reads empty lines up to a line of the scalar. An unknown indentation becomes that
of the widest line met, but at least one deeper than the block around. -/
def readMargin (start : Mark) (least : Nat) (indent : Option Nat) (cursor : Cursor) :
    Except Fault Margin := do
  let (widest, breaks, stop, after) ←
    readLines start indent (cursor.rest.length + 1) 0 [] cursor.mark cursor
  .ok { indent := indent.getD (max widest (max least 1)), breaks, stop, cursor := after }

structure Reading where
  /-- The text, last character first. -/
  text : List Char := []
  ended : List Char := []
  spaced : Bool := false
  margin : Margin

/-- Reads the lines. Folding turns a single end between two lines into a space, unless
one of them begins with a space. -/
def readBody (literal : Bool) (start : Mark) (least : Nat) : Nat → Reading → Except Fault Reading
  | 0, reading => .ok reading
  | fuel + 1, reading =>
    let cursor := reading.margin.cursor
    if cursor.mark.column != reading.margin.indent || cursor.atEnd then .ok reading
    else do
      let spaced := cursor.atSpaceOrTab
      let breaks := reading.margin.breaks
      let joint :=
        if !literal && reading.ended == ['\n'] && !reading.spaced && !spaced then
          if breaks.isEmpty then [' '] else breaks
        else reading.ended ++ breaks
      let (line, cursor) := cursor.takeLine
      let (ended, cursor) := cursor.readBreak
      let margin ← readMargin start least (some reading.margin.indent) cursor
      readBody literal start least fuel
        { text := line.reverse ++ joint.reverse ++ reading.text, ended, spaced, margin }

def read (literal : Bool) (outer : Int) (cursor : Cursor) : Except Fault (Token × Cursor) := do
  let start := cursor.mark
  let (header, cursor) ← readHeader start cursor.skip
  let cursor := cursor.skipSpaces
  let cursor := if cursor.startsWith '#' then cursor.skipLine else cursor
  if !cursor.atLineEnd then
    cursor.fault doing start "did not find expected comment or line break"
  else
    let cursor := cursor.skipBreak
    let indent := header.increment.map fun more => outer.toNat + more
    let margin ← readMargin start (outer + 1).toNat indent cursor
    let reading ← readBody literal start (outer + 1).toNat (cursor.rest.length + 1) { margin }
    let tail := match header.chomping with
      | .strip => []
      | .clip => reading.ended
      | .keep => reading.ended ++ reading.margin.breaks
    .ok (⟨.scalar (String.ofList (reading.text.reverse ++ tail)) (if literal then .literal else .folded),
      start, reading.margin.stop⟩, reading.margin.cursor)

end MockKeeper.Yaml.Block
