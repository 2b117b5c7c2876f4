import MockKeeper.Yaml.Gap
import MockKeeper.Yaml.Token

/-! Plain scalars, which are written without quotes. -/

namespace MockKeeper.Yaml.Plain

def isFlowIndicator (c : Char) : Bool :=
  c == ',' || c == '[' || c == ']' || c == '\x7b' || c == '\x7d'

/-- Reads characters up to a space, a line's end or an indicator that ends the scalar.
The text is gathered last character first. -/
def readWord (inFlow : Bool) (start : Mark) :
    Nat → List Char → Cursor → Except Fault (List Char × Cursor)
  | 0, text, cursor => .ok (text, cursor)
  | fuel + 1, text, cursor =>
    match cursor.next? with
    | none => .ok (text, cursor)
    | some c =>
      if isSpaceOrTab c || isBreak c then .ok (text, cursor)
      else if inFlow && c == ':' && cursor.holdsAt 1 (fun d => isFlowIndicator d || d == '?') then
        cursor.fault "while scanning a plain scalar" start "found unexpected ':'"
      else if c == ':' && cursor.gapAt 1 then .ok (text, cursor)
      else if inFlow && isFlowIndicator c then .ok (text, cursor)
      else readWord inFlow start fuel (c :: text) cursor.skip

/-- What was read: the text, where it ended, whether lines ended after it, and the
cursor after the spaces that follow. -/
structure Reading where
  text : List Char
  stop : Mark
  broken : Bool
  cursor : Cursor

/-- Reads on word by word. In a block, a line that is not indented enough ends the
scalar; so do a comment and a line between documents. -/
def readBody (inFlow : Bool) (indent : Nat) (start : Mark) :
    Nat → Gap → Reading → Except Fault Reading
  | 0, _, reading => .ok reading
  | fuel + 1, gap, reading =>
    if reading.cursor.atDocumentLine || reading.cursor.startsWith '#' then .ok reading
    else do
      let (word, cursor) ← readWord inFlow start reading.cursor.rest.length [] reading.cursor
      if word.isEmpty then .ok { reading with cursor }
      else
        let text := word ++ gap.text.reverse ++ reading.text
        let stop := cursor.mark
        let (gap, cursor) ← Gap.read indent start cursor.rest.length {} cursor
        let reading := { text, stop, broken := gap.broken, cursor }
        if cursor.mark == stop || (!inFlow && cursor.mark.column < indent) then .ok reading
        else readBody inFlow indent start fuel gap reading

/-- Reads the plain scalar that begins here, inside a block indented by less than
`indent`. The flag tells whether lines ended after it. -/
def read (inFlow : Bool) (indent : Nat) (cursor : Cursor) : Except Fault (Token × Bool × Cursor) := do
  let reading ← readBody inFlow indent cursor.mark (cursor.rest.length + 1) {}
    { text := [], stop := cursor.mark, broken := false, cursor }
  .ok (⟨.scalar (String.ofList reading.text.reverse) .plain, cursor.mark, reading.stop⟩,
    reading.broken, reading.cursor)

end MockKeeper.Yaml.Plain
