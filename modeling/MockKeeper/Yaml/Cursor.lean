import MockKeeper.Yaml.Fault

/-! A cursor into a YAML text: what is left of it, and the place reached. -/

namespace MockKeeper.Yaml

def isBreak (c : Char) : Bool :=
  c == '\r' || c == '\n' || c == '\x85' || c == '\u2028' || c == '\u2029'

def isSpaceOrTab (c : Char) : Bool := c == ' ' || c == '\t'

def isNameChar (c : Char) : Bool := c.isAlphanum || c == '_' || c == '-'

structure Cursor where
  rest : List Char
  mark : Mark := {}
deriving Repr

namespace Cursor

def next? (cursor : Cursor) : Option Char := cursor.rest.head?

def at? (cursor : Cursor) (n : Nat) : Option Char := cursor.rest[n]?

def holdsAt (cursor : Cursor) (n : Nat) (p : Char → Bool) : Bool := (cursor.at? n).any p

def holds (cursor : Cursor) (p : Char → Bool) : Bool := cursor.holdsAt 0 p

def startsWith (cursor : Cursor) (c : Char) : Bool := cursor.next? == some c

def atEnd (cursor : Cursor) : Bool := cursor.rest.isEmpty

def atBreak (cursor : Cursor) : Bool := cursor.holds isBreak

def atSpaceOrTab (cursor : Cursor) : Bool := cursor.holds isSpaceOrTab

def atLineEnd (cursor : Cursor) : Bool := cursor.atEnd || cursor.atBreak

/-- Whether a space, a tab, a line's end or the text's end stands some places ahead. -/
def gapAt (cursor : Cursor) (n : Nat) : Bool :=
  match cursor.at? n with
  | none => true
  | some c => isSpaceOrTab c || isBreak c

def atGap (cursor : Cursor) : Bool := cursor.gapAt 0

def skip (cursor : Cursor) : Cursor :=
  match cursor.rest with
  | [] => cursor
  | _ :: rest =>
    { rest, mark := { cursor.mark with index := cursor.mark.index + 1, column := cursor.mark.column + 1 } }

def skipMany : Nat → Cursor → Cursor
  | 0, cursor => cursor
  | n + 1, cursor => skipMany n cursor.skip

/-- Moves past a line's end. A carriage return and a line feed end one line together,
and every end of a line reads as a line feed, but for the two separators. -/
def readBreak (cursor : Cursor) : List Char × Cursor :=
  let past (n : Nat) (rest : List Char) : Cursor :=
    { rest, mark := ⟨cursor.mark.index + n, cursor.mark.line + 1, 0⟩ }
  match cursor.rest with
  | '\r' :: '\n' :: rest => (['\n'], past 2 rest)
  | c :: rest =>
    if c == '\u2028' || c == '\u2029' then ([c], past 1 rest)
    else if isBreak c then (['\n'], past 1 rest)
    else ([], cursor)
  | [] => ([], cursor)

def skipBreak (cursor : Cursor) : Cursor := cursor.readBreak.2

/-- The characters from here that have a property, which no end of a line may have,
and the cursor after them. -/
def takeWhile (p : Char → Bool) (cursor : Cursor) : List Char × Cursor :=
  let taken := cursor.rest.takeWhile p
  let n := taken.length
  (taken,
    { rest := cursor.rest.drop n
      mark := { cursor.mark with index := cursor.mark.index + n, column := cursor.mark.column + n } })

def skipWhile (p : Char → Bool) (cursor : Cursor) : Cursor := (cursor.takeWhile p).2

def skipSpaces (cursor : Cursor) : Cursor := cursor.skipWhile isSpaceOrTab

def takeLine (cursor : Cursor) : List Char × Cursor := cursor.takeWhile fun c => !isBreak c

def skipLine (cursor : Cursor) : Cursor := cursor.takeLine.2

/-- Whether a line that marks the start or the end of a document begins here. -/
def atDocumentLine (cursor : Cursor) : Bool :=
  cursor.mark.column == 0 && cursor.gapAt 3 &&
    (cursor.rest.take 3 == ['-', '-', '-'] || cursor.rest.take 3 == ['.', '.', '.'])

def fault {α : Type} (cursor : Cursor) (doing : String) (start : Mark) (problem : String) :
    Except Fault α :=
  .error { problem, mark := cursor.mark, context := some (doing, start) }

def bareFault {α : Type} (cursor : Cursor) (problem : String) : Except Fault α :=
  .error { problem, mark := cursor.mark }

end Cursor

/-- A character that a text may hold. Of the controls, those are the tab and the ends
of lines. -/
def isAllowed (c : Char) : Bool :=
  let n := c.toNat
  n == 0x09 || n == 0x0A || n == 0x0D || (0x20 ≤ n && n ≤ 0x7E) || n == 0x85 ||
    (0xA0 ≤ n && n ≤ 0xFFFD) || 0x10000 ≤ n

def forbiddenOffset? : Nat → List Char → Option Nat
  | _, [] => none
  | offset, c :: rest => if isAllowed c then forbiddenOffset? (offset + c.utf8Size) rest else some offset

end MockKeeper.Yaml
