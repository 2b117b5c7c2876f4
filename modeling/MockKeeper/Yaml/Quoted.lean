import MockKeeper.Yaml.Gap
import MockKeeper.Yaml.Token

/-! Quoted scalars. Between single quotes only a quote is escaped, by writing it twice;
between double quotes a backslash begins an escape. -/

namespace MockKeeper.Yaml.Quoted

def escaped? : Char → Option Char
  | '0' => some '\x00'
  | 'a' => some '\x07'
  | 'b' => some '\x08'
  | 't' => some '\t'
  | '\t' => some '\t'
  | 'n' => some '\n'
  | 'v' => some '\x0b'
  | 'f' => some '\x0c'
  | 'r' => some '\r'
  | 'e' => some '\x1b'
  | ' ' => some ' '
  | '"' => some '"'
  | '/' => some '/'
  | '\\' => some '\\'
  | 'N' => some '\x85'
  | '_' => some '\xa0'
  | 'L' => some '\u2028'
  | 'P' => some '\u2029'
  | _ => none

def codeLength? : Char → Option Nat
  | 'x' => some 2
  | 'u' => some 4
  | 'U' => some 8
  | _ => none

def hexValue? (c : Char) : Option Nat :=
  if c.isDigit then some (c.toNat - '0'.toNat)
  else if 'a' ≤ c ∧ c ≤ 'f' then some (c.toNat - 'a'.toNat + 10)
  else if 'A' ≤ c ∧ c ≤ 'F' then some (c.toNat - 'A'.toNat + 10)
  else none

def hexNumber? (digits : List Char) : Option Nat :=
  digits.foldl (fun value c => do pure ((← value) * 16 + (← hexValue? c))) (some 0)

/-- Reads an escape that stands here. Every fault in it is laid at the backslash, but
for a bad number, which is laid at its first digit. -/
def readEscape (start : Mark) (cursor : Cursor) : Except Fault (Char × Cursor) :=
  let doing := "while parsing a quoted scalar"
  match cursor.at? 1 with
  | none => cursor.fault doing start "found unknown escape character"
  | some letter =>
    let after := cursor.skipMany 2
    match escaped? letter, codeLength? letter with
    | some c, _ => .ok (c, after)
    | none, none => cursor.fault doing start "found unknown escape character"
    | none, some length =>
      let digits := after.rest.take length
      match (if digits.length == length then hexNumber? digits else none) with
      | none => after.fault doing start "did not find expected hexdecimal number"
      | some value =>
        if (0xD800 ≤ value && value ≤ 0xDFFF) || 0x10FFFF < value then
          after.fault doing start "found invalid Unicode character escape code"
        else .ok (Char.ofNat value, after.skipMany length)

/-- Reads characters up to a space, a line's end or the closing quote. The flag tells
whether an escaped end of a line was met. The text is gathered last character first. -/
def readWord (single : Bool) (start : Mark) :
    Nat → List Char → Cursor → Except Fault (List Char × Bool × Cursor)
  | 0, text, cursor => .ok (text, false, cursor)
  | fuel + 1, text, cursor =>
    match cursor.next? with
    | none => .ok (text, false, cursor)
    | some c =>
      if isSpaceOrTab c || isBreak c then .ok (text, false, cursor)
      else if single && c == '\'' && cursor.at? 1 == some '\'' then
        readWord single start fuel ('\'' :: text) (cursor.skipMany 2)
      else if c == (if single then '\'' else '"') then .ok (text, false, cursor)
      else if !single && c == '\\' && cursor.holdsAt 1 isBreak then
        .ok (text, true, cursor.skip.skipBreak)
      else if !single && c == '\\' then do
        let (escape, after) ← readEscape start cursor
        readWord single start fuel (escape :: text) after
      else readWord single start fuel (c :: text) cursor.skip

def readBody (single : Bool) (start : Mark) :
    Nat → List Char → Cursor → Except Fault (List Char × Cursor)
  | 0, _, cursor => cursor.fault "while scanning a quoted scalar" start "found unexpected end of stream"
  | fuel + 1, text, cursor =>
    if cursor.atDocumentLine then
      cursor.fault "while scanning a quoted scalar" start "found unexpected document indicator"
    else if cursor.atEnd then
      cursor.fault "while scanning a quoted scalar" start "found unexpected end of stream"
    else do
      let (text, escapedBreak, cursor) ← readWord single start (cursor.rest.length + 1) text cursor
      if cursor.startsWith (if single then '\'' else '"') then
        .ok (text.reverse, cursor.skip)
      else
        let (gap, cursor) ← Gap.read 0 start cursor.rest.length { broken := escapedBreak } cursor
        readBody single start fuel (gap.text.reverse ++ text) cursor

def read (single : Bool) (cursor : Cursor) : Except Fault (Token × Cursor) := do
  let (text, after) ← readBody single cursor.mark (cursor.rest.length + 1) [] cursor.skip
  .ok (⟨.scalar (String.ofList text) (if single then .singleQuoted else .doubleQuoted),
    cursor.mark, after.mark⟩, after)

end MockKeeper.Yaml.Quoted
