import MockKeeper.Yaml.Quoted

/-! Tags, anchors and directives. A tag is kept as its handle and its suffix until the
directives of the document give the handle a meaning. -/

namespace MockKeeper.Yaml.Tag

/-- What tags and directives are read for; it decides how a fault is worded. -/
structure Purpose where
  start : Mark
  inDirective : Bool

namespace Purpose

def fault {α : Type} (purpose : Purpose) (cursor : Cursor) (problem : String) : Except Fault α :=
  cursor.fault (if purpose.inDirective then "while parsing a %TAG directive" else "while parsing a tag")
    purpose.start problem

end Purpose

/-- A character of a tag. Some more may stand between angle brackets. -/
def isTagChar (bracketed : Bool) (c : Char) : Bool :=
  isNameChar c || ";/?:@&=+$.%!~*'()".contains c || (bracketed && ",[]".contains c)

def width? (byte : Nat) : Option Nat :=
  if byte < 0x80 then some 1
  else if 0xC0 ≤ byte ∧ byte < 0xE0 then some 2
  else if 0xE0 ≤ byte ∧ byte < 0xF0 then some 3
  else if 0xF0 ≤ byte ∧ byte < 0xF8 then some 4
  else none

/-- Reads one byte written as a percent sign and two hexadecimal digits. -/
def readByte (purpose : Purpose) (cursor : Cursor) : Except Fault (Nat × Cursor) :=
  match cursor.rest with
  | '%' :: a :: b :: _ =>
    match Quoted.hexNumber? [a, b] with
    | some byte => .ok (byte, cursor.skipMany 3)
    | none => purpose.fault cursor "did not find URI escaped octet"
  | _ => purpose.fault cursor "did not find URI escaped octet"

def readTrailing (purpose : Purpose) : Nat → Cursor → Except Fault (Bytes × Cursor)
  | 0, cursor => .ok ([], cursor)
  | n + 1, cursor => do
    let (byte, after) ← readByte purpose cursor
    if byte / 64 != 2 then purpose.fault cursor "found an incorrect trailing UTF-8 octet"
    else
      let (others, after) ← readTrailing purpose n after
      .ok (UInt8.ofNat byte :: others, after)

def readEscape (purpose : Purpose) (cursor : Cursor) : Except Fault (Bytes × Cursor) := do
  let (byte, after) ← readByte purpose cursor
  match width? byte with
  | none => purpose.fault cursor "found an incorrect leading UTF-8 octet"
  | some width =>
    let (others, after) ← readTrailing purpose (width - 1) after
    .ok (UInt8.ofNat byte :: others, after)

def readCharacters (purpose : Purpose) (bracketed : Bool) : Nat → Cursor → Except Fault (Bytes × Cursor)
  | 0, cursor => .ok ([], cursor)
  | fuel + 1, cursor =>
    match cursor.next? with
    | none => .ok ([], cursor)
    | some c =>
      if !isTagChar bracketed c then .ok ([], cursor)
      else do
        let (first, after) ←
          if c == '%' then readEscape purpose cursor
          else .ok ([UInt8.ofNat c.toNat], cursor.skip)
        let (others, after) ← readCharacters purpose bracketed fuel after
        .ok (first ++ others, after)

/-- Reads a tag's text after what was read of it already, which counts as text even
where it is a lone exclamation mark. -/
def readText (purpose : Purpose) (bracketed : Bool) (before : String) (cursor : Cursor) :
    Except Fault (Bytes × Cursor) := do
  let (text, after) ← readCharacters purpose bracketed cursor.rest.length cursor
  if before.isEmpty && text.isEmpty then purpose.fault after "did not find expected tag URI"
  else .ok (Utf8.encode (String.ofList (before.toList.drop 1)) ++ text, after)

/-- Reads an exclamation mark, a name after it, and a closing exclamation mark. The
last two may be missing, but in a directive a name has to be closed. -/
def readHandle (purpose : Purpose) (cursor : Cursor) : Except Fault (String × Cursor) :=
  if !cursor.startsWith '!' then
    cursor.fault
      (if purpose.inDirective then "while scanning a tag directive" else "while scanning a tag")
      purpose.start "did not find expected '!'"
  else
    let (name, after) := cursor.skip.takeWhile isNameChar
    let opened := '!' :: name
    if after.startsWith '!' then .ok (String.ofList (opened ++ ['!']), after.skip)
    else if purpose.inDirective && !name.isEmpty then
      after.fault "while parsing a tag directive" purpose.start "did not find expected '!'"
    else .ok (String.ofList opened, after)

def isClosed (handle : String) : Bool := 1 < handle.length && handle.endsWith "!"

/-- Reads the parts of a tag: a bracketed tag has no handle, nor has a lone exclamation
mark, and a handle that is not closed is a single exclamation mark with a suffix. -/
def readParts (purpose : Purpose) (cursor : Cursor) : Except Fault (String × Bytes × Cursor) := do
  if cursor.at? 1 == some '<' then
    let (suffix, after) ← readText purpose true "" (cursor.skipMany 2)
    if after.startsWith '>' then .ok ("", suffix, after.skip)
    else after.fault "while scanning a tag" purpose.start "did not find the expected '>'"
  else
    let (handle, after) ← readHandle purpose cursor
    if isClosed handle then
      let (suffix, after) ← readText purpose false "" after
      .ok (handle, suffix, after)
    else
      let (suffix, after) ← readText purpose false handle after
      if suffix.isEmpty then .ok ("", Utf8.encode "!", after) else .ok ("!", suffix, after)

def read (inFlow : Bool) (cursor : Cursor) : Except Fault (Token × Cursor) := do
  let start := cursor.mark
  let (handle, suffix, after) ← readParts ⟨start, false⟩ cursor
  if after.atGap || (inFlow && after.startsWith ',') then
    .ok (⟨.tag handle suffix, start, after.mark⟩, after)
  else after.fault "while scanning a tag" start "did not find expected whitespace or line break"

def readAnchor (isAlias : Bool) (cursor : Cursor) : Except Fault (Token × Cursor) :=
  let (name, after) := cursor.skip.takeWhile isNameChar
  if !name.isEmpty && (after.atGap || after.holds fun c => "?:,]\x7d%@`".contains c) then
    let text := String.ofList name
    .ok (⟨if isAlias then .alias text else .anchor text, cursor.mark, after.mark⟩, after)
  else
    after.fault (if isAlias then "while scanning an alias" else "while scanning an anchor") cursor.mark
      "did not find expected alphabetic or numeric character"

/-- Reads one of the two numbers of a version; it has at most nine digits. -/
def readVersionNumber (start : Mark) (cursor : Cursor) : Except Fault (Nat × Cursor) :=
  let doing := "while scanning a %YAML directive"
  let (digits, after) := cursor.takeWhile Char.isDigit
  if digits.isEmpty then after.fault doing start "did not find expected version number"
  else if 9 < digits.length then
    (cursor.skipMany 9).fault doing start "found extremely long version number"
  else .ok (digits.foldl (fun n c => n * 10 + (c.toNat - '0'.toNat)) 0, after)

def readDirectiveValue (start : Mark) (name : String) (cursor : Cursor) :
    Except Fault (TokenKind × Cursor) := do
  if name == "YAML" then
    let (major, after) ← readVersionNumber start cursor.skipSpaces
    if !after.startsWith '.' then
      after.fault "while scanning a %YAML directive" start "did not find expected digit or '.' character"
    else
      let (minor, after) ← readVersionNumber start after.skip
      .ok (.versionDirective major minor, after)
  else if name == "TAG" then
    let purpose : Purpose := ⟨start, true⟩
    let doing := "while scanning a %TAG directive"
    let (handle, after) ← readHandle purpose cursor.skipSpaces
    if !after.atSpaceOrTab then after.fault doing start "did not find expected whitespace"
    else
      let (meaning, after) ← readText purpose true "" after.skipSpaces
      if after.atGap then .ok (.tagDirective handle meaning, after)
      else after.fault doing start "did not find expected whitespace or line break"
  else cursor.fault "while scanning a directive" start "found unknown directive name"

def readDirective (cursor : Cursor) : Except Fault (Token × Cursor) := do
  let start := cursor.mark
  let doing := "while scanning a directive"
  let (name, after) := cursor.skip.takeWhile isNameChar
  if name.isEmpty then after.fault doing start "could not find expected directive name"
  else if !after.atGap then after.fault doing start "found unexpected non-alphabetical character"
  else
    let (kind, after) ← readDirectiveValue start (String.ofList name) after
    let token : Token := ⟨kind, start, after.mark⟩
    let after := after.skipSpaces
    let after := if after.startsWith '#' then after.skipLine else after
    if after.atLineEnd then .ok (token, after.skipBreak)
    else after.fault doing start "did not find expected comment or line break"

end MockKeeper.Yaml.Tag
