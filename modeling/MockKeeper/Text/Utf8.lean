/-! Text kept as bytes. Bytes that are not UTF-8 can be shown with the replacement
character in place of each part that cannot be read. -/

namespace MockKeeper

/-- Bytes as they were given, UTF-8 or not. -/
abbrev Bytes := List UInt8

namespace Utf8

def encode (text : String) : Bytes := text.toUTF8.toList

def decode? (bytes : Bytes) : Option String := String.fromUTF8? ⟨bytes.toArray⟩

/-- A character of which some bytes are still to come: how many, the bits so far,
and the range of the next byte. -/
structure Partial where
  missing : Nat
  bits : Nat
  low : UInt8
  high : UInt8

def replacement : Char := '\uFFFD'

def lead (byte : UInt8) : List Char × Option Partial :=
  let bits := byte.toNat
  if byte < 0x80 then ([Char.ofNat bits], none)
  else if 0xC2 ≤ byte ∧ byte ≤ 0xDF then ([], some ⟨1, bits - 0xC0, 0x80, 0xBF⟩)
  else if byte = 0xE0 then ([], some ⟨2, 0, 0xA0, 0xBF⟩)
  else if byte = 0xED then ([], some ⟨2, 0xD, 0x80, 0x9F⟩)
  else if 0xE1 ≤ byte ∧ byte ≤ 0xEF then ([], some ⟨2, bits - 0xE0, 0x80, 0xBF⟩)
  else if byte = 0xF0 then ([], some ⟨3, 0, 0x90, 0xBF⟩)
  else if 0xF1 ≤ byte ∧ byte ≤ 0xF3 then ([], some ⟨3, bits - 0xF0, 0x80, 0xBF⟩)
  else if byte = 0xF4 then ([], some ⟨3, 4, 0x80, 0x8F⟩)
  else ([replacement], none)

/-- Reads on from an unfinished character, or from none. -/
def lossyFrom : Option Partial → Bytes → List Char
  | none, [] => []
  | some _, [] => [replacement]
  | none, byte :: rest =>
    let (chars, next) := lead byte
    chars ++ lossyFrom next rest
  | some part, byte :: rest =>
    if part.low ≤ byte ∧ byte ≤ part.high then
      let bits := part.bits * 64 + (byte.toNat - 0x80)
      if part.missing = 1 then Char.ofNat bits :: lossyFrom none rest
      else lossyFrom (some ⟨part.missing - 1, bits, 0x80, 0xBF⟩) rest
    else
      let (chars, next) := lead byte
      replacement :: chars ++ lossyFrom next rest

/-- The text with each unreadable part replaced. -/
def lossy (bytes : Bytes) : String := String.ofList (lossyFrom none bytes)

end Utf8

end MockKeeper
