/-! Blank characters: those with the property White_Space. -/

namespace MockKeeper.Text

/-- A character with the property White_Space. -/
def isBlank (c : Char) : Bool :=
  let code := c.toNat
  (9 ≤ code && code ≤ 13) || code == 0x20 || code == 0x85 || code == 0xA0 || code == 0x1680 ||
    (0x2000 ≤ code && code ≤ 0x200A) || code == 0x2028 || code == 0x2029 || code == 0x202F ||
    code == 0x205F || code == 0x3000

def trim (text : String) : String :=
  String.ofList ((((text.toList.dropWhile isBlank).reverse).dropWhile isBlank).reverse)

def asciiLower (text : String) : String := text.map Char.toLower

def dropReturn (line : String) : String :=
  if line.endsWith "\r" then String.ofList line.toList.dropLast else line

/-- A text cut at every line feed; a carriage return before a line feed goes with it. What
follows the last line feed is a line if there is anything. -/
def lines (text : String) : List String :=
  let pieces := text.splitOn "\n"
  pieces.dropLast.map dropReturn ++ (pieces.getLast?.filter fun line => !line.isEmpty).toList

end MockKeeper.Text
