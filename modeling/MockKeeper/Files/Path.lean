import MockKeeper.Text.Utf8

/-! Paths: names with slashes between them. -/

namespace MockKeeper

abbrev Name := Bytes

namespace Path

def slash : UInt8 := 0x2F

def self : Name := [0x2E]

def parent : Name := [0x2E, 0x2E]

def split : Bytes → List Name
  | [] => [[]]
  | byte :: rest =>
    if byte = slash then [] :: split rest
    else
      match split rest with
      | [] => [[byte]]
      | name :: others => (byte :: name) :: others

def isAbsolute (path : Bytes) : Bool := path.head? == some slash

/-- The names to walk along. A slash at the end asks for a directory, as naming its own
entry does. -/
def names (path : Bytes) : List Name :=
  (split path).filter (fun name => !name.isEmpty) ++ if path.getLast? == some slash then [self] else []

def join (path name : Bytes) : Bytes :=
  if path.isEmpty || path.getLast? == some slash then path ++ name else path ++ slash :: name

/-- What stands before the last name of a path, without the slashes between. -/
def above (path : Bytes) : Bytes :=
  ((path.reverse.dropWhile (· != slash)).dropWhile (· == slash)).reverse

def absolute (names : List Name) : Bytes :=
  if names.isEmpty then [slash] else names.flatMap fun name => slash :: name

end Path

end MockKeeper
