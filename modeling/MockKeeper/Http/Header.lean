import MockKeeper.Text.Utf8

/-! HTTP header names and values, and the map from names to their values. Names do
not depend on case; a name keeps all its values in order, and names keep the order
in which they first came.

This is the header map of the `http` library that hyper 1.5 uses. There a map holds no more
than 32768 names, and to add one more is a panic. Here a map has no limit, so what is said of
maps is said of those within it. -/

namespace MockKeeper

/-- Characters of a token: a letter, a digit or one of the marks allowed beside them. -/
def isTokenByte (byte : UInt8) : Bool :=
  (0x30 ≤ byte && byte ≤ 0x39) || (0x41 ≤ byte && byte ≤ 0x5A) || (0x61 ≤ byte && byte ≤ 0x7A) ||
    byte == 0x21 || (0x23 ≤ byte && byte ≤ 0x27) || byte == 0x2A || byte == 0x2B ||
    byte == 0x2D || byte == 0x2E || (0x5E ≤ byte && byte ≤ 0x60) || byte == 0x7C || byte == 0x7E

structure HeaderName where
  text : String
deriving DecidableEq, Repr

namespace HeaderName

def maxLength : Nat := 65535

def ofBytes? (bytes : Bytes) : Option HeaderName :=
  if bytes.isEmpty || maxLength < bytes.length || !bytes.all isTokenByte then none
  else some ⟨String.ofList (bytes.map fun byte => (Char.ofNat byte.toNat).toLower)⟩

end HeaderName

/-- A header value: bytes without control characters other than the tab. -/
structure HeaderValue where
  bytes : Bytes
deriving DecidableEq, Repr

namespace HeaderValue

def isValueByte (byte : UInt8) : Bool := byte == 0x09 || (0x20 ≤ byte && byte != 0x7F)

def ofBytes? (bytes : Bytes) : Option HeaderValue :=
  if bytes.all isValueByte then some ⟨bytes⟩ else none

/-- The value as text, if it is visible ASCII, spaces and tabs. -/
def visible? (value : HeaderValue) : Option String :=
  if value.bytes.all fun byte => byte == 0x09 || (0x20 ≤ byte && byte < 0x7F) then
    some (String.ofList (value.bytes.map fun byte => Char.ofNat byte.toNat))
  else none

end HeaderValue

inductive HeaderError
  | invalidName
  | invalidValue
deriving DecidableEq, Repr

namespace HeaderError

def message : HeaderError → String
  | .invalidName => "invalid HTTP header name"
  | .invalidValue => "failed to parse header value"

end HeaderError

/-- A map from names to their values, no name twice. -/
structure HeaderMap where
  entries : List (HeaderName × List HeaderValue)
  distinct : (entries.map Prod.fst).Nodup

namespace HeaderMap

def empty : HeaderMap := ⟨[], by simp⟩

def names (map : HeaderMap) : List HeaderName := map.entries.map Prod.fst

def values (map : HeaderMap) (name : HeaderName) : List HeaderValue :=
  (map.entries.lookup name).getD []

def appendEntry (name : HeaderName) (value : HeaderValue) :
    List (HeaderName × List HeaderValue) → List (HeaderName × List HeaderValue)
  | [] => [(name, [value])]
  | (other, values) :: rest =>
    if other = name then (other, values ++ [value]) :: rest
    else (other, values) :: appendEntry name value rest

theorem mem_names_appendEntry {name other : HeaderName} {value : HeaderValue}
    {entries : List (HeaderName × List HeaderValue)} :
    other ∈ (appendEntry name value entries).map Prod.fst ↔
      other = name ∨ other ∈ entries.map Prod.fst := by
  induction entries with
  | nil => simp [appendEntry]
  | cons entry rest ih =>
    obtain ⟨first, values⟩ := entry
    by_cases same : first = name
    · subst same; simp [appendEntry]
    · simp only [appendEntry, same, if_false, List.map_cons, List.mem_cons, ih]
      constructor
      · rintro (h | h | h) <;> simp [h]
      · rintro (h | h | h) <;> simp [h]

theorem distinct_appendEntry {name : HeaderName} {value : HeaderValue}
    {entries : List (HeaderName × List HeaderValue)} (distinct : (entries.map Prod.fst).Nodup) :
    ((appendEntry name value entries).map Prod.fst).Nodup := by
  induction entries with
  | nil => simp [appendEntry]
  | cons entry rest ih =>
    obtain ⟨first, values⟩ := entry
    rw [List.map_cons, List.nodup_cons] at distinct
    by_cases same : first = name
    · simpa only [appendEntry, same, if_true, List.map_cons, List.nodup_cons] using distinct
    · simp only [appendEntry, same, if_false, List.map_cons, List.nodup_cons]
      refine ⟨fun inside => ?_, ih distinct.2⟩
      rcases mem_names_appendEntry.1 inside with h | h
      · exact same h
      · exact distinct.1 h

/-- One more value of a name: behind its other values, or as a new last name. -/
def append (map : HeaderMap) (name : HeaderName) (value : HeaderValue) : HeaderMap :=
  ⟨appendEntry name value map.entries, distinct_appendEntry map.distinct⟩

/-- Name and value pairs: names in order, all values of a name together. -/
def toList (map : HeaderMap) : List (HeaderName × HeaderValue) :=
  map.entries.flatMap fun (name, values) => values.map (name, ·)

def appendAll (map : HeaderMap) (pairs : List (HeaderName × HeaderValue)) : HeaderMap :=
  pairs.foldl (fun map pair => map.append pair.1 pair.2) map

def ofPairs (pairs : List (Bytes × Bytes)) : Except HeaderError HeaderMap :=
  pairs.foldlM (fun map (name, value) =>
    match HeaderName.ofBytes? name with
    | none => .error .invalidName
    | some name =>
      match HeaderValue.ofBytes? value with
      | none => .error .invalidValue
      | some value => .ok (map.append name value)) empty

end HeaderMap

end MockKeeper
