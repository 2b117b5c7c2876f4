/-! Spans of time, and their text: the largest of the units s, ms, µs and ns that
the span fills, with as many decimals as it needs. -/

namespace MockKeeper

structure Elapsed where
  nanoseconds : Nat
deriving DecidableEq, Repr

namespace Elapsed

def ofParts (seconds nanoseconds : Nat) : Elapsed := ⟨seconds * 1000000000 + nanoseconds⟩

def ofSeconds (seconds : Nat) : Elapsed := ofParts seconds 0

def ofMilliseconds (milliseconds : Nat) : Elapsed := ⟨milliseconds * 1000000⟩

def seconds (span : Elapsed) : Nat := span.nanoseconds / 1000000000

def fraction (digits value : Nat) : String :=
  let written := toString value
  let padded := List.replicate (digits - written.length) '0' ++ written.toList
  let kept := (padded.reverse.dropWhile (· == '0')).reverse
  if kept.isEmpty then "" else "." ++ String.ofList kept

/-- A span in a unit of ten to the `digits` nanoseconds. -/
def inUnit (span : Elapsed) (digits : Nat) (unit : String) : String :=
  toString (span.nanoseconds / Nat.pow 10 digits) ++ fraction digits (span.nanoseconds % Nat.pow 10 digits) ++
    unit

def render (span : Elapsed) : String :=
  if 1000000000 ≤ span.nanoseconds then span.inUnit 9 "s"
  else if 1000000 ≤ span.nanoseconds then span.inUnit 6 "ms"
  else if 1000 ≤ span.nanoseconds then span.inUnit 3 "µs"
  else span.inUnit 0 "ns"

end Elapsed

end MockKeeper
