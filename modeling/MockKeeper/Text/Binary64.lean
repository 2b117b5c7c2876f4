/-! Decimal numbers as 64-bit binary floating point numbers hold them. A number is taken
to the nearest one of 53 binary digits, and shown with the fewest decimal digits that
are read back as the same. -/

namespace MockKeeper.Binary64

structure Fraction where
  num : Nat
  den : Nat

namespace Fraction

def scale (n base : Nat) (exponent : Int) : Fraction :=
  if 0 ≤ exponent then ⟨n * Nat.pow base exponent.toNat, 1⟩ else ⟨n, Nat.pow base (-exponent).toNat⟩

def le (a b : Fraction) : Bool := a.num * b.den ≤ b.num * a.den

def lt (a b : Fraction) : Bool := a.num * b.den < b.num * a.den

def distance (a b : Fraction) : Fraction :=
  ⟨a.num * b.den - b.num * a.den + (b.num * a.den - a.num * b.den), a.den * b.den⟩

/-- How often a power of a base goes into a number. -/
def floorDiv (a : Fraction) (base : Nat) (exponent : Int) : Nat :=
  let unit := scale 1 base exponent
  a.num * unit.den / (a.den * unit.num)

/-- The same, to the nearest; a half goes to the even neighbour. -/
def roundDiv (a : Fraction) (base : Nat) (exponent : Int) : Nat :=
  let unit := scale 1 base exponent
  let num := a.num * unit.den
  let den := a.den * unit.num
  let floor := num / den
  let twice := 2 * (num % den)
  if twice < den || (twice == den && floor % 2 == 0) then floor else floor + 1

end Fraction

/-- The nearest number of 53 binary digits, as those digits and the power of two they
count. None if it is too large. -/
def nearest? (value : Fraction) : Option (Nat × Int) :=
  let order : Int := (Nat.log2 value.num : Int) - (Nat.log2 value.den : Int)
  let low := max (order - 53) (-1074)
  let exponent := if Nat.pow 2 53 ≤ value.floorDiv 2 low then low + 1 else low
  let digits := value.roundDiv 2 exponent
  let (digits, exponent) := if digits == Nat.pow 2 53 then (Nat.pow 2 52, exponent + 1) else (digits, exponent)
  if 971 < exponent then none else some (digits, exponent)

/-- The numbers that are read as a given one: the two ends, and whether they belong. -/
def interval (digits : Nat) (exponent : Int) : Fraction × Fraction × Bool :=
  let below := if digits == Nat.pow 2 52 && -1074 < exponent then 4 * digits - 1 else 4 * digits - 2
  (.scale below 2 (exponent - 2), .scale (4 * digits + 2) 2 (exponent - 2), digits % 2 == 0)

def leadingPower (value : Fraction) : Int :=
  if value.den ≤ value.num then ((Nat.toDigits 10 (value.num / value.den)).length : Int) - 1
  else
    let small := (Nat.toDigits 10 (value.den / value.num)).length
    let power : Int := -(small : Int)
    if (Fraction.scale 1 10 (power + 1)).le value then power + 1 else power

/-- Looks for decimal digits that are read back as the number, with one digit more each
time. -/
def fewestDigits (value low high : Fraction) (closed : Bool) : Nat → Int → Nat × Int
  | 0, power => (value.roundDiv 10 power, power)
  | fuel + 1, power =>
    let fits (n : Nat) : Bool :=
      let candidate := Fraction.scale n 10 power
      if closed then low.le candidate && candidate.le high else low.lt candidate && candidate.lt high
    let under := value.floorDiv 10 power
    match fits under, fits (under + 1) with
    | true, true =>
      let near := (value.distance (.scale under 10 power)).le (value.distance (.scale (under + 1) 10 power))
      (if near then under else under + 1, power)
    | true, false => (under, power)
    | false, true => (under + 1, power)
    | false, false => fewestDigits value low high closed fuel (power - 1)

/-- The shortest decimal digits of the number nearest to a decimal one, and the power of
ten that they count. None if it is too large. -/
def shortest? (digits : Nat) (exponent : Int) : Option (Nat × Int) :=
  let size : Int := (Nat.toDigits 10 digits).length + exponent
  if digits == 0 || size < -330 then some (0, 0)
  else if 310 < size then none
  else
    match nearest? (.scale digits 10 exponent) with
    | none => none
    | some (0, _) => some (0, 0)
    | some (mantissa, binary) =>
      let value := Fraction.scale mantissa 2 binary
      let (low, high, closed) := interval mantissa binary
      some (fewestDigits value low high closed 17 (leadingPower value))

def positional (digits : Nat) (exponent : Int) : String :=
  let text := Nat.toDigits 10 digits
  if 0 ≤ exponent then
    String.ofList (text ++ List.replicate (if digits == 0 then 0 else exponent.toNat) '0') ++ ".0"
  else
    let places := (-exponent).toNat
    let padded := List.replicate (places + 1 - text.length) '0' ++ text
    let (whole, rest) := padded.splitAt (padded.length - places)
    let kept := (rest.reverse.dropWhile (· == '0')).reverse
    String.ofList whole ++ "." ++ (if kept.isEmpty then "0" else String.ofList kept)

end MockKeeper.Binary64
