/-! Decimal integers read within bounds. Digits are taken one by one, so the first thing
found wrong is what is reported. -/

namespace MockKeeper.Text

inductive IntegerFault
  | empty
  | invalidDigit
  | tooLarge
  | tooSmall
deriving DecidableEq, Repr

namespace IntegerFault

def message : IntegerFault → String
  | .empty => "cannot parse integer from empty string"
  | .invalidDigit => "invalid digit found in string"
  | .tooLarge => "number too large to fit in target type"
  | .tooSmall => "number too small to fit in target type"

end IntegerFault

/-- Reads digits up to a limit, which is passed with the given fault. -/
def readDigits (limit : Nat) (beyond : IntegerFault) : Nat → List Char → Except IntegerFault Nat
  | value, [] => .ok value
  | value, c :: rest =>
    if !c.isDigit then .error .invalidDigit
    else
      let next := value * 10 + (c.toNat - '0'.toNat)
      if limit < next then .error beyond else readDigits limit beyond next rest

/-- Reads an integer of a word of the given number of bits, with or without a sign. A
minus sign is a digit like others where there are no negative numbers. -/
def readInteger (signed : Bool) (bits : Nat) (text : String) : Except IntegerFault Int :=
  let most := if signed then Nat.pow 2 (bits - 1) - 1 else Nat.pow 2 bits - 1
  let positive (digits : List Char) : Except IntegerFault Int :=
    (readDigits most .tooLarge 0 digits).map fun n => (n : Int)
  match text.toList with
  | [] => .error .empty
  | ['+'] => .error .invalidDigit
  | ['-'] => .error .invalidDigit
  | '+' :: digits => positive digits
  | '-' :: digits =>
    if signed then (readDigits (Nat.pow 2 (bits - 1)) .tooSmall 0 digits).map fun n => -(n : Int)
    else .error .invalidDigit
  | digits => positive digits

end MockKeeper.Text
