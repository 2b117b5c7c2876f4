import MockKeeper.Text.Binary64
import MockKeeper.Text.Quoted

/-! What an unquoted scalar means: nothing, a truth value, a number, or its text. -/

namespace MockKeeper.Yaml

inductive Meaning
  | null
  | boolean (value : Bool)
  | integer (value : Int)
  | float (shown : String)
  | text (text : String)
deriving DecidableEq, Repr

namespace Meaning

def isNullText (text : String) : Bool := ["null", "Null", "NULL", "~"].contains text

def boolean? (text : String) : Option Bool :=
  if ["true", "True", "TRUE"].contains text then some true
  else if ["false", "False", "FALSE"].contains text then some false
  else none

def digitValue? (base : Nat) (c : Char) : Option Nat :=
  let value :=
    if c.isDigit then some (c.toNat - '0'.toNat)
    else if 'a' ≤ c ∧ c ≤ 'z' then some (c.toNat - 'a'.toNat + 10)
    else if 'A' ≤ c ∧ c ≤ 'Z' then some (c.toNat - 'A'.toNat + 10)
    else none
  value.filter (· < base)

def natural? (base : Nat) : List Char → Option Nat
  | [] => none
  | digits => digits.foldl (fun value c => do pure ((← value) * base + (← digitValue? base c))) (some 0)

/-- Whether a text consists of digits with a needless zero in front. Such a text is not
a number. -/
def isPadded (digits : List Char) : Bool :=
  match digits with
  | '0' :: _ :: _ => digits.all Char.isDigit
  | _ => false

/-- A number without its sign: hexadecimal, octal, binary or decimal. -/
def magnitude? (text : List Char) : Option Nat :=
  let inBase := match text with
    | '0' :: 'x' :: digits => natural? 16 digits
    | '0' :: 'o' :: digits => natural? 8 digits
    | '0' :: 'b' :: digits => natural? 2 digits
    | _ => none
  inBase.or (if isPadded text then none else natural? 10 text)

def natural64? (text : String) : Option Nat :=
  (match text.toList with
    | '+' :: rest => magnitude? rest
    | rest => magnitude? rest).filter (· < Nat.pow 2 64)

/-- An integer of at most 128 bits. -/
def integer? (text : String) : Option Int :=
  match text.toList with
  | '-' :: rest => ((magnitude? rest).filter (· ≤ Nat.pow 2 127)).map fun n => -(n : Int)
  | '+' :: rest => ((magnitude? rest).filter (· < Nat.pow 2 128)).map fun n => (n : Int)
  | rest => ((magnitude? rest).filter (· < Nat.pow 2 128)).map fun n => (n : Int)

def exponent? : List Char → Option Int
  | [] => some 0
  | c :: rest =>
    if c == 'e' || c == 'E' then
      match rest with
      | '-' :: digits => (natural? 10 digits).map fun n => -(n : Int)
      | '+' :: digits => (natural? 10 digits).map fun n => (n : Int)
      | digits => (natural? 10 digits).map fun n => (n : Int)
    else none

def decimal? (text : List Char) : Option (Nat × Int) := do
  let (whole, rest) := text.span Char.isDigit
  let (fraction, rest) := match rest with
    | '.' :: rest => rest.span Char.isDigit
    | _ => ([], rest)
  let digits ← natural? 10 (whole ++ fraction)
  let exponent ← exponent? rest
  some (digits, exponent - fraction.length)

def isInfinityText (text : String) : Bool := [".inf", ".Inf", ".INF"].contains text

def float? (text : String) : Option String :=
  let finite (sign : String) (rest : List Char) : Option String := do
    let (digits, exponent) ← decimal? rest
    let (digits, exponent) ← Binary64.shortest? digits exponent
    some (sign ++ Binary64.positional digits exponent)
  if [".nan", ".NaN", ".NAN"].contains text then some "NaN"
  else
    match text.toList with
    | '+' :: rest => if isInfinityText (String.ofList rest) then some "inf" else finite "" rest
    | '-' :: rest => if isInfinityText (String.ofList rest) then some "-inf" else finite "-" rest
    | rest => if isInfinityText text then some "inf" else finite "" rest

def ofText (text : String) : Meaning :=
  if text.isEmpty || isNullText text then .null
  else
    match boolean? text, integer? text with
    | some value, _ => .boolean value
    | none, some value => .integer value
    | none, none =>
      let unsigned := match text.toList with
        | '-' :: rest => rest
        | '+' :: rest => rest
        | rest => rest
      match (if isPadded unsigned then none else float? text) with
      | some shown => .float shown
      | none => .text text

/-- The meaning in the words of a message. Integers of more than 64 bits are marked. -/
def describe : Meaning → String
  | .null => "unit value"
  | .boolean truth => s!"boolean `{truth}`"
  | .integer n =>
    let wide := if ((Nat.pow 2 64 : Nat) : Int) ≤ n then " as u128" else if n < -((Nat.pow 2 63 : Nat) : Int) then " as i128" else ""
    s!"integer `{n}`" ++ wide
  | .float shown => s!"floating point `{shown}`"
  | .text words => "string " ++ Text.quoted words

end Meaning

end MockKeeper.Yaml
