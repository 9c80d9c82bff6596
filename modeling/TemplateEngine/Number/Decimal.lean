import TemplateEngine.Number.Double

/-!
# Decimal text of doubles

A finite double is written with the fewest significant digits that read back to it, and of two such
numbers of digits with the nearer one. `shortest` finds the digits by trying, for one digit, two
digits and so on, the two decimal numbers on either side of the value. A `DecimalStyle` says what is
left to a format: how a tie between the two goes, where the notation is positional, and whether a
whole number carries a fraction.
-/

namespace TemplateEngine

/-- What a number format decides about the text of a finite double. -/
structure DecimalStyle where
  /-- Of two decimals at the same distance, take the one with the even last digit; else the larger. -/
  tieToEven : Bool
  /-- Whether a number is written without an exponent, by the power of ten of its first digit. -/
  positional : Int → Bool
  /-- Whether a whole number ends in a point and a zero. -/
  fraction : Bool

/-- The decimal number `significand · 10 ^ exponent`. -/
structure Decimal where
  significand : Nat
  exponent : Int
  deriving DecidableEq, Repr

namespace Decimal

def digits (n : Nat) : List Char :=
  Nat.toDigits 10 n

def intText (i : Int) : List Char :=
  if i < 0 then '-' :: digits i.natAbs else digits i.natAbs

def digitValue (c : Char) : Nat :=
  c.toNat - '0'.toNat

def digitsValue (ds : List Char) : Nat :=
  ds.foldl (fun n c => n * 10 + digitValue c) 0

def digitCount (n : Nat) : Nat :=
  (digits n).length

/-- The power of ten of the first significant digit of a positive count of units. -/
def leadingExponent (units : Nat) : Int :=
  if Double.unitsPerOne ≤ units then
    (digitCount (units / Double.unitsPerOne) : Int) - 1
  else
    let inverse := (Double.unitsPerOne + units - 1) / units
    0 - (digitCount (inverse - 1) : Int)

/-- The value of a count of units in steps of `10 ^ exponent`, as a fraction. -/
def onGrid (units : Nat) (exponent : Int) : Nat × Nat :=
  if 0 ≤ exponent then (units, Double.unitsPerOne * Nat.pow 10 exponent.toNat)
  else (units * Nat.pow 10 (-exponent).toNat, Double.unitsPerOne)

/-- Whether a decimal number reads as the double of the given units. -/
def readsAs (d : Decimal) (units : Nat) : Bool :=
  Double.ofDecimal false d.significand d.exponent == .finite false units

/-- The better of the two neighbours of a value on a decimal grid that read back, if one does. -/
def onGrid? (tieToEven : Bool) (units : Nat) (exponent : Int) : Option Decimal :=
  let (num, den) := onGrid units exponent
  let below : Decimal := ⟨num / den, exponent⟩
  let above : Decimal := ⟨num / den + 1, exponent⟩
  match readsAs below units, readsAs above units with
  | false, false => none
  | true, false => some below
  | false, true => some above
  | true, true =>
      let twice := 2 * (num % den)
      if twice < den then some below
      else if den < twice then some above
      else if tieToEven && below.significand % 2 == 0 then some below
      else some above

/-- The number without trailing zeros in its significand, as far as the fuel goes. -/
def strip : Nat → Decimal → Decimal
  | 0, d => d
  | fuel + 1, d =>
      if d.significand % 10 = 0 then strip fuel ⟨d.significand / 10, d.exponent + 1⟩ else d

/-- The shortest decimal number that reads as the double of the given units. Seventeen digits are
enough for every double. -/
def shortest (tieToEven : Bool) (units : Nat) : Decimal :=
  if units = 0 then ⟨0, 0⟩
  else
    let leading := leadingExponent units
    match (List.range 17).findSome? fun (n : Nat) => onGrid? tieToEven units (leading - n) with
    | some d => strip 20 d
    | none => ⟨0, 0⟩

def magnitude (d : Decimal) : Int :=
  d.exponent + digitCount d.significand - 1

/-- The number without an exponent. -/
def positionalText (fraction : Bool) (d : Decimal) : List Char :=
  let ds := digits d.significand
  if 0 ≤ d.exponent then
    ds ++ List.replicate d.exponent.toNat '0' ++ (if fraction then ['.', '0'] else [])
  else
    let places := (-d.exponent).toNat
    if places < ds.length then ds.take (ds.length - places) ++ '.' :: ds.drop (ds.length - places)
    else '0' :: '.' :: List.replicate (places - ds.length) '0' ++ ds

/-- The number as one digit, the others after a point, and a signed power of ten. -/
def exponentText (d : Decimal) : List Char :=
  let mantissa :=
    match digits d.significand with
    | first :: [] => [first]
    | first :: others => first :: '.' :: others
    | [] => []
  let sign := if d.magnitude < 0 then '-' else '+'
  mantissa ++ 'e' :: sign :: digits d.magnitude.natAbs

end Decimal

namespace DecimalStyle

def write (style : DecimalStyle) (negative : Bool) (units : Nat) : String :=
  let d := Decimal.shortest style.tieToEven units
  let body :=
    if units = 0 || style.positional d.magnitude then d.positionalText style.fraction
    else d.exponentText
  String.ofList (if negative then '-' :: body else body)

/-- Digits alone: no exponent at any size, no fraction on a whole number, ties upward. -/
def plain : DecimalStyle where
  tieToEven := false
  positional := fun _ => true
  fraction := false

end DecimalStyle

namespace Double

/-- The integer that a number is, if it is one below 10¹⁵ in absolute value; such numbers are
written as integers. -/
def shortInt? (d : Double) : Option Int :=
  d.toInt?.filter fun i => i.natAbs < Nat.pow 10 15

def write (style : DecimalStyle) (nan infinity : String) : Double → String
  | .nan => nan
  | .infinite false => infinity
  | .infinite true => "-" ++ infinity
  | .finite s u => style.write s u

end Double
end TemplateEngine
