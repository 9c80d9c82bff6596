import TemplateEngine.Json.Document
import TemplateEngine.Number.Decimal

/-!
# Numbers in JSON

Reading a number. The significand takes digits as long as it stays below 2⁶⁴: of the digits
left over, those before the point still count in the exponent and those after it are dropped. Digits
alone that fit an integer stay an integer. Otherwise the number is the double nearest to the
significand, multiplied or divided once by the double nearest to a power of ten. What is beyond the
largest double is no number.
-/

namespace TemplateEngine
namespace JsonNumber

open Decimal (digitValue digitsValue)

/-- First natural number that a significand cannot hold. -/
def significandLimit : Nat := Nat.pow 2 64

/-- Takes digits before the point, given the significand so far and the digits left over. -/
def takeWhole : Nat → Nat → List Char → Nat × Nat
  | value, spare, [] => (value, spare)
  | value, spare, c :: cs =>
      let next := value * 10 + digitValue c
      if spare = 0 && next < significandLimit then takeWhole next 0 cs
      else takeWhole value (spare + 1) cs

/-- Takes digits after the point until one does not fit; the second number counts those taken. -/
def takeFraction : Nat → Nat → List Char → Nat × Nat
  | value, places, [] => (value, places)
  | value, places, c :: cs =>
      let next := value * 10 + digitValue c
      if next < significandLimit then takeFraction next (places + 1) cs else (value, places)

/-- Division by a power of ten, in steps of at most 10³⁰⁸. -/
def scaleDown (d : Double) (exponent : Nat) : Double :=
  if exponent ≤ 308 then d.div (Double.ofDecimal false 1 exponent)
  else if d.isZero then d
  else scaleDown (d.div (Double.ofDecimal false 1 308)) (exponent - 308)
termination_by exponent
decreasing_by omega

def scale? (minus : Bool) (significand : Nat) (exponent : Int) : Option Double :=
  let d := Double.ofNat significand
  let scaled :=
    if exponent < 0 then scaleDown d (-exponent).toNat
    else if significand = 0 then d
    else if exponent ≤ 308 then d.mul (Double.ofDecimal false 1 exponent)
    else .infinite false
  match scaled with
  | .infinite _ => none
  | finite => some (if minus then finite.neg else finite)

def digitRun (cs : List Char) : List Char × List Char :=
  (cs.takeWhile Char.isDigit, cs.dropWhile Char.isDigit)

/-- The digits after a point, if there is one; a point needs a digit after it. -/
def fraction? : List Char → Option (Option (List Char) × List Char)
  | '.' :: cs =>
      let (ds, rest) := digitRun cs
      if ds.isEmpty then none else some (some ds, rest)
  | cs => some (none, cs)

/-- The power of ten after the letter `e`, if there is one; it needs a digit. -/
def exponent? : List Char → Option (Option Int × List Char)
  | [] => some (none, [])
  | c :: cs =>
      if c = 'e' || c = 'E' then
        let (minus, cs) :=
          match cs with
          | '+' :: rest => (false, rest)
          | '-' :: rest => (true, rest)
          | _ => (false, cs)
        let (ds, rest) := digitRun cs
        if ds.isEmpty then none
        else some (some (if minus then -(digitsValue ds : Int) else digitsValue ds), rest)
      else some (none, c :: cs)

/-- The number with the given sign, digits before the point, digits after it, and exponent. -/
def ofParts? (minus : Bool) (whole : List Char) (fraction : Option (List Char))
    (exponent : Option Int) : Option JsonNumber :=
  let (value, spare) := takeWhole 0 0 whole
  match fraction, exponent, spare with
  | none, none, 0 =>
      if minus then
        if 0 < value && value ≤ Nat.pow 2 63 then some (.negative value)
        else some (.double (Double.ofNat value).neg)
      else some (.natural value)
  | _, _, _ =>
      let (value, places) := takeFraction value 0 (fraction.getD [])
      (scale? minus value ((spare : Int) - places + exponent.getD 0)).map .double

/-- Reads a number. A zero at its head is the only digit before the point. -/
def read? (cs : List Char) : Option (JsonNumber × List Char) := do
  let (minus, cs) :=
    match cs with
    | '-' :: rest => (true, rest)
    | _ => (false, cs)
  let (whole, rest) := digitRun cs
  match whole with
  | [] => none
  | '0' :: _ :: _ => none
  | _ =>
      let (fraction, rest) ← fraction? rest
      let (exponent, rest) ← exponent? rest
      let number ← ofParts? minus whole fraction exponent
      pure (number, rest)

end JsonNumber
end TemplateEngine
