/-!
# Double-precision numbers

A finite double is a whole number of units of 2⁻¹⁰⁷⁴, the smallest positive double, so every
operation is exact arithmetic on natural numbers followed by one rounding. `Double.round` is that
rounding: to the nearest double, a value half way between two of them to the even one. Zero keeps
its sign, as the arithmetic of doubles requires.
-/

namespace TemplateEngine

inductive Double
  /-- The result of an operation that has none. -/
  | nan
  /-- One of the two infinities. -/
  | infinite (negative : Bool)
  /-- A sign and a count of units of 2⁻¹⁰⁷⁴. -/
  | finite (negative : Bool) (units : Nat)
  deriving DecidableEq, Repr, Inhabited

namespace Double

/-- The smallest positive double is two to the power of minus this. -/
def unitBits : Nat := 1074

/-- How many units the number one has. -/
def unitsPerOne : Nat := Nat.pow 2 unitBits

/-- The first count of units past the largest finite double and its rounding interval. -/
def unitsLimit : Nat := Nat.pow 2 2098

/-- Distance between neighbouring doubles at a count of units: 53 binary digits are kept. -/
def spacing (units : Nat) : Nat :=
  if units < Nat.pow 2 53 then 1 else Nat.pow 2 (units.log2 - 52)

/-- A quotient as the nearest whole number, a half going to the even one. -/
def roundQuotient (num den : Nat) : Nat :=
  let whole := num / den
  let rest := num % den
  if 2 * rest < den then whole
  else if 2 * rest > den then whole + 1
  else whole + whole % 2

/-- The double nearest to `num / den` units, of the given sign. -/
def round (negative : Bool) (num den : Nat) : Double :=
  let step := spacing (num / den)
  let units := roundQuotient num (den * step) * step
  if units < unitsLimit then .finite negative units else .infinite negative

def ofRatio (negative : Bool) (num den : Nat) : Double :=
  round negative (num * unitsPerOne) den

def ofNat (n : Nat) : Double :=
  ofRatio false n 1

/-- The double nearest to an integer; zero has no sign. -/
def ofInt (i : Int) : Double :=
  ofRatio (i < 0) i.natAbs 1

/-- The double nearest to `significand · 10 ^ exponent`. -/
def ofDecimal (negative : Bool) (significand : Nat) (exponent : Int) : Double :=
  if 0 ≤ exponent then ofRatio negative (significand * Nat.pow 10 exponent.toNat) 1
  else ofRatio negative significand (Nat.pow 10 (-exponent).toNat)

def zero : Double := .finite false 0

/-! ## Arithmetic -/

def neg : Double → Double
  | .nan => .nan
  | .infinite s => .infinite !s
  | .finite s u => .finite (!s) u

def signedUnits (negative : Bool) (units : Nat) : Int :=
  if negative then -(units : Int) else units

/-- The nearest double to a sum. Opposite numbers add up to positive zero. -/
def add : Double → Double → Double
  | .nan, _ | _, .nan => .nan
  | .infinite s, .infinite t => if s = t then .infinite s else .nan
  | .infinite s, .finite _ _ => .infinite s
  | .finite _ _, .infinite t => .infinite t
  | .finite s a, .finite t b =>
      let sum := signedUnits s a + signedUnits t b
      if sum = 0 then .finite (s && t) 0 else round (sum < 0) sum.natAbs 1

def sub (a b : Double) : Double :=
  a.add b.neg

def mul : Double → Double → Double
  | .nan, _ | _, .nan => .nan
  | .infinite s, .infinite t => .infinite (s != t)
  | .infinite s, .finite t b => if b = 0 then .nan else .infinite (s != t)
  | .finite s a, .infinite t => if a = 0 then .nan else .infinite (s != t)
  | .finite s a, .finite t b => round (s != t) (a * b) unitsPerOne

def div : Double → Double → Double
  | .nan, _ | _, .nan => .nan
  | .infinite _, .infinite _ => .nan
  | .infinite s, .finite t _ => .infinite (s != t)
  | .finite s _, .infinite t => .finite (s != t) 0
  | .finite s a, .finite t b =>
      if b = 0 then if a = 0 then .nan else .infinite (s != t)
      else round (s != t) (a * unitsPerOne) b

/-- The exact remainder of the division that cuts toward zero; it has the sign of the dividend. -/
def rem : Double → Double → Double
  | .nan, _ | _, .nan => .nan
  | .infinite _, _ => .nan
  | .finite s a, .infinite _ => .finite s a
  | .finite s a, .finite _ b => if b = 0 then .nan else .finite s (a % b)

/-! ## Comparison -/

/-- The order of two numbers; `nan` has no place in it, and the two zeros have the same one. -/
def compare? : Double → Double → Option Ordering
  | .nan, _ | _, .nan => none
  | .infinite s, .infinite t => some (if s = t then .eq else if s then .lt else .gt)
  | .infinite s, .finite _ _ => some (if s then .lt else .gt)
  | .finite _ _, .infinite t => some (if t then .gt else .lt)
  | .finite s a, .finite t b => some (compare (signedUnits s a) (signedUnits t b))

/-- Equality of numbers: `nan` equals nothing, and the two zeros are equal. -/
def same (a b : Double) : Bool :=
  compare? a b == some .eq

def isZero : Double → Bool
  | .finite _ u => u == 0
  | _ => false

def isNan : Double → Bool
  | .nan => true
  | _ => false

def isNegative (d : Double) : Bool :=
  compare? d zero == some .lt

/-! ## Whole numbers -/

/-- The integer that a double is, if it is one. -/
def toInt? : Double → Option Int
  | .finite s u =>
      if u % unitsPerOne = 0 then some (signedUnits s (u / unitsPerOne)) else none
  | _ => none

/-- The whole part of a number as a natural number up to `limit`; what is negative or `nan` counts
as zero. -/
def toNatUpTo (limit : Nat) : Double → Nat
  | .finite false u => min (u / unitsPerOne) limit
  | .infinite false => limit
  | _ => 0

theorem powTwo_pos : ∀ n : Nat, 0 < Nat.pow 2 n
  | 0 => by decide
  | n + 1 => Nat.mul_pos (powTwo_pos n) (by decide)

theorem unitsPerOne_pos : 0 < unitsPerOne := by
  unfold unitsPerOne
  exact powTwo_pos unitBits

theorem neg_neg (d : Double) : d.neg.neg = d := by
  cases d <;> simp [neg]

end Double
end TemplateEngine
