import TemplateEngine.Number.Decimal

/-!
# Whole doubles

Below two to the power of 53 every natural number is a double of its own: rounding leaves it as it is,
and the number and its digits are read back from the double.
-/

namespace TemplateEngine

namespace Double

/-- A whole quotient is not rounded. -/
theorem roundQuotient_of_dvd {num den : Nat} (pos : 0 < den) (h : den ∣ num) :
    roundQuotient num den = num / den := by
  have rest : num % den = 0 := Nat.mod_eq_zero_of_dvd h
  simp [roundQuotient, rest, pos]

theorem spacing_pos (units : Nat) : 0 < spacing units := by
  unfold spacing
  split
  · exact Nat.one_pos
  · exact powTwo_pos _

theorem powTwo_le_powTwo {a b : Nat} (le : a ≤ b) : Nat.pow 2 a ≤ Nat.pow 2 b :=
  Nat.pow_le_pow_right (by decide) le

theorem powTwo_dvd_powTwo {a b : Nat} (le : a ≤ b) : Nat.pow 2 a ∣ Nat.pow 2 b :=
  Nat.pow_dvd_pow 2 le

theorem log2_lt_of_lt_powTwo {n bits : Nat} (nonzero : n ≠ 0) (lt : n < Nat.pow 2 bits) :
    n.log2 < bits :=
  (Nat.log2_lt nonzero).2 lt

theorem mul_powTwo_lt {n bits : Nat} (small : n < Nat.pow 2 bits) (more : Nat) :
    n * Nat.pow 2 more < Nat.pow 2 (bits + more) := by
  have split : Nat.pow 2 (bits + more) = Nat.pow 2 bits * Nat.pow 2 more := Nat.pow_add 2 bits more
  rw [split]
  exact Nat.mul_lt_mul_of_pos_right small (powTwo_pos more)

theorem mul_unitsPerOne_lt {n bits : Nat} (small : n < Nat.pow 2 bits) :
    n * unitsPerOne < Nat.pow 2 (bits + unitBits) := by
  unfold unitsPerOne
  exact mul_powTwo_lt small unitBits

/-- Neighbouring doubles below 2⁵³ are at most one apart. -/
theorem spacing_dvd_unitsPerOne {n : Nat} (small : n < Nat.pow 2 53) :
    spacing (n * unitsPerOne) ∣ unitsPerOne := by
  unfold spacing
  split
  · exact Nat.one_dvd _
  · next large =>
      have positive : n * unitsPerOne ≠ 0 := by
        intro zero
        rw [zero] at large
        exact large (powTwo_pos 53)
      -- The spacing lies 52 bits below the leading one.
      have log : (n * unitsPerOne).log2 < 53 + unitBits :=
        log2_lt_of_lt_powTwo positive (mul_unitsPerOne_lt small)
      have le : (n * unitsPerOne).log2 - 52 ≤ unitBits := by omega
      have divides := powTwo_dvd_powTwo le
      unfold unitsPerOne at divides ⊢
      exact divides

/-- A whole number below 2⁵³ is a double. -/
theorem ofNat_eq_finite {n : Nat} (small : n < Nat.pow 2 53) :
    ofNat n = .finite false (n * unitsPerOne) := by
  have pos : 0 < spacing (n * unitsPerOne) := spacing_pos _
  have divides : spacing (n * unitsPerOne) ∣ n * unitsPerOne :=
    Nat.dvd_trans (spacing_dvd_unitsPerOne small) (Nat.dvd_mul_left _ _)
  have exact_units : roundQuotient (n * unitsPerOne) (spacing (n * unitsPerOne)) *
      spacing (n * unitsPerOne) = n * unitsPerOne := by
    rw [roundQuotient_of_dvd pos divides, Nat.div_mul_cancel divides]
  have inRange : n * unitsPerOne < unitsLimit := by
    have le : 53 + unitBits ≤ 2098 := by decide
    -- The exponent gets a name, so that the power is not computed.
    unfold unitsLimit
    generalize 2098 = bits at le ⊢
    exact Nat.lt_of_lt_of_le (mul_unitsPerOne_lt small) (powTwo_le_powTwo le)
  simp only [ofNat, ofRatio, round, Nat.div_one, Nat.one_mul, exact_units, inRange, if_true]

/-- A whole number of 53 bits is read back. -/
theorem toInt?_ofNat {n : Nat} (small : n < Nat.pow 2 53) : (ofNat n).toInt? = some n := by
  rw [ofNat_eq_finite small]
  simp [toInt?, signedUnits, Nat.mul_div_cancel n unitsPerOne_pos]

/-- So it is as a position. -/
theorem toNatUpTo_ofNat {n limit : Nat} (small : n < Nat.pow 2 53) (le : n ≤ limit) :
    (ofNat n).toNatUpTo limit = n := by
  rw [ofNat_eq_finite small]
  simp [toNatUpTo, Nat.mul_div_cancel n unitsPerOne_pos, le]

end Double

namespace Decimal

theorem isDigit_of_mem_digits {n : Nat} {c : Char} (h : c ∈ digits n) : c.isDigit = true :=
  Nat.isDigit_of_mem_toDigits (by decide) (by decide) h

theorem digits_ne_nil (n : Nat) : digits n ≠ [] := Nat.toDigits_ne_nil

/-- The digits of a number are read back. -/
theorem digitsValue_digits (n : Nat) : digitsValue (digits n) = n := by
  have value : Nat.ofDigitChars 10 (Nat.toDigits 10 n) 0 = n := Nat.ofDigitChars_ten_toDigits
  simpa [digitsValue, digitValue, digits, Nat.ofDigitChars, Nat.mul_comm] using value

theorem digits_zero : digits 0 = ['0'] := Nat.toDigits_zero 10

/-- Only zero is written with a zero in front. -/
theorem head_digits_ne_zero {n : Nat} (positive : 0 < n) : (digits n).head? ≠ some '0' := by
  induction n using Nat.strongRecOn with
  | ind n ih =>
      unfold digits
      by_cases small : n < 10
      · rw [Nat.toDigits_of_lt_base small]
        simp only [List.head?_cons, ne_eq, Option.some.injEq]
        have nonzero : ∀ d < 10, 0 < d → Nat.digitChar d ≠ '0' := by decide
        exact nonzero n small positive
      -- The first digit of a longer number is that of the number without its last digit.
      · have split := Nat.toDigits_of_base_le (by decide) (Nat.le_of_not_lt small)
        have fewer : (Nat.toDigits 10 (n / 10)).head? ≠ some '0' :=
          ih (n / 10) (by omega) (by omega)
        rw [split]
        cases digits : Nat.toDigits 10 (n / 10) with
        | nil => exact absurd digits Nat.toDigits_ne_nil
        | cons d ds => simpa [digits] using fewer

end Decimal
end TemplateEngine
