import TemplateEngine.Proofs.Number.WholeDouble

/-!
# Rounding — which whole numbers are doubles

A whole number is rounded to a multiple of the distance of its neighbours, which grows with the number:
53 binary digits are kept. It is a double of its own where it is such a multiple already.
-/

namespace TemplateEngine
namespace Double

/-- The distance of neighbouring doubles at a whole number of 53 binary digits or more. -/
def gap (n : Nat) : Nat := Nat.pow 2 (n.log2 - 52)

def nearest (n : Nat) : Nat := roundQuotient n (gap n) * gap n

theorem gap_pos (n : Nat) : 0 < gap n := powTwo_pos _

/-- Rounding depends on the quotient alone. -/
theorem roundQuotient_mul {num den scale : Nat} (pos : 0 < scale) :
    roundQuotient (num * scale) (den * scale) = roundQuotient num den := by
  have double : 2 * (num % den * scale) = 2 * (num % den) * scale := (Nat.mul_assoc ..).symm
  simp only [roundQuotient, Nat.mul_div_mul_right _ _ pos, Nat.mul_mod_mul_right, double, gt_iff_lt,
    Nat.mul_lt_mul_right pos]

theorem roundQuotient_le (num den : Nat) : roundQuotient num den ≤ num / den + 1 := by
  unfold roundQuotient
  have parity := Nat.mod_lt (num / den) (Nat.zero_lt_succ 1)
  simp only
  split
  · omega
  · split <;> omega

theorem log2_mul_powTwo {n : Nat} (nonzero : n ≠ 0) (bits : Nat) :
    (n * Nat.pow 2 bits).log2 = n.log2 + bits := by
  induction bits with
  | zero => simp
  | succ bits ih =>
      have split : n * Nat.pow 2 (bits + 1) = 2 * (n * Nat.pow 2 bits) := by
        have power : Nat.pow 2 (bits + 1) = Nat.pow 2 bits * 2 := rfl
        rw [power, ← Nat.mul_assoc, Nat.mul_comm]
      have nonzero' : n * Nat.pow 2 bits ≠ 0 :=
        Nat.mul_ne_zero nonzero (Nat.ne_of_gt (powTwo_pos bits))
      rw [split, Nat.log2_two_mul nonzero', ih, Nat.add_assoc]

/-- Whole numbers of 53 binary digits or more have whole neighbours. -/
theorem spacing_mul_unitsPerOne {n : Nat} (large : 52 ≤ n.log2) :
    spacing (n * unitsPerOne) = gap n * unitsPerOne := by
  have nonzero : n ≠ 0 := by
    rintro rfl
    exact absurd large (by decide)
  have log : (n * unitsPerOne).log2 = n.log2 + unitBits := by
    unfold unitsPerOne
    exact log2_mul_powTwo nonzero unitBits
  have notSmall : ¬ n * unitsPerOne < Nat.pow 2 53 := by
    intro small
    have nonzero' := Nat.mul_ne_zero nonzero (Nat.ne_of_gt unitsPerOne_pos)
    have less := log2_lt_of_lt_powTwo nonzero' small
    have wide : 53 ≤ unitBits := by decide
    omega
  have bits : n.log2 + unitBits - 52 = n.log2 - 52 + unitBits := by omega
  rw [spacing, if_neg notSmall, log, bits]
  -- The exponent gets a name, so that the power is not computed.
  unfold gap unitsPerOne
  generalize unitBits = bits
  exact Nat.pow_add 2 (n.log2 - 52) bits

/-- Numbers of few bits are exact. -/
theorem nearest_of_small {n : Nat} (small : n.log2 < 52) : nearest n = n := by
  have one : gap n = 1 := by
    rw [gap, Nat.sub_eq_zero_of_le (Nat.le_of_lt small)]
  rw [nearest, one, roundQuotient_of_dvd Nat.one_pos (Nat.one_dvd n), Nat.div_one, Nat.mul_one]

/-- Rounding moves a number by less than a gap. -/
theorem nearest_le (n : Nat) : nearest n ≤ n + gap n := by
  have whole : n / gap n * gap n ≤ n := Nat.div_mul_le_self n (gap n)
  calc nearest n
      ≤ (n / gap n + 1) * gap n := Nat.mul_le_mul_right _ (roundQuotient_le n (gap n))
    _ = n / gap n * gap n + gap n := Nat.succ_mul ..
    _ ≤ n + gap n := Nat.add_le_add_right whole _

theorem nearest_lt {n bits : Nat} (small : n < Nat.pow 2 bits) :
    nearest n < Nat.pow 2 (bits + 1) := by
  have gap_le : gap n ≤ Nat.pow 2 bits := by
    refine powTwo_le_powTwo ?_
    by_cases zero : n = 0
    · rw [zero]
      exact Nat.zero_le _
    · have log := log2_lt_of_lt_powTwo zero small
      omega
  have le := nearest_le n
  have double : Nat.pow 2 (bits + 1) = Nat.pow 2 bits * 2 := rfl
  omega

/-- The double of a whole number is the nearest multiple of the distance of the doubles there. -/
theorem ofNat_eq_nearest {n : Nat} (small : n < Nat.pow 2 1023) :
    ofNat n = .finite false (nearest n * unitsPerOne) := by
  rcases Nat.lt_or_ge n.log2 52 with short | long
  · have below : n < Nat.pow 2 53 := Nat.lt_of_not_ge fun le => by
      have nonzero : n ≠ 0 := Nat.ne_of_gt (Nat.lt_of_lt_of_le (powTwo_pos 53) le)
      have log := (Nat.le_log2 nonzero).2 le
      omega
    rw [ofNat_eq_finite below, nearest_of_small short]
  · have quotient : roundQuotient (n * unitsPerOne) (gap n * unitsPerOne) = roundQuotient n (gap n) :=
      roundQuotient_mul unitsPerOne_pos
    have inRange : nearest n * unitsPerOne < unitsLimit := by
      have less := mul_unitsPerOne_lt (nearest_lt small)
      have le : 1023 + 1 + unitBits ≤ 2098 := by decide
      -- The exponent gets a name, so that the power is not computed.
      unfold unitsLimit
      generalize 2098 = bits at le ⊢
      exact Nat.lt_of_lt_of_le less (powTwo_le_powTwo le)
    simp only [ofNat, ofRatio, round, Nat.div_one, Nat.one_mul, spacing_mul_unitsPerOne long, quotient,
      ← Nat.mul_assoc]
    exact if_pos inRange

/-- The exact numbers are the multiples of the gap. -/
theorem nearest_eq_iff {n : Nat} : nearest n = n ↔ gap n ∣ n := by
  constructor
  · intro same
    exact ⟨roundQuotient n (gap n), by rw [Nat.mul_comm]; exact same.symm⟩
  · intro divides
    rw [nearest, roundQuotient_of_dvd (gap_pos n) divides, Nat.div_mul_cancel divides]

end Double
end TemplateEngine
