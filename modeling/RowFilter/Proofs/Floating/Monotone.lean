import RowFilter.Proofs.Floating.Range
import RowFilter.Proofs.Floating.Shortest

/-!
# Rounding keeps the order

A greater quotient is never rounded to a smaller number (`codeOfQuotient_le_codeOfQuotient`), so the
number nearest to an integer grows with the integer (`units_ofInt_le`). It need not grow strictly:
only integers that fit the fraction field with one bit more are numbers of the format themselves
(`units_ofInt`).
-/

namespace RowFilter

/-! ### Rounding a quotient -/

/-- Rounding does not go below the whole part. -/
theorem div_le_roundQuotient (num den : Nat) : num / den ≤ roundQuotient num den := by
  unfold roundQuotient
  dsimp only
  split <;> omega

/-- A greater numerator is not rounded to a smaller whole number. -/
theorem roundQuotient_le_roundQuotient {num num' : Nat} (h : num ≤ num') (den : Nat) :
    roundQuotient num den ≤ roundQuotient num' den := by
  rcases Nat.eq_or_lt_of_le (Nat.div_le_div_right (c := den) h) with hq | hq
  · -- with one whole part, the remainders are in the order of the numerators
    have hr : num % den ≤ num' % den := by
      have hsplit := Nat.div_add_mod num den
      have hsplit' := Nat.div_add_mod num' den
      rw [hq] at hsplit
      omega
    simp only [roundQuotient, hq]
    split <;> split <;> omega
  · calc roundQuotient num den ≤ num / den + 1 := roundQuotient_le num den
      _ ≤ num' / den := hq
      _ ≤ roundQuotient num' den := div_le_roundQuotient num' den

namespace FloatFormat

variable (f : FloatFormat)

/-- The number of bits that are rounded away grows with the quotient. -/
theorem log2_div_le {num num' : Nat} (h : num ≤ num') (den : Nat) :
    (num / den).log2 ≤ (num' / den).log2 := by
  by_cases hzero : num / den = 0
  · rw [hzero, Nat.log2_zero]
    exact Nat.zero_le _
  · have hle : num / den ≤ num' / den := Nat.div_le_div_right h
    rw [Nat.le_log2 (Nat.lt_of_lt_of_le (Nat.pos_of_ne_zero hzero) hle).ne']
    exact Nat.le_trans (Nat.log2_self_le hzero) hle

/-- A greater quotient does not get a smaller code. -/
theorem codeOfQuotient_le_codeOfQuotient {num num' : Nat} (h : num ≤ num') (den : Nat) :
    f.codeOfQuotient num den ≤ f.codeOfQuotient num' den := by
  obtain ⟨s, hs⟩ : ∃ s, (num / den).log2 - f.fractionBits = s := ⟨_, rfl⟩
  obtain ⟨s', hs'⟩ : ∃ s, (num' / den).log2 - f.fractionBits = s := ⟨_, rfl⟩
  have hlog := log2_div_le h den
  have hcode : s * f.binadeSize + roundQuotient num (den * Nat.pow 2 s) ≤
      s' * f.binadeSize + roundQuotient num' (den * Nat.pow 2 s') := by
    rcases Nat.eq_or_lt_of_le (show s ≤ s' by omega) with rfl | hlt
    · exact Nat.add_le_add_left (roundQuotient_le_roundQuotient h _) _
    · -- the first quotient fits two binades at its spacing, the second fills one at a wider spacing
      have hquotient : num / (den * Nat.pow 2 s) < 2 * f.binadeSize := by
        rw [← Nat.div_div_eq_div_mul, Nat.pow_eq, Nat.div_lt_iff_lt_mul (Nat.two_pow_pos s)]
        calc num / den < 2 ^ ((num / den).log2 + 1) := Nat.lt_log2_self
          _ ≤ 2 ^ (f.fractionBits + s + 1) := Nat.pow_le_pow_right (by decide) (by omega)
          _ = 2 * f.binadeSize * 2 ^ s := by rw [binadeSize, Nat.pow_eq]; ring
      have hquotient' : f.binadeSize ≤ num' / (den * Nat.pow 2 s') := by
        rw [← Nat.div_div_eq_div_mul, Nat.pow_eq, Nat.le_div_iff_mul_le (Nat.two_pow_pos s')]
        have hpos : num' / den ≠ 0 := by
          intro hzero
          rw [hzero, Nat.log2_zero] at hs'
          omega
        calc f.binadeSize * 2 ^ s' = 2 ^ (num' / den).log2 := by
              rw [binadeSize, Nat.pow_eq, ← Nat.pow_add]
              congr 1
              omega
          _ ≤ num' / den := Nat.log2_self_le hpos
      have hround := roundQuotient_le num (den * Nat.pow 2 s)
      have hround' := div_le_roundQuotient num' (den * Nat.pow 2 s')
      have hspacing : (s + 1) * f.binadeSize ≤ s' * f.binadeSize := Nat.mul_le_mul_right _ hlt
      rw [Nat.add_mul] at hspacing
      omega
  simp only [codeOfQuotient, hs, hs']
  exact Nat.le_min.mpr ⟨Nat.le_trans (Nat.min_le_left _ _) hcode, Nat.min_le_right _ _⟩

end FloatFormat

/-! ### Integers -/

namespace Floating

variable {f : FloatFormat}

/-- Units of the number nearest to an integer. -/
theorem units_ofInt_eq (n : Int) :
    (ofInt n : Floating f).units =
      if n < 0 then -(f.magnitude (f.codeOfQuotient (n.natAbs * f.one) 1) : Int)
      else f.magnitude (f.codeOfQuotient (n.natAbs * f.one) 1) := by
  by_cases hn : n < 0 <;> simp [units, ofInt, ofQuotient, hn]

/-- The number nearest to an integer grows with the integer. -/
theorem units_ofInt_le {m n : Int} (h : m ≤ n) :
    (ofInt m : Floating f).units ≤ (ofInt n : Floating f).units := by
  have hmono : ∀ {a b : Nat}, a ≤ b →
      f.magnitude (f.codeOfQuotient (a * f.one) 1) ≤
        f.magnitude (f.codeOfQuotient (b * f.one) 1) := fun hab =>
    f.magnitude_strictMono.monotone
      (f.codeOfQuotient_le_codeOfQuotient (Nat.mul_le_mul_right _ hab) 1)
  rw [units_ofInt_eq, units_ofInt_eq]
  -- below zero the magnitudes are in the opposite order
  split <;> split
  · have hle := hmono (show n.natAbs ≤ m.natAbs by omega)
    omega
  · omega
  · omega
  · have hle := hmono (show m.natAbs ≤ n.natAbs by omega)
    omega

/-- An integer of few bits, times a power of two, is a number of the format itself. -/
theorem units_ofInt {n : Int} {m shift : Nat} (hn : n.natAbs = m * 2 ^ shift)
    (hm : m < 2 * f.binadeSize) (hshift : shift + f.unitExponent + 2 < 2 ^ f.exponentBits) :
    (ofInt n : Floating f).units = n * f.one := by
  obtain ⟨code, hcode, hmagnitude⟩ := f.exists_magnitude_eq hm hshift
  have hsame : n.natAbs * f.one = f.magnitude code := by
    rw [hn, hmagnitude, Nat.mul_assoc, Nat.pow_add]
    rfl
  have hround : f.codeOfQuotient (n.natAbs * f.one) 1 = code := by
    rw [hsame, ← Nat.mul_one (f.magnitude code)]
    exact f.codeOfQuotient_magnitude hcode Nat.one_pos
  rw [units_ofInt_eq, hround, ← hsame, Int.natCast_mul]
  split
  next hneg => rw [Int.ofNat_natAbs_of_nonpos (Int.le_of_lt hneg), Int.neg_mul, Int.neg_neg]
  next hneg => rw [Int.natAbs_of_nonneg (Int.not_lt.mp hneg)]

/-- Integers up to two to the power of 53 are numbers of 64 bits. -/
theorem units_ofInt_of_natAbs_le {n : Int} (h : n.natAbs ≤ 2 ^ 53) :
    (ofInt n : Double).units = n * FloatFormat.double.one := by
  rcases Nat.eq_or_lt_of_le h with heq | hlt
  · exact units_ofInt (heq.trans (Nat.one_mul _).symm) (by decide) (by decide)
  · exact units_ofInt (Nat.mul_one _).symm hlt (by decide : 0 + _ + 2 < _)

end Floating

end RowFilter
