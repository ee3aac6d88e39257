import RowFilter.Proofs.Floating.Conversion
import RowFilter.Value.Coercion

/-!
# Conversions that stay finite

Rounding a quotient saturates at infinity, but only a quotient beyond the largest magnitude of the
format gets there (`codeOfQuotient_lt_infinityCode`). Integers of 64 bits and numbers of 32 bits are
far below, so every number that a value carries can be read as a finite number of 64 bits.
-/

namespace RowFilter

/-- Rounding goes up by one at most. -/
theorem roundQuotient_le (num den : Nat) : roundQuotient num den ≤ num / den + 1 := by
  unfold roundQuotient
  dsimp only
  split <;> omega

namespace FloatFormat

variable (f : FloatFormat)

/-- A quotient that is some powers of two below infinity is rounded to a finite number. -/
theorem codeOfQuotient_lt_infinityCode {num den shift : Nat}
    (h : num / den < 2 ^ (f.fractionBits + shift + 1)) (hshift : shift + 3 < 2 ^ f.exponentBits) :
    f.codeOfQuotient num den < f.infinityCode := by
  -- the quotient is shifted down until it fits one binade, and rounding may carry it into the next
  obtain ⟨s, hs⟩ : ∃ s, (num / den).log2 - f.fractionBits = s := ⟨_, rfl⟩
  have hle : s ≤ shift := by
    by_cases hzero : num / den = 0
    · rw [hzero, Nat.log2_zero] at hs
      omega
    · have hlog := (Nat.log2_lt hzero).mpr h
      omega
  have hquotient : num / den < 2 ^ (f.fractionBits + s + 1) := by
    refine Nat.lt_of_lt_of_le Nat.lt_log2_self (Nat.pow_le_pow_right (by decide) ?_)
    omega
  have hfraction : num / (den * Nat.pow 2 s) < 2 * f.binadeSize := by
    rw [← Nat.div_div_eq_div_mul, Nat.pow_eq, Nat.div_lt_iff_lt_mul (Nat.two_pow_pos s)]
    calc num / den < 2 ^ (f.fractionBits + s + 1) := hquotient
      _ = 2 * f.binadeSize * 2 ^ s := by rw [binadeSize, Nat.pow_eq]; ring
  have hround := roundQuotient_le num (den * Nat.pow 2 s)
  have hcount : (s + 3) * f.binadeSize ≤ f.infinityCode := by
    refine Nat.mul_le_mul_right _ ?_
    rw [Nat.pow_eq]
    omega
  have hsplit : (s + 3) * f.binadeSize = s * f.binadeSize + 2 * f.binadeSize + f.binadeSize := by
    ring
  have hpos := f.binadeSize_pos
  refine Nat.lt_of_le_of_lt (Nat.min_le_left _ _) ?_
  rw [hs]
  omega

/-- A finite magnitude is below the power of two at which the codes end. -/
theorem magnitude_lt {code : Nat} (h : code < f.infinityCode) :
    f.magnitude code < 2 ^ (f.fractionBits + 2 ^ f.exponentBits) := by
  rcases f.code_cases code with hlt | ⟨shift, m, hlow, hhigh, rfl⟩
  · rw [f.magnitude_of_lt hlt]
    exact Nat.lt_of_lt_of_le hlt (Nat.pow_le_pow_right (by decide) (Nat.le_add_right _ _))
  · rw [f.magnitude_add shift hlow hhigh]
    -- the exponent of a code below infinity is below the last one
    have hshift : shift + 1 ≤ 2 ^ f.exponentBits := by
      have hlast : shift * f.binadeSize < 2 ^ f.exponentBits * f.binadeSize := by
        refine Nat.lt_of_le_of_lt (Nat.le_add_right _ m) (Nat.lt_of_lt_of_le h ?_)
        exact Nat.mul_le_mul_right _ (Nat.sub_le _ _)
      exact Nat.lt_of_mul_lt_mul_right hlast
    calc m * 2 ^ shift < 2 * f.binadeSize * 2 ^ shift :=
          Nat.mul_lt_mul_of_pos_right hhigh (Nat.two_pow_pos shift)
      _ = 2 ^ (f.fractionBits + (shift + 1)) := by rw [binadeSize, Nat.pow_eq]; ring
      _ ≤ 2 ^ (f.fractionBits + 2 ^ f.exponentBits) :=
          Nat.pow_le_pow_right (by decide) (Nat.add_le_add_left hshift _)

end FloatFormat

namespace Finite

/-- A finite number is kept. -/
theorem exists_ofFloating? {f : FloatFormat} {x : Floating f} (h : x.code < f.infinityCode) :
    ∃ y, ofFloating? x = some y :=
  ⟨_, dif_pos h⟩

/-- An integer is finite in a format if it is within the largest exponent. -/
theorem exists_ofInt {f : FloatFormat} {n : Int} (width shift : Nat) (h : n.natAbs < 2 ^ width)
    (hwidth : width + f.unitExponent = f.fractionBits + shift + 1)
    (hshift : shift + 3 < 2 ^ f.exponentBits) :
    ∃ x : Finite f, ofFloating? (.ofInt n) = some x := by
  refine exists_ofFloating? (f.codeOfQuotient_lt_infinityCode ?_ hshift)
  rw [Nat.div_one, FloatFormat.one, Nat.pow_eq, ← hwidth, Nat.pow_add]
  exact Nat.mul_lt_mul_of_pos_right h (Nat.two_pow_pos _)

/-- A finite number is finite in a format with more powers of two than its own. -/
theorem exists_convert {f g : FloatFormat} (x : Finite f) (k shift : Nat)
    (hunit : g.unitExponent = k + f.unitExponent)
    (hwidth : f.fractionBits + 2 ^ f.exponentBits + k = g.fractionBits + shift + 1)
    (hshift : shift + 3 < 2 ^ g.exponentBits) :
    ∃ y : Finite g, ofFloating? x.toFloating.convert = some y := by
  have hone : g.one = 2 ^ k * f.one := by
    rw [FloatFormat.one, FloatFormat.one, hunit]
    exact Nat.pow_add 2 k _
  rw [Floating.convert_of_isFinite x.isFinite_toFloating]
  refine exists_ofFloating? (g.codeOfQuotient_lt_infinityCode ?_ hshift)
  rw [hone, ← Nat.mul_assoc, Nat.mul_div_cancel _ f.one_pos, ← hwidth, Nat.pow_add]
  exact Nat.mul_lt_mul_of_pos_right (f.magnitude_lt x.code_lt_infinity) (Nat.two_pow_pos k)

end Finite

/-- Null and every number can be read as a number of 64 bits. -/
theorem Value.exists_toDouble? {v : Value} (h : v.kind = .null ∨ v.kind.isNumeric = true) :
    ∃ x, v.toDouble? = some x := by
  cases v with
  | null => exact ⟨_, rfl⟩
  | int n =>
    have hlow := n.le_toInt
    have hhigh := n.toInt_lt
    exact Finite.exists_ofInt 64 1085 (by omega) (by decide) (by decide)
  | uint n =>
    have hhigh := n.toNat_lt
    exact Finite.exists_ofInt 64 1085 (by omega) (by decide) (by decide)
  | float32 x => exact x.exists_convert 925 1151 (by decide) (by decide) (by decide)
  | float64 x => exact ⟨x, rfl⟩
  | bool _ => simp [kind, Kind.isNumeric] at h
  | text _ => simp [kind, Kind.isNumeric] at h
  | date _ => simp [kind, Kind.isNumeric] at h
  | list _ => simp [kind, Kind.isNumeric] at h

end RowFilter
