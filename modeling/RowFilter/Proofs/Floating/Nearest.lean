import Mathlib.Data.Rat.Floor
import RowFilter.Proofs.Floating.Shortest

/-!
# The nearest integer

Rounding a quotient gives the integer nearest to it as a rational number, and the even one of two
that are equally near (`nearestEven_roundQuotient`). There is one such integer only
(`NearestEven.unique`), so a number of a format is rounded to the integer nearest to the rational
number that it stands for, and to no other (`Floating.nearestEven_roundToInt`).
-/

namespace RowFilter

/-- The integer is nearest to the number, and it is the even one if another is as near. -/
structure NearestEven (x : ℚ) (n : ℤ) : Prop where
  /-- No integer is nearer. -/
  nearest : ∀ k : ℤ, |x - n| ≤ |x - k|
  /-- Of two that are equally near it is the even one. -/
  even_of_tie : ∀ k : ℤ, k ≠ n → |x - k| = |x - n| → Even n

namespace NearestEven

variable {x : ℚ} {m n : ℤ}

/-- Two integers are no further apart than the number is from both. -/
theorem abs_sub_le_add (m n : ℤ) (x : ℚ) : ((|m - n| : ℤ) : ℚ) ≤ |x - m| + |x - n| := by
  push_cast
  calc |(m : ℚ) - n| ≤ |m - x| + |x - n| := abs_sub_le _ _ _
    _ = |x - m| + |x - n| := by rw [abs_sub_comm (m : ℚ)]

/-- An integer within a half is nearest, if it is even at a half exactly. -/
theorem of_abs_le (h : |x - n| ≤ 1 / 2) (htie : |x - n| = 1 / 2 → Even n) : NearestEven x n := by
  have hother : ∀ k : ℤ, k ≠ n → 1 ≤ |x - k| + |x - n| := by
    intro k hk
    have hapart : (1 : ℚ) ≤ (|k - n| : ℤ) := by
      exact_mod_cast Int.one_le_abs (sub_ne_zero.mpr hk)
    exact hapart.trans (abs_sub_le_add k n x)
  constructor
  · intro k
    by_cases hk : k = n
    · rw [hk]
    · have hsum := hother k hk
      linarith
  · intro k hk heq
    have hsum := hother k hk
    exact htie (le_antisymm h (by linarith))

/-- An integer is nearest if the distance is a fraction of at most a half. -/
theorem of_abs_eq {k den : Nat} (hden : 0 < den) (hdistance : |x - n| = k / den)
    (hle : 2 * k ≤ den) (htie : 2 * k = den → Even n) : NearestEven x n := by
  have hden' : (0 : ℚ) < den := by exact_mod_cast hden
  refine of_abs_le ?_ ?_ <;> rw [hdistance]
  · rw [div_le_div_iff₀ hden' two_pos]
    exact_mod_cast (show k * 2 ≤ 1 * den by omega)
  · intro heq
    rw [div_eq_div_iff hden'.ne' two_ne_zero] at heq
    have heq' : k * 2 = 1 * den := by exact_mod_cast heq
    exact htie (by omega)

/-- The nearest integer is within a half. -/
theorem abs_le (h : NearestEven x n) : |x - n| ≤ 1 / 2 :=
  (h.nearest (round x)).trans (abs_sub_round x)

/-- There is one such integer only. -/
theorem unique (hm : NearestEven x m) (hn : NearestEven x n) : m = n := by
  by_contra hne
  have heq : |x - m| = |x - n| := le_antisymm (hm.nearest n) (hn.nearest m)
  have hm' := hm.even_of_tie n (Ne.symm hne) heq.symm
  have hn' := hn.even_of_tie m hne heq
  -- two even integers are too far apart for both to be within a half
  have hapart : 2 ≤ |m - n| := by
    obtain ⟨i, rfl⟩ := hm'
    obtain ⟨j, rfl⟩ := hn'
    rw [le_abs]
    omega
  have hapart' : (2 : ℚ) ≤ (|m - n| : ℤ) := by exact_mod_cast hapart
  have hsum := abs_sub_le_add m n x
  have hle := hm.abs_le
  have hle' := hn.abs_le
  linarith

/-- The nearest integer changes its sign with the number. -/
theorem neg (h : NearestEven x n) : NearestEven (-x) (-n) := by
  have hflip : ∀ k : ℤ, |-x - k| = |x - (-k : ℤ)| := by
    intro k
    rw [← abs_neg]
    congr 1
    push_cast
    ring
  constructor
  · intro k
    rw [hflip, hflip, neg_neg]
    exact h.nearest _
  · intro k hk heq
    rw [hflip, hflip, neg_neg] at heq
    exact (h.even_of_tie _ (by omega) heq).neg

/-- A whole number is nearest to itself. -/
theorem intCast (n : ℤ) : NearestEven (n : ℚ) n :=
  of_abs_le (by norm_num) (by norm_num)

end NearestEven

/-- Rounding a quotient gives the integer nearest to it. -/
theorem nearestEven_roundQuotient (num : Nat) {den : Nat} (hden : 0 < den) :
    NearestEven (num / den : ℚ) (roundQuotient num den) := by
  have hden' : (0 : ℚ) < den := by exact_mod_cast hden
  obtain ⟨q, hq⟩ : ∃ q, num / den = q := ⟨_, rfl⟩
  obtain ⟨r, hr⟩ : ∃ r, num % den = r := ⟨_, rfl⟩
  have hlt : r < den := hr ▸ Nat.mod_lt num hden
  have hsplit : (num / den : ℚ) = q + r / den := by
    rw [← Nat.div_add_mod num den, hq, hr]
    push_cast
    field_simp
  simp only [roundQuotient, hq, hr]
  split
  next h =>
    -- the remainder is what the integer is short of the quotient
    refine .of_abs_eq hden (k := r) ?_ (by omega) ?_
    · rw [hsplit, Int.cast_natCast, add_sub_cancel_left]
      exact abs_of_nonneg (by positivity)
    · intro htie
      have heven : q % 2 = 0 := by omega
      exact_mod_cast Nat.even_iff.mpr heven
  next h =>
    -- what the remainder is short of the divisor is what the integer is beyond the quotient
    refine .of_abs_eq hden (k := den - r) ?_ (by omega) ?_
    · have hneg : (num / den : ℚ) - (q + 1 : ℕ) = -((den - r : ℕ) / den) := by
        rw [hsplit, Nat.cast_sub hlt.le]
        push_cast
        field_simp
        ring
      rw [Int.cast_natCast, hneg, abs_neg]
      exact abs_of_nonneg (by positivity)
    · intro htie
      have heven : (q + 1) % 2 = 0 := by omega
      exact_mod_cast Nat.even_iff.mpr heven

namespace Floating

variable {f : FloatFormat}

/-! ### Numbers of a format as rational numbers -/

/-- The rational number that a finite number stands for. -/
def value (x : Floating f) : ℚ := x.units / f.one

theorem one_ne_zero (f : FloatFormat) : (f.one : ℤ) ≠ 0 :=
  Int.natCast_ne_zero.mpr f.one_pos.ne'

/-- A number of so many times the units of one is an integer. -/
theorem value_of_units {x : Floating f} {n : ℤ} (h : x.units = n * f.one) : x.value = n := by
  have hone : (f.one : ℚ) ≠ 0 := by exact_mod_cast one_ne_zero f
  rw [value, h]
  push_cast
  exact mul_div_cancel_right₀ _ hone

/-- The integer that a number is rounded to is the nearest one. -/
theorem nearestEven_roundToInt (x : Floating f) : NearestEven x.value x.roundToInt := by
  have hmagnitude := nearestEven_roundQuotient (f.magnitude x.code) f.one_pos
  unfold value units roundToInt
  cases x.negative with
  | false => simpa using hmagnitude
  | true => simpa [neg_div] using hmagnitude.neg

end Floating

end RowFilter
