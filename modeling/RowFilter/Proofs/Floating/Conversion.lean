import Mathlib.Tactic.Ring
import Mathlib.Tactic.SplitIfs
import RowFilter.Floating.Finite

/-!
# Conversions that lose nothing

Rounding gives a code back from the magnitude that it names (`codeOfQuotient_magnitude`), and it
depends on the quotient only, not on how the quotient is written (`codeOfQuotient_eq_of_ratio`).
A finite number of a format is therefore unchanged by a conversion to the same format.

A magnitude with few significant bits is named by a code of every format whose range it is in
(`exists_magnitude_eq`). Numbers of 16 bits fit the format of 32 bits in this sense, so their
conversion to 64 bits is the same whether it goes by way of 32 bits or not.
-/

namespace RowFilter

/-! ### Rounding a quotient -/

/-- A whole quotient is not rounded. -/
theorem roundQuotient_mul_right (q : Nat) {d : Nat} (hd : 0 < d) : roundQuotient (q * d) d = q := by
  have hr : q * d % d = 0 := Nat.mul_mod_left q d
  have hq : q * d / d = q := Nat.mul_div_cancel q hd
  have hbelow : 2 * 0 < d ∨ 2 * 0 = d ∧ q % 2 = 0 := Or.inl (by omega)
  simp only [roundQuotient, hr, hq, if_pos hbelow]

/-- Rounding does not change when both sides of a quotient are multiplied alike. -/
theorem roundQuotient_mul_mul {k : Nat} (hk : 0 < k) (num den : Nat) :
    roundQuotient (num * k) (den * k) = roundQuotient num den := by
  have hq : num * k / (den * k) = num / den := Nat.mul_div_mul_right num den hk
  have hr : num * k % (den * k) = num % den * k := Nat.mul_mod_mul_right k num den
  -- the remainder is multiplied too, so it compares with half of the divisor as before
  have hlt : 2 * (num % den * k) < den * k ↔ 2 * (num % den) < den := by
    rw [← Nat.mul_assoc, Nat.mul_lt_mul_right hk]
  have heq : 2 * (num % den * k) = den * k ↔ 2 * (num % den) = den := by
    rw [← Nat.mul_assoc, Nat.mul_left_inj (Nat.pos_iff_ne_zero.mp hk)]
  simp only [roundQuotient, hq, hr, hlt, heq]

namespace FloatFormat

variable (f : FloatFormat)

theorem one_pos : 0 < f.one := Nat.two_pow_pos _

/-- The code of a quotient does not change when both sides are multiplied alike. -/
theorem codeOfQuotient_mul_mul {k : Nat} (hk : 0 < k) (num den : Nat) :
    f.codeOfQuotient (num * k) (den * k) = f.codeOfQuotient num den := by
  have hq : num * k / (den * k) = num / den := Nat.mul_div_mul_right num den hk
  simp only [codeOfQuotient, hq]
  rw [Nat.mul_right_comm den k, roundQuotient_mul_mul hk]

/-- The code of a quotient depends on its ratio only. -/
theorem codeOfQuotient_eq_of_ratio {num den num' den' : Nat} (hden : 0 < den) (hden' : 0 < den')
    (h : num * den' = num' * den) : f.codeOfQuotient num den = f.codeOfQuotient num' den' := by
  calc f.codeOfQuotient num den
      = f.codeOfQuotient (num * den') (den * den') := (f.codeOfQuotient_mul_mul hden' ..).symm
    _ = f.codeOfQuotient (num' * den) (den' * den) := by rw [h, Nat.mul_comm den]
    _ = f.codeOfQuotient num' den' := f.codeOfQuotient_mul_mul hden ..

/-! ### Magnitudes -/

/-- A magnitude of at least one binade has its exponent and its significand in its code. -/
theorem magnitude_add {m : Nat} (shift : Nat) (hlow : f.binadeSize ≤ m)
    (hhigh : m < 2 * f.binadeSize) : f.magnitude (shift * f.binadeSize + m) = m * 2 ^ shift := by
  have hpos : 0 < f.binadeSize := f.binadeSize_pos
  obtain ⟨r, rfl⟩ := Nat.exists_eq_add_of_le hlow
  have hr : r < f.binadeSize := by omega
  have hcode : shift * f.binadeSize + (f.binadeSize + r) = r + f.binadeSize * (shift + 1) := by ring
  have hexponent : (r + f.binadeSize * (shift + 1)) / f.binadeSize = shift + 1 := by
    rw [Nat.add_mul_div_left r _ hpos, Nat.div_eq_of_lt hr, Nat.zero_add]
  have hfraction : (r + f.binadeSize * (shift + 1)) % f.binadeSize = r := by
    rw [Nat.add_mul_mod_self_left, Nat.mod_eq_of_lt hr]
  simp [magnitude, hcode, hexponent, hfraction]

/-- Codes below one binade name themselves. -/
theorem magnitude_of_lt {m : Nat} (h : m < f.binadeSize) : f.magnitude m = m := by
  simp [magnitude, Nat.div_eq_of_lt h]

/-- A code is a number below one binade, or an exponent and a significand of one binade. -/
theorem code_cases (code : Nat) :
    code < f.binadeSize ∨
      ∃ shift m, f.binadeSize ≤ m ∧ m < 2 * f.binadeSize ∧ code = shift * f.binadeSize + m := by
  have hpos : 0 < f.binadeSize := f.binadeSize_pos
  by_cases hlt : code < f.binadeSize
  · exact Or.inl hlt
  · refine Or.inr ⟨code / f.binadeSize - 1, f.binadeSize + code % f.binadeSize, by omega, ?_, ?_⟩
    · have hmod := Nat.mod_lt code hpos
      omega
    · have hexponent : 1 ≤ code / f.binadeSize := Nat.div_pos (by omega) hpos
      have hsplit := Nat.div_add_mod' code f.binadeSize
      obtain ⟨e, he⟩ := Nat.exists_eq_add_of_le' hexponent
      rw [he, Nat.add_mul, Nat.one_mul] at hsplit
      rw [he, Nat.add_sub_cancel]
      omega

/-- A significand of one binade has its highest bit where the fraction ends. -/
theorem log2_mul_two_pow {m : Nat} (shift : Nat) (hlow : f.binadeSize ≤ m)
    (hhigh : m < 2 * f.binadeSize) : (m * 2 ^ shift).log2 = f.fractionBits + shift := by
  have hm : m * 2 ^ shift ≠ 0 :=
    Nat.mul_ne_zero (by have := f.binadeSize_pos; omega) (Nat.two_pow_pos shift).ne'
  rw [Nat.log2_eq_iff hm]
  rw [binadeSize, Nat.pow_eq] at hlow hhigh
  constructor
  · rw [Nat.pow_add]
    exact Nat.mul_le_mul_right _ hlow
  · have hnext : 2 ^ (f.fractionBits + shift + 1) = 2 * 2 ^ f.fractionBits * 2 ^ shift := by ring
    rw [hnext]
    exact Nat.mul_lt_mul_of_pos_right hhigh (Nat.two_pow_pos shift)

/-- Rounding a magnitude gives its code, however the magnitude is written as a quotient. -/
theorem codeOfQuotient_magnitude {code k : Nat} (hcode : code < f.infinityCode) (hk : 0 < k) :
    f.codeOfQuotient (f.magnitude code * k) k = code := by
  rw [codeOfQuotient, Nat.mul_div_cancel _ hk]
  rcases f.code_cases code with hlt | ⟨shift, m, hlow, hhigh, rfl⟩
  -- below one binade the highest bit is within the fraction, so nothing is shifted out
  · rw [f.magnitude_of_lt hlt]
    have hlog : code.log2 ≤ f.fractionBits := by
      by_cases hzero : code = 0
      · subst hzero
        exact Nat.zero_le _
      · rw [binadeSize, Nat.pow_eq] at hlt
        exact Nat.le_of_lt ((Nat.log2_lt hzero).mpr hlt)
    have hround : roundQuotient (code * k) (k * Nat.pow 2 0) = code := by
      rw [Nat.pow_eq, Nat.pow_zero, Nat.mul_one, roundQuotient_mul_right code hk]
    simp only [Nat.sub_eq_zero_of_le hlog, hround, Nat.zero_mul, Nat.zero_add]
    exact Nat.min_eq_left (Nat.le_of_lt hcode)
  -- from there on the shift is the exponent again, and what is left is the significand
  · rw [f.magnitude_add shift hlow hhigh]
    have hround : roundQuotient (m * 2 ^ shift * k) (k * Nat.pow 2 shift) = m := by
      rw [Nat.pow_eq, Nat.mul_assoc, Nat.mul_comm (2 ^ shift)]
      exact roundQuotient_mul_right m (Nat.mul_pos hk (Nat.two_pow_pos shift))
    simp only [f.log2_mul_two_pow shift hlow hhigh, Nat.add_sub_cancel_left, hround]
    exact Nat.min_eq_left (Nat.le_of_lt hcode)

/-- Few significant bits are enough for a code to name a magnitude: any number below two binades
times any power of two, as long as the code stays below infinity. -/
theorem exists_magnitude_eq {m shift : Nat} (hm : m < 2 * f.binadeSize)
    (hshift : shift + 2 < 2 ^ f.exponentBits) :
    ∃ code, code < f.infinityCode ∧ f.magnitude code = m * 2 ^ shift := by
  -- shift the number up into one binade, as far as there are powers of two for it
  induction shift generalizing m with
  | zero =>
    refine ⟨m, ?_, ?_⟩
    · have hcount : 2 * f.binadeSize ≤ (Nat.pow 2 f.exponentBits - 1) * f.binadeSize := by
        refine Nat.mul_le_mul_right _ ?_
        rw [Nat.pow_eq]
        omega
      exact Nat.lt_of_lt_of_le hm hcount
    · rw [Nat.pow_zero, Nat.mul_one]
      by_cases hlow : f.binadeSize ≤ m
      · have hmagnitude := f.magnitude_add 0 hlow hm
        rwa [Nat.zero_mul, Nat.zero_add, Nat.pow_zero, Nat.mul_one] at hmagnitude
      · exact f.magnitude_of_lt (by omega)
  | succ shift ih =>
    by_cases hlow : f.binadeSize ≤ m
    · refine ⟨(shift + 1) * f.binadeSize + m, ?_, f.magnitude_add (shift + 1) hlow hm⟩
      have hcount : (shift + 3) * f.binadeSize ≤
          (Nat.pow 2 f.exponentBits - 1) * f.binadeSize := by
        refine Nat.mul_le_mul_right _ ?_
        rw [Nat.pow_eq]
        omega
      have hsplit : (shift + 3) * f.binadeSize =
          (shift + 1) * f.binadeSize + 2 * f.binadeSize := by ring
      rw [infinityCode]
      omega
    · -- twice the number still fits, and takes one power of two less
      obtain ⟨code, hcode, hmagnitude⟩ := ih (m := 2 * m) (by omega) (by omega)
      refine ⟨code, hcode, ?_⟩
      rw [hmagnitude]
      ring

end FloatFormat

namespace Floating

variable {f g : FloatFormat}

/-! ### Conversion -/

/-- A number is the same as another if sign and code are. -/
theorem ext_of_code {x y : Floating f} (hnegative : x.negative = y.negative)
    (hcode : x.code = y.code) : x = y := by
  obtain ⟨_, _, _⟩ := x
  obtain ⟨_, _, _⟩ := y
  cases hnegative
  cases hcode
  rfl

/-- A finite number is rounded to the other format. -/
theorem convert_of_isFinite {x : Floating f} (h : x.isFinite = true) :
    (x.convert : Floating g) = ofQuotient x.negative (f.magnitude x.code * g.one) f.one := by
  have hnan : x.isNaN = false := by
    rw [isFinite, decide_eq_true_eq] at h
    rw [isNaN, decide_eq_false_iff_not]
    omega
  simp [convert, hnan, h]

/-- A finite number is unchanged in its own format. -/
theorem convert_self {x : Floating f} (h : x.isFinite = true) : (x.convert : Floating f) = x := by
  rw [convert_of_isFinite h]
  refine ext_of_code rfl (f.codeOfQuotient_magnitude ?_ f.one_pos)
  rwa [isFinite, decide_eq_true_eq] at h

/-- Only a finite number is converted to a finite one. -/
theorem isFinite_of_convert {x : Floating f} (hnan : (nan : Floating g).isFinite = false)
    (h : (x.convert : Floating g).isFinite = true) : x.isFinite = true := by
  unfold convert at h
  -- what is no number stays none, and an infinity stays infinite
  split_ifs at h with _ hfinite
  · rw [hnan] at h
    cases h
  · exact hfinite
  · rw [isFinite, infinity, decide_eq_true_eq] at h
    exact absurd h (Nat.lt_irrefl _)

/-- A code of the other format names the magnitude of a number, without rounding. -/
def NamedBy (g : FloatFormat) (x : Floating f) (code : Nat) : Prop :=
  code < g.infinityCode ∧ g.magnitude code * f.one = f.magnitude x.code * g.one

/-- A number whose magnitude has a code of the other format is converted to that code. -/
theorem NamedBy.convert_eq {x : Floating f} {code : Nat} (hx : x.isFinite = true)
    (h : NamedBy g x code) :
    (x.convert : Floating g).negative = x.negative ∧ (x.convert : Floating g).code = code := by
  rw [convert_of_isFinite hx]
  refine ⟨rfl, ?_⟩
  change g.codeOfQuotient (f.magnitude x.code * g.one) f.one = code
  rw [← h.2]
  exact g.codeOfQuotient_magnitude h.1 f.one_pos

/-- A conversion without rounding leaves no trace in a later one. -/
theorem NamedBy.convert_convert {x : Floating f} {code : Nat} {i : FloatFormat}
    (hx : x.isFinite = true) (h : NamedBy g x code) :
    ((x.convert : Floating g).convert : Floating i) = x.convert := by
  obtain ⟨hnegative, hcode⟩ := h.convert_eq hx
  have hfinite : (x.convert : Floating g).isFinite = true := by
    rw [isFinite, decide_eq_true_eq, hcode]
    exact h.1
  rw [convert_of_isFinite hfinite, hnegative, hcode, convert_of_isFinite hx]
  refine ext_of_code rfl (i.codeOfQuotient_eq_of_ratio g.one_pos f.one_pos ?_)
  calc g.magnitude code * i.one * f.one
      = g.magnitude code * f.one * i.one := Nat.mul_right_comm ..
    _ = f.magnitude x.code * g.one * i.one := by rw [h.2]
    _ = f.magnitude x.code * i.one * g.one := Nat.mul_right_comm ..

/-- Every finite number of 16 bits is a number of 32 bits. -/
theorem exists_namedBy_single {x : Floating .half} (hx : x.isFinite = true) :
    ∃ code, NamedBy .single x code := by
  rw [isFinite, decide_eq_true_eq] at hx
  -- the unit of 16 bits is 125 powers of two above that of 32 bits
  have hunit : FloatFormat.single.one = 2 ^ 125 * FloatFormat.half.one :=
    (Nat.pow_add 2 125 24 :)
  have hmagnitude : ∃ m shift, m < 2 * FloatFormat.half.binadeSize ∧ shift ≤ 29 ∧
      FloatFormat.half.magnitude x.code = m * 2 ^ shift := by
    rcases FloatFormat.half.code_cases x.code with hlt | ⟨shift, m, hlow, hhigh, hcode⟩
    · refine ⟨x.code, 0, by omega, by omega, ?_⟩
      rw [FloatFormat.magnitude_of_lt _ hlt, Nat.pow_zero, Nat.mul_one]
    · refine ⟨m, shift, hhigh, ?_, ?_⟩
      · -- the code is below infinity, so its exponent is at most thirty
        have hbinade : FloatFormat.half.binadeSize = 1024 := rfl
        have hinfinity : FloatFormat.half.infinityCode = 31744 := rfl
        rw [hcode, hinfinity, hbinade] at hx
        rw [hbinade] at hlow
        omega
      · rw [hcode]
        exact FloatFormat.half.magnitude_add shift hlow hhigh
  obtain ⟨m, shift, hm, hshift, hmagnitude⟩ := hmagnitude
  have hbinade : FloatFormat.half.binadeSize ≤ FloatFormat.single.binadeSize := by decide
  have hexponents : (2 : Nat) ^ FloatFormat.single.exponentBits = 256 := rfl
  have hfraction : m < 2 * FloatFormat.single.binadeSize := by omega
  have hrange : shift + 125 + 2 < 2 ^ FloatFormat.single.exponentBits := by omega
  obtain ⟨code, hcode, hnamed⟩ := FloatFormat.single.exists_magnitude_eq hfraction hrange
  refine ⟨code, hcode, ?_⟩
  rw [hnamed, hmagnitude, hunit, Nat.pow_add]
  ring

/-! ### Bit patterns -/

/-- A number is read back from its bit pattern. -/
@[simp]
theorem ofBits_toBits (x : Floating f) : ofBits x.toBits = x := by
  have hcode : x.code < 2 ^ f.codeBits := x.code_lt
  have hcount : f.codeCount = 2 ^ f.codeBits := rfl
  refine ext_of_code ?_ ?_
  -- the sign is the bit above those of the code
  · change x.toBits.testBit f.codeBits = x.negative
    cases hnegative : x.negative with
    | false =>
      rw [toBits, hnegative, if_neg Bool.false_ne_true, Nat.zero_add]
      exact Nat.testBit_lt_two_pow hcode
    | true =>
      rw [toBits, hnegative, if_pos rfl, hcount, Nat.testBit_two_pow_add_eq,
        Nat.testBit_lt_two_pow hcode]
      rfl
  · change x.toBits % f.codeCount = x.code
    rw [toBits]
    split
    · rw [Nat.add_mod_left, Nat.mod_eq_of_lt x.code_lt]
    · rw [Nat.zero_add, Nat.mod_eq_of_lt x.code_lt]

end Floating

end RowFilter
