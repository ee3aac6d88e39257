import Mathlib.Algebra.Order.Field.Rat
import Mathlib.Tactic.FieldSimp
import Mathlib.Tactic.GCongr
import Mathlib.Tactic.Linarith
import Mathlib.Tactic.NormNum
import RowFilter.Floating.Decimal
import RowFilter.Proofs.Floating.Conversion

/-!
# The shortest decimal of a number

The search for the shortest decimal ends in the rounding interval of the number
(`mem_shortest_ofCode`), and the rounding intervals of two numbers have nothing in common
(`code_eq_of_mem`). So no two numbers share their shortest decimal.

The search cannot run out of digits: a grid is fine enough once its step is below the width of the
interval, and the width is at least the number divided by the size of a binade.
-/

namespace RowFilter

/-! ### Neighbours of a magnitude -/

namespace FloatFormat

variable (f : FloatFormat)

/-- The spacing of a binade is read off the codes in it. -/
theorem exponent_add {m : Nat} (shift : Nat) (hlow : f.binadeSize ≤ m)
    (hhigh : m < 2 * f.binadeSize) : (shift * f.binadeSize + m) / f.binadeSize - 1 = shift := by
  have hone : m / f.binadeSize = 1 := Nat.div_eq_of_lt_le (by omega) (by omega)
  rw [Nat.mul_comm, Nat.mul_add_div f.binadeSize_pos, hone, Nat.add_sub_cancel]

/-- From one magnitude to the next it is the spacing of the binade. -/
theorem magnitude_succ (code : Nat) :
    f.magnitude (code + 1) = f.magnitude code + 2 ^ (code / f.binadeSize - 1) := by
  rcases f.code_cases code with hlt | ⟨shift, m, hlow, hhigh, rfl⟩
  · have hexponent : code / f.binadeSize = 0 := Nat.div_eq_of_lt hlt
    rw [hexponent, f.magnitude_of_lt hlt]
    by_cases hnext : code + 1 < f.binadeSize
    · exact f.magnitude_of_lt hnext
    · -- the code after the last below a binade is the first of a binade
      have hfirst : code + 1 = 0 * f.binadeSize + f.binadeSize := by omega
      rw [hfirst, f.magnitude_add 0 (Nat.le_refl _) (by omega)]
      omega
  · rw [f.exponent_add shift hlow hhigh, f.magnitude_add shift hlow hhigh]
    by_cases hnext : m + 1 < 2 * f.binadeSize
    · rw [Nat.add_assoc, f.magnitude_add shift (by omega) hnext]
      ring
    · -- the significand is carried over into the next binade
      have hm : m + 1 = 2 * f.binadeSize := by omega
      have hfirst : shift * f.binadeSize + m + 1 = (shift + 1) * f.binadeSize + f.binadeSize := by
        rw [Nat.add_assoc, hm]
        ring
      rw [hfirst, f.magnitude_add (shift + 1) (Nat.le_refl _) (by omega)]
      calc f.binadeSize * 2 ^ (shift + 1) = (m + 1) * 2 ^ shift := by rw [hm]; ring
        _ = m * 2 ^ shift + 2 ^ shift := by ring

/-- Magnitudes grow with their codes. -/
theorem magnitude_strictMono : StrictMono f.magnitude := by
  refine strictMono_nat_of_lt_succ fun code => ?_
  rw [f.magnitude_succ]
  exact Nat.lt_add_of_pos_right (Nat.two_pow_pos _)

/-- A magnitude is at most a binade of times the distance of its two neighbours. -/
theorem magnitude_le_mul_distance {code : Nat} (hpos : 0 < code) :
    f.magnitude code + f.binadeSize * f.magnitude (code - 1) ≤
      f.binadeSize * f.magnitude (code + 1) := by
  obtain ⟨c, rfl⟩ := Nat.exists_eq_add_one.mpr hpos
  -- the distance is the sum of the spacings below and above
  suffices h : f.magnitude (c + 1) ≤
      f.binadeSize * (2 ^ (c / f.binadeSize - 1) + 2 ^ ((c + 1) / f.binadeSize - 1)) by
    rw [Nat.add_sub_cancel, f.magnitude_succ (c + 1), f.magnitude_succ c] at *
    nlinarith
  rcases f.code_cases (c + 1) with hlt | ⟨shift, m, hlow, hhigh, hcode⟩
  · rw [f.magnitude_of_lt hlt]
    calc c + 1 ≤ f.binadeSize * 1 := by omega
      _ ≤ _ := Nat.mul_le_mul_left _ (Nat.le_add_right_of_le Nat.one_le_two_pow)
  · rw [hcode, f.magnitude_add shift hlow hhigh, f.exponent_add shift hlow hhigh]
    by_cases hfirst : m = f.binadeSize
    · -- the first of a binade is as large as its binade times the spacing above
      rw [hfirst]
      exact Nat.mul_le_mul_left _ (Nat.le_add_left _ _)
    · have hprevious : c = shift * f.binadeSize + (m - 1) := by omega
      rw [hprevious, f.exponent_add shift (by omega) (by omega)]
      calc m * 2 ^ shift ≤ 2 * f.binadeSize * 2 ^ shift := Nat.mul_le_mul_right _ hhigh.le
        _ = f.binadeSize * (2 ^ shift + 2 ^ shift) := by ring

theorem decimalDigits_pos : 0 < f.decimalDigits := by
  rw [decimalDigits]
  omega

end FloatFormat

/-! ### Decimals -/

/-- The number that a decimal stands for. -/
def Decimal.value (d : Decimal) : ℚ := d.digits * 10 ^ d.exponent

/-- A number of `k` digits is not below the power of ten with `k - 1` zeros. -/
theorem pow_length_toDigits_le {n : Nat} (hn : 0 < n) :
    10 ^ ((Nat.toDigits 10 n).length - 1) ≤ n := by
  by_cases hone : (Nat.toDigits 10 n).length - 1 = 0
  · rw [hone]
    exact hn
  · by_contra hlt
    have hle := (Nat.length_toDigits_le_iff (b := 10) (by decide) (by omega)).mpr
      (Nat.lt_of_not_le hlt)
    omega

/-- A number is below the power of ten with as many zeros as it has digits. -/
theorem lt_pow_length_toDigits (n : Nat) : n < 10 ^ (Nat.toDigits 10 n).length :=
  (Nat.length_toDigits_le_iff (by decide) Nat.length_toDigits_pos).mp (Nat.le_refl _)

namespace RoundingInterval

variable (i : RoundingInterval)

/-! ### Intervals of rational numbers -/

/-- A rational number lies in the interval. -/
def Mem (x : ℚ) : Prop :=
  if i.closed then (i.low / i.den : ℚ) ≤ x ∧ x ≤ i.high / i.den
  else (i.low / i.den : ℚ) < x ∧ x < i.high / i.den

variable {i}

/-- The test of a fraction is membership of the number. -/
theorem contains_iff {num den : Nat} (hi : 0 < i.den) (hden : 0 < den) :
    i.contains num den = true ↔ i.Mem (num / den) := by
  have hi' : (0 : ℚ) < i.den := by exact_mod_cast hi
  have hden' : (0 : ℚ) < den := by exact_mod_cast hden
  rw [contains, Mem]
  split <;> simp only [Bool.and_eq_true, decide_eq_true_eq]
  · rw [div_le_div_iff₀ hi' hden', div_le_div_iff₀ hden' hi']
    norm_cast
  · rw [div_lt_div_iff₀ hi' hden', div_lt_div_iff₀ hden' hi']
    norm_cast

/-- A number of the interval is not below the lower end. -/
theorem Mem.low_le {x : ℚ} (h : i.Mem x) : (i.low / i.den : ℚ) ≤ x := by
  unfold Mem at h
  split at h
  · exact h.1
  · exact h.1.le

/-- A number of the interval is not above the upper end. -/
theorem Mem.le_high {x : ℚ} (h : i.Mem x) : x ≤ (i.high / i.den : ℚ) := by
  unfold Mem at h
  split at h
  · exact h.2
  · exact h.2.le

/-- Numbers strictly between the ends lie in the interval. -/
theorem mem_of_lt {x : ℚ} (hlow : (i.low / i.den : ℚ) < x) (hhigh : x < i.high / i.den) :
    i.Mem x := by
  unfold Mem
  split
  · exact ⟨hlow.le, hhigh.le⟩
  · exact ⟨hlow, hhigh⟩

/-- An end lies in the interval only if the interval is closed. -/
theorem Mem.closed_of_low {x : ℚ} (h : i.Mem x) (heq : x = i.low / i.den) : i.closed = true := by
  unfold Mem at h
  split at h
  next hclosed => exact hclosed
  next => exact absurd heq h.1.ne'

theorem Mem.closed_of_high {x : ℚ} (h : i.Mem x) (heq : x = i.high / i.den) :
    i.closed = true := by
  unfold Mem at h
  split at h
  next hclosed => exact hclosed
  next => exact absurd heq h.2.ne

/-! ### Points of a grid -/

/-- The step of a grid as a fraction. -/
theorem step_eq (exponent : Int) :
    let step : Nat × Nat :=
      if 0 ≤ exponent then (Nat.pow 10 exponent.toNat, 1) else (1, Nat.pow 10 (-exponent).toNat)
    0 < step.1 ∧ 0 < step.2 ∧ (step.1 / step.2 : ℚ) = 10 ^ exponent := by
  dsimp only
  split
  next h =>
    obtain ⟨n, rfl⟩ := Int.eq_ofNat_of_zero_le h
    refine ⟨Nat.pow_pos (by decide), Nat.one_pos, ?_⟩
    simp [Nat.pow_eq]
  next h =>
    obtain ⟨n, rfl⟩ : ∃ n : Nat, exponent = -n := ⟨(-exponent).toNat, by omega⟩
    refine ⟨Nat.one_pos, Nat.pow_pos (by decide), ?_⟩
    simp [Nat.pow_eq]

/-- A fraction lies between two neighbours on a grid, whose numbers are found by division. -/
theorem between_grid_points (value : Nat) {unit num den : Nat} (hunit : 0 < unit)
    (hnum : 0 < num) (hden : 0 < den) :
    (((value * den / (unit * num) : Nat) : ℚ) * (num / den) ≤ value / unit) ∧
      (value / unit : ℚ) < (value * den / (unit * num) + 1 : Nat) * (num / den) := by
  have hunit' : (0 : ℚ) < unit := by exact_mod_cast hunit
  have hden' : (0 : ℚ) < den := by exact_mod_cast hden
  obtain ⟨below, hbelow⟩ : ∃ below, value * den / (unit * num) = below := ⟨_, rfl⟩
  have hle : below * (unit * num) ≤ value * den := by
    rw [← hbelow]
    exact Nat.div_mul_le_self _ _
  have hlt : value * den < (below + 1) * (unit * num) := by
    rw [← hbelow]
    exact Nat.lt_mul_of_div_lt (Nat.lt_succ_self _) (Nat.mul_pos hunit hnum)
  rw [hbelow, ← mul_div_assoc, ← mul_div_assoc, div_le_div_iff₀ hden' hunit',
    div_lt_div_iff₀ hunit' hden']
  have hle' : (below * (unit * num) : ℚ) ≤ value * den := by exact_mod_cast hle
  have hlt' : (value * den : ℚ) < (below + 1 : Nat) * (unit * num) := by exact_mod_cast hlt
  constructor <;> linarith

/-- The neighbours of the value on a grid, of which `gridPoint?` returns one that lies in the
interval. -/
theorem gridPoint?_cases (hi : 0 < i.den) (exponent : Int) :
    ∃ below : Nat, (below * 10 ^ exponent : ℚ) ≤ i.value / i.den ∧
      (i.value / i.den : ℚ) < (below + 1 : Nat) * 10 ^ exponent ∧
      (∀ d, i.gridPoint? exponent = some d → i.Mem d.value) ∧
      (i.Mem (below * 10 ^ exponent) ∨ i.Mem ((below + 1 : Nat) * 10 ^ exponent) →
        (i.gridPoint? exponent).isSome = true) := by
  obtain ⟨hnum, hden, hstep⟩ := step_eq exponent
  unfold gridPoint?
  generalize (if 0 ≤ exponent then (Nat.pow 10 exponent.toNat, 1)
    else (1, Nat.pow 10 (-exponent).toNat) : Nat × Nat) = step at hnum hden hstep
  obtain ⟨num, den⟩ := step
  dsimp only at hnum hden hstep ⊢
  have hmem : ∀ k : Nat, i.contains (k * num) den = true ↔ i.Mem (k * 10 ^ exponent) := by
    intro k
    rw [contains_iff hi hden, ← hstep, Nat.cast_mul, mul_div_assoc]
  have hbetween := between_grid_points i.value hi hnum hden
  rw [hstep] at hbetween
  refine ⟨i.value * den / (i.den * num), hbetween.1, hbetween.2, ?_⟩
  generalize i.value * den / (i.den * num) = below
  rw [← hmem, ← hmem]
  -- the point below is taken if it is in the interval, unless the one above is too and is nearer
  split
  next hlower =>
    refine ⟨?_, fun _ => rfl⟩
    rintro d ⟨⟩
    exact (hmem below).mp (Bool.and_eq_true_iff.mp hlower).1
  next hlower =>
    split
    next hupper =>
      refine ⟨?_, fun _ => rfl⟩
      rintro d ⟨⟩
      exact (hmem (below + 1)).mp hupper
    next hupper =>
      refine ⟨nofun, fun h => ?_⟩
      rw [Bool.not_eq_true] at hupper
      rcases h with h | h
      · simp [h, hupper] at hlower
      · rw [hupper] at h
        cases h

/-- What stands for a point of a grid lies in the interval. -/
theorem mem_of_gridPoint? (hi : 0 < i.den) {exponent : Int} {d : Decimal}
    (h : i.gridPoint? exponent = some d) : i.Mem d.value := by
  obtain ⟨below, -, -, hmem, -⟩ := gridPoint?_cases hi exponent
  exact hmem d h

/-- A grid has a point in the interval if its step is below the width. -/
theorem isSome_gridPoint? (hi : 0 < i.den) {exponent : Int} (hlow : i.low < i.value)
    (hhigh : i.value < i.high)
    (hwidth : (10 ^ exponent : ℚ) < i.high / i.den - i.low / i.den) :
    (i.gridPoint? exponent).isSome = true := by
  obtain ⟨below, hbelow, habove, -, hsome⟩ := gridPoint?_cases hi exponent
  have hi' : (0 : ℚ) < i.den := by exact_mod_cast hi
  have hlow' : (i.low / i.den : ℚ) < i.value / i.den := by gcongr
  have hhigh' : (i.value / i.den : ℚ) < i.high / i.den := by gcongr
  rw [Nat.cast_add, Nat.cast_one, add_mul, one_mul] at habove
  apply hsome
  rw [Nat.cast_add, Nat.cast_one, add_mul, one_mul]
  by_cases h : (i.low / i.den : ℚ) < below * 10 ^ exponent
  · exact .inl (mem_of_lt h (hbelow.trans_lt hhigh'))
  · -- the point below is out of the interval, so the one a step above is not
    refine .inr (mem_of_lt (hlow'.trans habove) ?_)
    linarith

/-- The value is not below a tenth of the power of ten above it. -/
theorem pow_leadingExponent_le (hi : 0 < i.den) (hvalue : 0 < i.value) :
    (10 ^ (i.leadingExponent - 1) : ℚ) ≤ i.value / i.den := by
  have hi' : (0 : ℚ) < i.den := by exact_mod_cast hi
  have hvalue' : (0 : ℚ) < i.value := by exact_mod_cast hvalue
  unfold leadingExponent
  split
  next hle =>
    have hq : 0 < i.value / i.den := Nat.div_pos hle hi
    have hpow := pow_length_toDigits_le hq
    have hlength := Nat.length_toDigits_pos (b := 10) (n := i.value / i.den)
    generalize (Nat.toDigits 10 (i.value / i.den)).length = length at hpow hlength
    have hexponent : (length : Int) - 1 = ((length - 1 : Nat) : Int) := by omega
    rw [hexponent, zpow_natCast, le_div_iff₀ hi']
    have hmul := (Nat.mul_le_mul_right i.den hpow).trans (Nat.div_mul_le_self _ _)
    exact_mod_cast hmul
  next hlt =>
    -- the value is at least one part of as many as fit, rounded up
    have hpow := lt_pow_length_toDigits ((i.den + i.value - 1) / i.value - 1)
    have hceil : i.den ≤ (i.den + i.value - 1) / i.value * i.value := by
      have hdiv := Nat.div_add_mod' (i.den + i.value - 1) i.value
      have hmod := Nat.mod_lt (i.den + i.value - 1) hvalue
      omega
    generalize (i.den + i.value - 1) / i.value = parts at hpow hceil
    generalize (Nat.toDigits 10 (parts - 1)).length = length at hpow
    have hexponent : (1 : Int) - length - 1 = -(length : Int) := by omega
    have hparts : i.den ≤ 10 ^ length * i.value :=
      hceil.trans (Nat.mul_le_mul_right _ (by omega))
    rw [hexponent, zpow_neg, zpow_natCast, inv_le_comm₀ (by positivity) (div_pos hvalue' hi'),
      inv_div, div_le_iff₀ hvalue']
    exact_mod_cast hparts

/-- The shortest decimal lies in the interval, if the last grid of the search is fine enough. -/
theorem mem_shortest (hi : 0 < i.den) (hlow : i.low < i.value) (hhigh : i.value < i.high)
    {maxDigits : Nat} (hdigits : 0 < maxDigits)
    (hwidth : (10 ^ (i.leadingExponent - maxDigits) : ℚ) < i.high / i.den - i.low / i.den) :
    i.Mem (i.shortest maxDigits).value := by
  have hsome : ((List.range maxDigits).findSome? fun n : Nat =>
      i.gridPoint? (i.leadingExponent - 1 - n)).isSome = true := by
    rw [List.findSome?_isSome_iff]
    refine ⟨maxDigits - 1, List.mem_range.mpr (by omega), isSome_gridPoint? hi hlow hhigh ?_⟩
    have hlast : i.leadingExponent - 1 - ((maxDigits - 1 : Nat) : Int) =
        i.leadingExponent - maxDigits := by omega
    rw [hlast]
    exact hwidth
  obtain ⟨d, hd⟩ := Option.isSome_iff_exists.mp hsome
  obtain ⟨n, -, hn⟩ := List.exists_of_findSome?_eq_some hd
  rw [shortest, hd]
  exact mem_of_gridPoint? hi hn

/-! ### Rounding intervals of a format -/

variable (f : FloatFormat)

theorem den_ofCode_pos (code : Nat) : 0 < (ofCode f code).den :=
  Nat.mul_pos (by decide) f.one_pos

/-- The number is between the ends of its rounding interval. -/
theorem value_ofCode_between {code : Nat} (hpos : 0 < code) :
    (ofCode f code).low < (ofCode f code).value ∧
      (ofCode f code).value < (ofCode f code).high := by
  have hbelow : f.magnitude (code - 1) < f.magnitude code := f.magnitude_strictMono (by omega)
  have habove : f.magnitude code < f.magnitude (code + 1) := f.magnitude_strictMono (by omega)
  simp only [ofCode]
  omega

/-- A format has digits enough if a power of ten of one digit less is above all significands. -/
def DigitsSuffice : Prop := 2 * f.binadeSize < 10 ^ (f.decimalDigits - 1)

variable {f}

/-- The number is at most two binades of times the width of its rounding interval. -/
theorem value_le_mul_width {code : Nat} (hpos : 0 < code) :
    ((ofCode f code).value : ℚ) ≤
      2 * f.binadeSize * ((ofCode f code).high - (ofCode f code).low) := by
  -- the interval is half as wide as the two neighbours are apart
  have hdistance : (f.magnitude code + f.binadeSize * f.magnitude (code - 1) : ℚ) ≤
      f.binadeSize * f.magnitude (code + 1) := by
    exact_mod_cast f.magnitude_le_mul_distance hpos
  simp only [ofCode]
  push_cast
  linarith

/-- The grid of all digits of a format is finer than the rounding interval is wide. -/
theorem step_lt_width (hf : DigitsSuffice f) {code : Nat} (hpos : 0 < code) :
    (10 ^ ((ofCode f code).leadingExponent - f.decimalDigits) : ℚ) <
      (ofCode f code).high / (ofCode f code).den - (ofCode f code).low / (ofCode f code).den := by
  obtain ⟨hlow, hhigh⟩ := value_ofCode_between f hpos
  have hden : (0 : ℚ) < (ofCode f code).den := by exact_mod_cast den_ofCode_pos f code
  have hwide : (0 : ℚ) < (ofCode f code).high - (ofCode f code).low := by
    have hlt : ((ofCode f code).low : ℚ) < (ofCode f code).high := by
      exact_mod_cast hlow.trans hhigh
    linarith
  have hdigits : (2 * f.binadeSize : ℚ) < 10 ^ (f.decimalDigits - 1) := by exact_mod_cast hf
  have hsplit : (10 : ℚ) ^ ((ofCode f code).leadingExponent - 1) =
      10 ^ ((ofCode f code).leadingExponent - f.decimalDigits) * 10 ^ (f.decimalDigits - 1) := by
    have hcount := f.decimalDigits_pos
    rw [← zpow_natCast, ← zpow_add₀ (by norm_num)]
    congr 1
    omega
  have hlead := pow_leadingExponent_le (den_ofCode_pos f code) (Nat.zero_lt_of_lt hlow)
  rw [hsplit, le_div_iff₀ hden] at hlead
  rw [← sub_div, lt_div_iff₀ hden]
  -- compared are the step and the width, each times the power of ten that is above all significands
  have hpow : (0 : ℚ) < 10 ^ (f.decimalDigits - 1) := by positivity
  refine lt_of_mul_lt_mul_right ?_ hpow.le
  calc (10 : ℚ) ^ ((ofCode f code).leadingExponent - f.decimalDigits) * (ofCode f code).den
        * 10 ^ (f.decimalDigits - 1)
      = 10 ^ ((ofCode f code).leadingExponent - f.decimalDigits) * 10 ^ (f.decimalDigits - 1)
        * (ofCode f code).den := by ring
    _ ≤ (ofCode f code).value := hlead
    _ ≤ 2 * f.binadeSize * ((ofCode f code).high - (ofCode f code).low) := value_le_mul_width hpos
    _ < 10 ^ (f.decimalDigits - 1) * ((ofCode f code).high - (ofCode f code).low) := by gcongr
    _ = _ := mul_comm _ _

/-- The shortest decimal of a nonzero number lies in its rounding interval. -/
theorem mem_shortest_ofCode (hf : DigitsSuffice f) {code : Nat} (hpos : 0 < code) :
    (ofCode f code).Mem ((ofCode f code).shortest f.decimalDigits).value := by
  obtain ⟨hlow, hhigh⟩ := value_ofCode_between f hpos
  exact mem_shortest (den_ofCode_pos f code) hlow hhigh f.decimalDigits_pos
    (step_lt_width hf hpos)

/-- Every number of a rounding interval is positive. -/
theorem Mem.pos {code : Nat} {x : ℚ} (hpos : 0 < code) (h : (ofCode f code).Mem x) : 0 < x := by
  have hmagnitude : 0 < f.magnitude code := by
    simpa using f.magnitude_strictMono hpos
  have hden : (0 : ℚ) < (ofCode f code).den := by exact_mod_cast den_ofCode_pos f code
  have hlow : (0 : ℚ) < (ofCode f code).low := by
    have hnat : 0 < (ofCode f code).low := Nat.add_pos_right _ hmagnitude
    exact_mod_cast hnat
  exact (div_pos hlow hden).trans_le h.low_le

/-- The rounding intervals of two numbers have nothing in common, as a tie between neighbours goes
to one of them only. -/
theorem not_mem_of_lt {code code' : Nat} {x : ℚ} (hlt : code < code')
    (h : (ofCode f code).Mem x) (h' : (ofCode f code').Mem x) : False := by
  have hden : (0 : ℚ) < (2 * f.one : Nat) := by exact_mod_cast Nat.mul_pos (by decide) f.one_pos
  have hle : (ofCode f code').low ≤ (ofCode f code).high := by
    have hends := h'.low_le.trans h.le_high
    simp only [ofCode] at hends ⊢
    rw [div_le_div_iff_of_pos_right hden] at hends
    exact_mod_cast hends
  -- of codes further apart the intervals do not even meet in an end
  have hnext : code' = code + 1 := by
    by_contra hne
    have hbelow : f.magnitude code < f.magnitude (code' - 1) := f.magnitude_strictMono (by omega)
    have habove : f.magnitude (code + 1) < f.magnitude code' := f.magnitude_strictMono (by omega)
    simp only [ofCode] at hle
    omega
  subst hnext
  have hshared : (ofCode f (code + 1)).low = (ofCode f code).high := rfl
  have hsame : (ofCode f (code + 1)).den = (ofCode f code).den := rfl
  have hx : x = (ofCode f code).high / (ofCode f code).den := by
    refine le_antisymm h.le_high ?_
    rw [← hshared, ← hsame]
    exact h'.low_le
  have hclosed := h.closed_of_high hx
  have hclosed' := h'.closed_of_low (by rw [hx, hshared, hsame])
  simp only [ofCode, decide_eq_true_eq] at hclosed hclosed'
  omega

/-- A number lies in the rounding interval of one code only. -/
theorem code_eq_of_mem {code code' : Nat} {x : ℚ} (h : (ofCode f code).Mem x)
    (h' : (ofCode f code').Mem x) : code = code' := by
  rcases Nat.lt_trichotomy code code' with hlt | heq | hlt
  · exact (not_mem_of_lt hlt h h').elim
  · exact heq
  · exact (not_mem_of_lt hlt h' h).elim

theorem digitsSuffice_single : DigitsSuffice .single := by
  unfold DigitsSuffice
  decide +kernel

theorem digitsSuffice_double : DigitsSuffice .double := by
  unfold DigitsSuffice
  decide +kernel

end RoundingInterval

end RowFilter
