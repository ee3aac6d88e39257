import RowFilter.Proofs.Floating.Nearest
import RowFilter.Proofs.Folding.Order

/-!
# Numbers that become integers

A number of 64 bits becomes the integer nearest to the rational number that it stands for, if the
kind of integers has it there (`Value.ofDouble?_eq_some_iff_nearest`).

The same can be found without leaving the format: the number is rounded to a whole number of the
format, compared with two other numbers of the format and cast (`Value.castInteger?`). Nothing is
lost on that way. The whole number nearest to a number of the format is a number of the format
itself (`Floating.isInteger_roundToWhole`), the bounds are powers of two and hence numbers of the
format, and a cast of a whole number between them neither wraps nor saturates.
-/

namespace RowFilter

namespace Floating

variable {f : FloatFormat}

/-! ### Rounding within the format -/

/-- The whole number of the format nearest to a finite number; any other number is left as it is. -/
def roundToWhole (x : Floating f) : Floating f :=
  if x.isFinite then
    ofQuotient x.negative (roundQuotient (f.magnitude x.code) f.one * f.one) 1
  else x

/-- Both are numbers, and the first is not the greater one. -/
def atMost (x y : Floating f) : Bool := !x.isNaN && !y.isNaN && decide (x.units ≤ y.units)

/-- Both are numbers, and the first is the smaller one. -/
def below (x y : Floating f) : Bool := !x.isNaN && !y.isNaN && decide (x.units < y.units)

/-- The integer of 64 bits with sign that is left without the fraction, or the nearer end of these
integers; zero if there is no number. -/
def castInt64 (x : Floating f) : Int64 :=
  if x.isNaN then 0 else .ofIntClamp (x.units.tdiv f.one)

/-- The integer of 64 bits without sign that is left without the fraction, or the nearer end of
these integers; zero if there is no number. -/
def castUInt64 (x : Floating f) : UInt64 :=
  if x.isNaN then 0 else .ofNatClamp (x.units.tdiv f.one).toNat

/-- The number is an integer. -/
structure IsInteger (x : Floating f) (n : ℤ) : Prop where
  /-- It is a number. -/
  isNaN_eq : x.isNaN = false
  /-- Its units are those of so many times one. -/
  units_eq : x.units = n * f.one

variable {x y : Floating f} {m n : ℤ}

/-- Rounding gives a number. -/
theorem isNaN_ofQuotient (negative : Bool) (num den : Nat) :
    (ofQuotient negative num den : Floating f).isNaN = false :=
  decide_eq_false (Nat.not_lt_of_le (f.codeOfQuotient_le num den))

/-- A magnitude is a whole number or is below the size of a binade. -/
theorem one_dvd_magnitude_or_lt (f : FloatFormat) (code : Nat) :
    f.one ∣ f.magnitude code ∨ f.magnitude code < f.binadeSize * f.one := by
  rcases f.code_cases code with hlt | ⟨shift, m, hlow, hhigh, rfl⟩
  · rw [f.magnitude_of_lt hlt]
    exact .inr (hlt.trans_le (Nat.le_mul_of_pos_right _ f.one_pos))
  · rw [f.magnitude_add shift hlow hhigh, FloatFormat.one, Nat.pow_eq]
    rcases Nat.lt_or_ge shift f.unitExponent with hshift | hshift
    · right
      calc m * 2 ^ shift < 2 * f.binadeSize * 2 ^ shift :=
            Nat.mul_lt_mul_of_pos_right hhigh (Nat.two_pow_pos shift)
        _ = f.binadeSize * 2 ^ (shift + 1) := by ring
        _ ≤ f.binadeSize * 2 ^ f.unitExponent :=
            Nat.mul_le_mul_left _ (Nat.pow_le_pow_right (by decide) hshift)
    · exact .inl (Dvd.dvd.mul_left (pow_dvd_pow 2 hshift) m)

/-- The whole number nearest to a finite number is a number of the format. -/
theorem exists_magnitude_roundQuotient (hf : f.unitExponent + 2 < 2 ^ f.exponentBits)
    (hx : x.isFinite = true) : ∃ code, code < f.infinityCode ∧
      f.magnitude code = roundQuotient (f.magnitude x.code) f.one * f.one := by
  rw [isFinite, decide_eq_true_eq] at hx
  rcases one_dvd_magnitude_or_lt f x.code with ⟨q, hq⟩ | hlt
  · -- a whole number is left as it is, however many digits it has
    refine ⟨x.code, hx, ?_⟩
    rw [hq, Nat.mul_comm f.one, roundQuotient_mul_right q f.one_pos]
  · -- a number with a fraction is small enough for all whole numbers up to its size to be exact
    have hround : roundQuotient (f.magnitude x.code) f.one ≤ f.binadeSize :=
      (roundQuotient_le _ _).trans ((Nat.div_lt_iff_lt_mul f.one_pos).mpr hlt)
    have hpos := f.binadeSize_pos
    exact f.exists_magnitude_eq (by omega) hf

/-- A finite number that is rounded within the format is the integer that it is rounded to. -/
theorem isInteger_roundToWhole (hf : f.unitExponent + 2 < 2 ^ f.exponentBits)
    (hx : x.isFinite = true) : x.roundToWhole.IsInteger x.roundToInt := by
  obtain ⟨code, hcode, hmagnitude⟩ := exists_magnitude_roundQuotient hf hx
  have hround : f.codeOfQuotient (roundQuotient (f.magnitude x.code) f.one * f.one) 1 = code := by
    rw [← hmagnitude, ← Nat.mul_one (f.magnitude code)]
    exact f.codeOfQuotient_magnitude hcode Nat.one_pos
  rw [roundToWhole, if_pos hx]
  refine ⟨isNaN_ofQuotient _ _ _, ?_⟩
  simp only [units, ofQuotient, hround, hmagnitude, roundToInt]
  split <;> push_cast <;> ring

/-- A power of two of 64 bits is a number of 64 bits, and so is its negative. -/
theorem isInteger_ofInt (shift : Nat) (hn : n.natAbs = 2 ^ shift) (hshift : shift ≤ 64) :
    (ofInt n : Double).IsInteger n where
  isNaN_eq := isNaN_ofQuotient _ _ _
  units_eq := by
    have hunit : FloatFormat.double.unitExponent = 1074 := rfl
    have hbits : (2 : Nat) ^ FloatFormat.double.exponentBits = 2048 := rfl
    refine units_ofInt (m := 1) (by rw [hn, Nat.one_mul]) (by decide) ?_
    omega

namespace IsInteger

/-- Numbers that are integers are compared as integers. -/
theorem atMost_eq (hx : x.IsInteger m) (hy : y.IsInteger n) : x.atMost y = decide (m ≤ n) := by
  have hone : (0 : ℤ) < f.one := by exact_mod_cast f.one_pos
  simpa [atMost, hx.isNaN_eq, hy.isNaN_eq, hx.units_eq, hy.units_eq]
    using mul_le_mul_iff_of_pos_right hone

theorem below_eq (hx : x.IsInteger m) (hy : y.IsInteger n) : x.below y = decide (m < n) := by
  have hone : (0 : ℤ) < f.one := by exact_mod_cast f.one_pos
  simpa [below, hx.isNaN_eq, hy.isNaN_eq, hx.units_eq, hy.units_eq]
    using mul_lt_mul_iff_of_pos_right hone

/-- A cast of an integer in range is that integer. -/
theorem castInt64_eq (hx : x.IsInteger n) (hlow : -2 ^ 63 ≤ n) (hhigh : n < 2 ^ 63) :
    x.castInt64 = .ofInt n := by
  have hcut : (n * f.one).tdiv f.one = n := Int.mul_tdiv_cancel n (one_ne_zero f)
  simp only [castInt64, hx.isNaN_eq, hx.units_eq, hcut, Bool.false_eq_true, if_false]
  rw [← Int64.toInt_inj, Int64.toInt_ofInt_of_le hlow hhigh]
  exact Int64.toInt_ofIntClamp hlow (Int.le_of_lt_add_one hhigh)

theorem castUInt64_eq (hx : x.IsInteger n) (hhigh : n < 2 ^ 64) :
    x.castUInt64 = .ofNat n.toNat := by
  have hcut : (n * f.one).tdiv f.one = n := Int.mul_tdiv_cancel n (one_ne_zero f)
  simp only [castUInt64, hx.isNaN_eq, hx.units_eq, hcut, Bool.false_eq_true, if_false]
  have hsize : UInt64.size = 2 ^ 64 := rfl
  exact UInt64.ofNatClamp_eq_ofNat _ (by omega)

end IsInteger

end Floating

namespace Value

/-! ### Conversion to integers -/

/-- The value of a kind of integers that is found without leaving the format: a finite number is
rounded to a whole one, which is compared with the bounds of the kind as numbers and then cast. -/
def castInteger? (kind : Kind) (x : Double) : Option Value :=
  if !x.isFinite then none
  else
    let whole := x.roundToWhole
    match kind with
    | .int =>
      if (Floating.ofInt (-2 ^ 63)).atMost whole && whole.below (.ofInt (2 ^ 63)) then
        some (.int whole.castInt64)
      else none
    | .uint =>
      if Floating.zero.atMost whole && whole.below (.ofInt (2 ^ 64)) then
        some (.uint whole.castUInt64)
      else none
    | _ => none

variable {x : Double} {v : Value} {n : ℤ}

/-- An integer that fits 64 bits with sign is kept. -/
theorem int64?_eq_some_iff {i : Int64} : int64? n = some i ↔ i.toInt = n := by
  rw [int64?]
  constructor
  · intro h
    split at h
    next hrange =>
      cases h
      exact Int64.toInt_ofInt_of_le hrange.1 (Int.lt_add_one_of_le hrange.2)
    next => cases h
  · rintro rfl
    rw [if_pos ⟨i.minValue_le_toInt, i.toInt_le⟩, Int64.ofInt_toInt]

theorem int64?_eq_none_iff : int64? n = none ↔ n < -2 ^ 63 ∨ 2 ^ 63 ≤ n := by
  have hends : Int64.minValue.toInt = -2 ^ 63 ∧ Int64.maxValue.toInt = 2 ^ 63 - 1 := by decide
  rw [int64?, hends.1, hends.2]
  split <;> simp <;> omega

/-- An integer that fits 64 bits without sign is kept. -/
theorem uint64?_eq_some_iff {i : UInt64} : uint64? n = some i ↔ (i.toNat : ℤ) = n := by
  rw [uint64?]
  constructor
  · intro h
    split at h
    next hrange =>
      cases h
      rw [UInt64.toNat_ofNat_of_lt' (by omega)]
      omega
    next => cases h
  · rintro rfl
    have hlt := i.toNat_lt
    have hsize : UInt64.size = 2 ^ 64 := rfl
    rw [if_pos (by omega), Int.toNat_natCast, UInt64.ofNat_toNat]

theorem uint64?_eq_none_iff : uint64? n = none ↔ n < 0 ∨ 2 ^ 64 ≤ n := by
  have hsize : UInt64.size = 2 ^ 64 := rfl
  rw [uint64?, hsize]
  split <;> simp <;> omega

section

variable {β : Type} {fits? : ℤ → Option β} {number : β → ℤ} {ofNumber : β → Value}

/-- Where integers that fit are kept, a number becomes the integer nearest to it. -/
theorem map_roundToInt_eq_some_iff (hfits : ∀ {n i}, fits? n = some i ↔ number i = n) :
    (fits? x.roundToInt).map ofNumber = some v ↔
      ∃ i, v = ofNumber i ∧ NearestEven x.value (number i) := by
  have hnearest := Floating.nearestEven_roundToInt x
  rw [Option.map_eq_some_iff]
  constructor
  · rintro ⟨i, hi, rfl⟩
    exact ⟨i, rfl, hfits.mp hi ▸ hnearest⟩
  · rintro ⟨i, rfl, hi⟩
    exact ⟨i, hfits.mpr (hi.unique hnearest), rfl⟩

/-- A number becomes nothing if the integer nearest to it does not fit. -/
theorem map_roundToInt_eq_none_iff :
    (fits? x.roundToInt).map ofNumber = none ↔ ∀ n, NearestEven x.value n → fits? n = none := by
  have hnearest := Floating.nearestEven_roundToInt x
  rw [Option.map_eq_none_iff]
  exact ⟨fun h n hn => hn.unique hnearest ▸ h, fun h => h _ hnearest⟩

end

/-- A number that is not finite is no value of a kind. -/
theorem ofDouble?_of_not_isFinite (kind : Kind) (h : x.isFinite = false) :
    ofDouble? kind x = none := by
  unfold ofDouble?
  rw [h]
  rfl

theorem ofDouble?_int (h : x.isFinite = true) :
    ofDouble? .int x = (int64? x.roundToInt).map .int := by
  rw [ofDouble?, h]
  rfl

theorem ofDouble?_uint (h : x.isFinite = true) :
    ofDouble? .uint x = (uint64? x.roundToInt).map .uint := by
  rw [ofDouble?, h]
  rfl

/-- The result is the nearest integer, if it fits 64 bits with sign. -/
theorem ofDouble?_int_eq_some_iff : ofDouble? .int x = some v ↔
    ∃ i : Int64, v = .int i ∧ x.isFinite = true ∧ NearestEven x.value i.toInt := by
  cases hx : x.isFinite with
  | false => simp [ofDouble?_of_not_isFinite _ hx]
  | true => simp [ofDouble?_int hx, map_roundToInt_eq_some_iff int64?_eq_some_iff]

theorem ofDouble?_int_eq_none_iff : ofDouble? .int x = none ↔
    (x.isFinite = true → ∀ n, NearestEven x.value n → n < -2 ^ 63 ∨ 2 ^ 63 ≤ n) := by
  cases hx : x.isFinite with
  | false => simp [ofDouble?_of_not_isFinite _ hx]
  | true =>
    rw [ofDouble?_int hx, map_roundToInt_eq_none_iff]
    simp only [int64?_eq_none_iff, forall_const]

/-- The result is the nearest integer, if it fits 64 bits without sign. -/
theorem ofDouble?_uint_eq_some_iff : ofDouble? .uint x = some v ↔
    ∃ i : UInt64, v = .uint i ∧ x.isFinite = true ∧ NearestEven x.value i.toNat := by
  cases hx : x.isFinite with
  | false => simp [ofDouble?_of_not_isFinite _ hx]
  | true => simp [ofDouble?_uint hx, map_roundToInt_eq_some_iff uint64?_eq_some_iff]

theorem ofDouble?_uint_eq_none_iff : ofDouble? .uint x = none ↔
    (x.isFinite = true → ∀ n, NearestEven x.value n → n < 0 ∨ 2 ^ 64 ≤ n) := by
  cases hx : x.isFinite with
  | false => simp [ofDouble?_of_not_isFinite _ hx]
  | true =>
    rw [ofDouble?_uint hx, map_roundToInt_eq_none_iff]
    simp only [uint64?_eq_none_iff, forall_const]

/-- Within the format the same value with sign is found, with the same bounds. -/
theorem castInteger?_int (hx : x.isFinite = true) :
    castInteger? .int x = (int64? x.roundToInt).map .int := by
  have hwhole := Floating.isInteger_roundToWhole (f := .double) (by decide) hx
  have hlow := Floating.isInteger_ofInt (n := -2 ^ 63) 63 (by decide) (by decide)
  have hhigh := Floating.isInteger_ofInt (n := 2 ^ 63) 63 (by decide) (by decide)
  generalize x.roundToInt = n at hwhole
  simp only [castInteger?, hx, hlow.atMost_eq hwhole, hwhole.below_eq hhigh, Bool.not_true,
    Bool.false_eq_true, if_false, Bool.and_eq_true, decide_eq_true_eq]
  split
  next h =>
    rw [hwhole.castInt64_eq h.1 h.2, int64?_eq_some_iff.mpr (Int64.toInt_ofInt_of_le h.1 h.2)]
    rfl
  next h =>
    rw [int64?_eq_none_iff.mpr (by omega)]
    rfl

/-- Within the format the same value without sign is found, with the same bounds. -/
theorem castInteger?_uint (hx : x.isFinite = true) :
    castInteger? .uint x = (uint64? x.roundToInt).map .uint := by
  have hwhole := Floating.isInteger_roundToWhole (f := .double) (by decide) hx
  have hlow : (Floating.zero : Double).IsInteger 0 :=
    ⟨by decide, Floating.units_zero.trans (zero_mul _).symm⟩
  have hhigh := Floating.isInteger_ofInt (n := 2 ^ 64) 64 (by decide) (by decide)
  generalize x.roundToInt = n at hwhole
  simp only [castInteger?, hx, hlow.atMost_eq hwhole, hwhole.below_eq hhigh, Bool.not_true,
    Bool.false_eq_true, if_false, Bool.and_eq_true, decide_eq_true_eq]
  split
  next h =>
    have hsize : UInt64.size = 2 ^ 64 := rfl
    have hcast : ((UInt64.ofNat n.toNat).toNat : ℤ) = n := by
      rw [UInt64.toNat_ofNat_of_lt' (by omega), Int.toNat_of_nonneg h.1]
    rw [hwhole.castUInt64_eq h.2, uint64?_eq_some_iff.mpr hcast]
    rfl
  next h =>
    rw [uint64?_eq_none_iff.mpr (by omega)]
    rfl

/-- Nothing is lost within the format. -/
theorem ofDouble?_eq_castInteger? {kind : Kind} (hkind : kind = .int ∨ kind = .uint) (x : Double) :
    ofDouble? kind x = castInteger? kind x := by
  cases hx : x.isFinite with
  | false => rw [ofDouble?_of_not_isFinite kind hx, castInteger?, hx]; rfl
  | true =>
    rcases hkind with rfl | rfl
    · rw [ofDouble?_int hx, castInteger?_int hx]
    · rw [ofDouble?_uint hx, castInteger?_uint hx]

/-- An integer of at most 53 bits is read as a number of 64 bits and given back from it, in its own
kind or in the other. -/
theorem ofDouble?_toDouble? {v w : Value} (hv : v.integer? = some n) (hw : w.integer? = some n)
    (hn : n.natAbs ≤ 2 ^ 53) :
    ∃ y, v.toDouble? = some y ∧ ofDouble? w.kind y.toFloating = some w := by
  have hnumeric : v.isNumeric = true := by cases v <;> first | rfl | cases hv
  obtain ⟨y, hy⟩ := exists_toDouble? (.inr hnumeric)
  -- the number stands for the integer itself, which is nearest to it then
  have hunits : y.units = n * FloatFormat.double.one := by
    rw [toDouble?_of_integer? hv] at hy
    rw [Finite.units_of_ofFloating? hy, Floating.units_ofInt_of_natAbs_le hn]
  have hnearest : NearestEven y.toFloating.value n := by
    rw [Floating.value_of_units hunits]
    exact .intCast n
  refine ⟨y, hy, ?_⟩
  cases w with
  | int i =>
    cases hw
    exact ofDouble?_int_eq_some_iff.mpr ⟨i, rfl, y.isFinite_toFloating, hnearest⟩
  | uint i =>
    cases hw
    exact ofDouble?_uint_eq_some_iff.mpr ⟨i, rfl, y.isFinite_toFloating, hnearest⟩
  | _ => cases hw

/-- A number of 64 bits becomes a value of a kind of integers by exact rounding with exact bounds.
The value is the integer nearest to the rational number that a finite number stands for, the even
one of two; there is none if the number is not finite or that integer is out of the range of the
kind. The same value is found by rounding, comparing and casting within the format, where no cast
wraps or saturates. An integer up to two to the power of 53 is given back from the number that it is
read as. -/
theorem ofDouble?_eq_some_iff_nearest :
    (∀ (x : Double) (v : Value), ofDouble? .int x = some v ↔
      ∃ i : Int64, v = .int i ∧ x.isFinite = true ∧ NearestEven x.value i.toInt) ∧
    (∀ x : Double, ofDouble? .int x = none ↔
      (x.isFinite = true → ∀ n, NearestEven x.value n → n < -2 ^ 63 ∨ 2 ^ 63 ≤ n)) ∧
    (∀ (x : Double) (v : Value), ofDouble? .uint x = some v ↔
      ∃ i : UInt64, v = .uint i ∧ x.isFinite = true ∧ NearestEven x.value i.toNat) ∧
    (∀ x : Double, ofDouble? .uint x = none ↔
      (x.isFinite = true → ∀ n, NearestEven x.value n → n < 0 ∨ 2 ^ 64 ≤ n)) ∧
    (∀ (kind : Kind) (x : Double), kind = .int ∨ kind = .uint →
      ofDouble? kind x = castInteger? kind x) ∧
    ∀ (v w : Value) (n : ℤ), v.integer? = some n → w.integer? = some n → n.natAbs ≤ 2 ^ 53 →
      ∃ y, v.toDouble? = some y ∧ ofDouble? w.kind y.toFloating = some w :=
  ⟨fun _ _ => ofDouble?_int_eq_some_iff, fun _ => ofDouble?_int_eq_none_iff,
    fun _ _ => ofDouble?_uint_eq_some_iff, fun _ => ofDouble?_uint_eq_none_iff,
    fun _ x hkind => ofDouble?_eq_castInteger? hkind x, fun _ _ _ => ofDouble?_toDouble?⟩

/-- Two and a half becomes two, which is even, and two to the power of 64 is out of range. Two to
the power of 53 is read from a number without sign and given back as one with sign. -/
theorem ofDouble?_eq_some_iff_nearest_half :
    let half : Double := ⟨false, 4612811918334230528, by decide⟩
    let beyond : Double := ⟨false, 4895412794951729152, by decide⟩
    (ofDouble? .int half = some (.int 2) ∧ half.isFinite = true ∧ NearestEven half.value 2) ∧
      (ofDouble? .uint beyond = none ∧ castInteger? .uint beyond = none) ∧
      ∃ y, (Value.uint 9007199254740992).toDouble? = some y ∧
        ofDouble? .int y.toFloating = some (.int 9007199254740992) := by
  intro half beyond
  obtain ⟨hint, -, -, -, hcast, hback⟩ := ofDouble?_eq_some_iff_nearest
  have hhalf : ofDouble? .int half = some (.int 2) := by decide +kernel
  have hbeyond : ofDouble? .uint beyond = none := by decide +kernel
  refine ⟨⟨hhalf, by decide, ?_⟩, ⟨hbeyond, ?_⟩, ?_⟩
  · obtain ⟨i, hi, -, hnearest⟩ := (hint half (.int 2)).mp hhalf
    cases hi
    exact hnearest
  · rw [← hcast .uint beyond (.inr rfl)]
    exact hbeyond
  · exact hback (.uint 9007199254740992) (.int 9007199254740992) (2 ^ 53) rfl rfl (by decide)

end Value

end RowFilter
