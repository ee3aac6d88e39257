import RowFilter.Proofs.Floating.Monotone
import RowFilter.Proofs.Meaning.Truth

/-!
# The order of numeric constants

Two integers are compared exactly, and any other two numbers as numbers of 64 bits. As rounding keeps
the order, the two rules never contradict each other, but between two integers the order of the
rounded numbers says less than the order of the integers. Hence the order of constants is not
transitive: two different integers may both be equal to one float.

That is the only way in which it fails (`Value.AtMost.trans_iff`), and it cannot happen with integers
that are numbers of 64 bits themselves, as all up to two to the power of 53 are.
-/

namespace RowFilter

/-- Keeping a finite number keeps its units. -/
theorem Finite.units_of_ofFloating? {f : FloatFormat} {x : Floating f} {y : Finite f}
    (h : ofFloating? x = some y) : y.units = x.units := by
  rw [ofFloating?] at h
  split at h <;> cases h
  by_cases hzero : x.code = 0
  · -- the sign of zero is dropped, which has no units
    simp [Floating.units, hzero]
  · simp [Floating.units, hzero]

namespace Value

/-- The integer of a value that is one. -/
def integer? : Value → Option Int
  | int n => some n.toInt
  | uint n => some n.toNat
  | _ => none

/-- The two values are comparable, and the first is not the greater one. -/
def AtMost (a b : Value) : Prop := ∃ order, a.compare? b = some order ∧ order ≠ .gt

/-- Two integers are equal to one value between them, and the first of them is the greater one. -/
structure Blurred (a b c : Value) : Prop where
  /-- The first integer is greater than the last. -/
  greater : ∃ m n, a.integer? = some m ∧ c.integer? = some n ∧ n < m
  /-- The first integer is equal to the value between them. -/
  left : a.compare? b = some .eq
  /-- The value between them is equal to the last integer. -/
  right : b.compare? c = some .eq

variable {a b c : Value} {x y z : Finite .double} {m n : Int}

/-! ### The two rules -/

/-- An integer is read as the number nearest to it. -/
theorem toDouble?_of_integer? (ha : a.integer? = some m) :
    a.toDouble? = Finite.ofFloating? (.ofInt m) := by
  cases a <;> cases ha <;> rfl

/-- Integers are compared exactly. -/
theorem compare?_of_integer? (ha : a.integer? = some m) (hb : b.integer? = some n) :
    a.compare? b = some (compare m n) := by
  cases a with
  | int i => cases ha; cases b <;> cases hb <;> rfl
  | uint i =>
    cases ha
    cases b with
    | int j => cases hb; rfl
    | uint j =>
      -- two numbers without sign are compared as natural numbers
      cases hb
      simp [compare?, compare, compareOfLessAndEq]
    | _ => cases hb
  | _ => cases ha

/-- Numbers of which one is a float are compared as numbers of 64 bits. -/
theorem compare?_of_toDouble? (ha : a.isNumeric = true) (hb : b.isNumeric = true)
    (hfloat : a.integer? = none ∨ b.integer? = none) (hx : a.toDouble? = some x)
    (hy : b.toDouble? = some y) : a.compare? b = some (x.compare y) := by
  have hnumbers : (if a.isNumeric && b.isNumeric then do
      let x ← a.toDouble?
      let y ← b.toDouble?
      some (x.compare y) else none) = some (x.compare y) := by
    rw [ha, hb, hx, hy]
    rfl
  -- what is no number is ruled out first, then the pairs of integers, which have a rule of their own
  cases a <;> cases b <;>
    first
    | (cases ha; done)
    | (cases hb; done)
    | (rcases hfloat with h | h <;> cases h; done)
    | exact hnumbers

/-! ### The order -/

/-- Two numbers are comparable, and in the opposite order the other way round. -/
theorem exists_compare? (ha : a.isNumeric = true) (hb : b.isNumeric = true) :
    ∃ order, a.compare? b = some order ∧ b.compare? a = some order.swap := by
  have hsome : ∃ order, a.compare? b = some order := by
    obtain ⟨x, hx⟩ := exists_toDouble? (.inr ha)
    obtain ⟨y, hy⟩ := exists_toDouble? (.inr hb)
    cases hm : a.integer? with
    | none => exact ⟨_, compare?_of_toDouble? ha hb (.inl hm) hx hy⟩
    | some m =>
      cases hn : b.integer? with
      | none => exact ⟨_, compare?_of_toDouble? ha hb (.inr hn) hx hy⟩
      | some n => exact ⟨_, compare?_of_integer? hm hn⟩
  obtain ⟨order, horder⟩ := hsome
  exact ⟨order, horder, by rw [compare?_swap, horder]; rfl⟩

/-- Of comparable values the first is at most the second unless it is the greater one. -/
theorem atMost_iff_ne_gt {order : Ordering} (h : a.compare? b = some order) :
    a.AtMost b ↔ order ≠ .gt := by
  constructor
  · rintro ⟨order', horder', hne⟩
    rw [h] at horder'
    cases horder'
    exact hne
  · intro hne
    exact ⟨order, h, hne⟩

/-- Among integers the order is that of the integers. -/
theorem atMost_iff_le (ha : a.integer? = some m) (hb : b.integer? = some n) :
    a.AtMost b ↔ m ≤ n :=
  (atMost_iff_ne_gt (compare?_of_integer? ha hb)).trans Int.compare_ne_gt

/-- With a float it is that of the numbers of 64 bits. -/
theorem atMost_iff_units_le (ha : a.isNumeric = true) (hb : b.isNumeric = true)
    (hfloat : a.integer? = none ∨ b.integer? = none) (hx : a.toDouble? = some x)
    (hy : b.toDouble? = some y) : a.AtMost b ↔ x.units ≤ y.units :=
  (atMost_iff_ne_gt (compare?_of_toDouble? ha hb hfloat hx hy)).trans Int.compare_ne_gt

/-- Rounding keeps the order of two integers. -/
theorem units_le_of_le (ha : a.integer? = some m) (hb : b.integer? = some n) (h : m ≤ n)
    (hx : a.toDouble? = some x) (hy : b.toDouble? = some y) : x.units ≤ y.units := by
  rw [toDouble?_of_integer? ha] at hx
  rw [toDouble?_of_integer? hb] at hy
  rw [Finite.units_of_ofFloating? hx, Finite.units_of_ofFloating? hy]
  exact Floating.units_ofInt_le h

/-- The numbers of 64 bits are never in the opposite order. -/
theorem AtMost.units_le (h : a.AtMost b) (ha : a.isNumeric = true) (hb : b.isNumeric = true)
    (hx : a.toDouble? = some x) (hy : b.toDouble? = some y) : x.units ≤ y.units := by
  cases hm : a.integer? with
  | none => exact (atMost_iff_units_le ha hb (.inl hm) hx hy).mp h
  | some m =>
    cases hn : b.integer? with
    | none => exact (atMost_iff_units_le ha hb (.inr hn) hx hy).mp h
    | some n => exact units_le_of_le hm hn ((atMost_iff_le hm hn).mp h) hx hy

/-- Two numbers are equal as constants if neither is greater. -/
theorem same_iff_atMost (ha : a.isNumeric = true) (hb : b.isNumeric = true) :
    a.same b = true ↔ a.AtMost b ∧ b.AtMost a := by
  obtain ⟨order, horder, hswap⟩ := exists_compare? ha hb
  rw [atMost_iff_ne_gt horder, atMost_iff_ne_gt hswap, same, horder]
  cases order <;> simp

/-- Equal constants are the same number of 64 bits. -/
theorem units_eq_of_compare? (h : a.compare? b = some .eq) (ha : a.isNumeric = true)
    (hb : b.isNumeric = true) (hx : a.toDouble? = some x) (hy : b.toDouble? = some y) :
    x.units = y.units := by
  obtain ⟨hle, hge⟩ := (same_iff_atMost ha hb).mp (by rw [same, h]; rfl)
  exact Int.le_antisymm (hle.units_le ha hb hx hy) (hge.units_le hb ha hy hx)

/-! ### Transitivity -/

/-- The order is transitive, unless two integers are equal to the value between them. -/
theorem AtMost.trans_iff (ha : a.isNumeric = true) (hb : b.isNumeric = true)
    (hc : c.isNumeric = true) (hab : a.AtMost b) (hbc : b.AtMost c) :
    a.AtMost c ↔ ¬ a.Blurred b c := by
  obtain ⟨x, hx⟩ := exists_toDouble? (.inr ha)
  obtain ⟨y, hy⟩ := exists_toDouble? (.inr hb)
  obtain ⟨z, hz⟩ := exists_toDouble? (.inr hc)
  have hxy := hab.units_le ha hb hx hy
  have hyz := hbc.units_le hb hc hy hz
  -- as numbers of 64 bits the three are in order, which decides the matter if a float is compared
  have hfloat : a.integer? = none ∨ c.integer? = none → (a.AtMost c ↔ ¬ a.Blurred b c) := by
    intro hnone
    have hac := (atMost_iff_units_le ha hc hnone hx hz).mpr (Int.le_trans hxy hyz)
    refine iff_of_true hac fun hblurred => ?_
    obtain ⟨m, n, hm, hn, -⟩ := hblurred.greater
    rw [hm, hn] at hnone
    rcases hnone with hnone | hnone <;> cases hnone
  cases hm : a.integer? with
  | none => exact hfloat (.inl hm)
  | some m =>
    cases hn : c.integer? with
    | none => exact hfloat (.inr hn)
    | some n =>
      rw [atMost_iff_le hm hn]
      constructor
      · intro hle hblurred
        obtain ⟨m', n', hm', hn', hlt⟩ := hblurred.greater
        rw [hm] at hm'
        rw [hn] at hn'
        cases hm'
        cases hn'
        omega
      · intro hblurred
        by_contra hlt
        -- the integers are in the opposite order, so rounding does not tell the three apart
        have hzx := units_le_of_le hn hm (by omega) hz hx
        have hfloat : b.integer? = none := by
          cases hk : b.integer? with
          | none => rfl
          | some k =>
            have hmk := (atMost_iff_le hm hk).mp hab
            have hkn := (atMost_iff_le hk hn).mp hbc
            omega
        refine hblurred ⟨⟨m, n, hm, hn, by omega⟩, ?_, ?_⟩
        · rw [compare?_of_toDouble? ha hb (.inr hfloat) hx hy, Finite.compare,
            Int.compare_eq_eq.mpr (by omega)]
        · rw [compare?_of_toDouble? hb hc (.inl hfloat) hy hz, Finite.compare,
            Int.compare_eq_eq.mpr (by omega)]

/-- Integers that are numbers of 64 bits themselves are not confused. -/
theorem not_blurred_of_natAbs_le (ha : a.isNumeric = true) (hb : b.isNumeric = true)
    (hc : c.isNumeric = true)
    (hsmall : ∀ n, a.integer? = some n ∨ c.integer? = some n → n.natAbs ≤ 2 ^ 53) :
    ¬ a.Blurred b c := by
  intro hblurred
  obtain ⟨m, n, hm, hn, hlt⟩ := hblurred.greater
  obtain ⟨x, hx⟩ := exists_toDouble? (.inr ha)
  obtain ⟨y, hy⟩ := exists_toDouble? (.inr hb)
  obtain ⟨z, hz⟩ := exists_toDouble? (.inr hc)
  have hunits : x.units = z.units :=
    (units_eq_of_compare? hblurred.left ha hb hx hy).trans
      (units_eq_of_compare? hblurred.right hb hc hy hz)
  rw [toDouble?_of_integer? hm] at hx
  rw [toDouble?_of_integer? hn] at hz
  rw [Finite.units_of_ofFloating? hx, Finite.units_of_ofFloating? hz,
    Floating.units_ofInt_of_natAbs_le (hsmall m (.inl hm)),
    Floating.units_ofInt_of_natAbs_le (hsmall n (.inr hn))] at hunits
  have hone : (FloatFormat.double.one : Int) ≠ 0 :=
    Int.natCast_ne_zero.mpr FloatFormat.double.one_pos.ne'
  have hsame := Int.eq_of_mul_eq_mul_right hone hunits
  omega

/-- Any two numbers are comparable, they are equal as constants if neither is greater, and the order
is transitive but for two different integers that are equal to the value between them. No integers
up to two to the power of 53 are such. -/
theorem atMost_trans_iff_not_blurred (ha : a.isNumeric = true) (hb : b.isNumeric = true)
    (hc : c.isNumeric = true) :
    (∃ order, a.compare? b = some order ∧ b.compare? a = some order.swap) ∧
      (a.same b = true ↔ a.AtMost b ∧ b.AtMost a) ∧
      (a.AtMost b → b.AtMost c → (a.AtMost c ↔ ¬ a.Blurred b c)) ∧
      ((∀ n, a.integer? = some n ∨ c.integer? = some n → n.natAbs ≤ 2 ^ 53) →
        a.AtMost b → b.AtMost c → a.AtMost c) := by
  refine ⟨exists_compare? ha hb, same_iff_atMost ha hb, AtMost.trans_iff ha hb hc, ?_⟩
  intro hsmall hab hbc
  exact (AtMost.trans_iff ha hb hc hab hbc).mpr (not_blurred_of_natAbs_le ha hb hc hsmall)

/-- The last integers below the bound, with the float of the bound between them. -/
theorem atMost_trans_iff_not_blurred_bound :
    let a : Value := .uint 9007199254740991
    let b : Value := .float64 ⟨⟨false, 4845873199050653696, by decide⟩, by decide, by decide⟩
    let c : Value := .int 9007199254740992
    a.isNumeric = true ∧ b.isNumeric = true ∧ c.isNumeric = true ∧
      a.compare? b = some .lt ∧ b.compare? c = some .eq ∧ a.AtMost c := by
  intro a b c
  have hab : a.compare? b = some .lt := by decide +kernel
  have hbc : b.compare? c = some .eq := by decide +kernel
  refine ⟨rfl, rfl, rfl, hab, hbc, ?_⟩
  refine (atMost_trans_iff_not_blurred (a := a) (b := b) (c := c) rfl rfl rfl).2.2.2 ?_
    ⟨_, hab, nofun⟩ ⟨_, hbc, nofun⟩
  rintro n (h | h) <;> cases h <;> decide

/-- The first integer above the bound is rounded to the float of the bound, and so is the bound:
each is equal to the float, and they are not equal to each other. -/
theorem compare?_not_transitive :
    let a : Value := .int 9007199254740993
    let b : Value := .float64 ⟨⟨false, 4845873199050653696, by decide⟩, by decide, by decide⟩
    let c : Value := .int 9007199254740992
    a.compare? b = some .eq ∧ b.compare? c = some .eq ∧ a.compare? c = some .gt ∧
      a.same b = true ∧ b.same c = true ∧ a.same c = false := by
  decide +kernel

end Value

end RowFilter
