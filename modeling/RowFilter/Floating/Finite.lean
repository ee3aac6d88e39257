import RowFilter.Floating.Rounding

/-!
# Finite numbers

The floats that values carry: finite, and with one zero. On them equality of bit patterns, numeric
equality and the order by units agree. `Finite.ofFloating?` is the only way in, and arithmetic on
finite numbers leaves the type again, since it may overflow or divide by zero.
-/

namespace RowFilter

/-- A finite number of a format whose zero is positive. -/
structure Finite (f : FloatFormat) extends Floating f where
  /-- The number is finite. -/
  code_lt_infinity : code < f.infinityCode
  /-- Zero has one sign. -/
  zero_positive : code = 0 → negative = false
deriving DecidableEq, Repr

namespace Finite

variable {f : FloatFormat}

/-- Keep a finite number, with negative zero read as zero, and refuse any other. -/
def ofFloating? (x : Floating f) : Option (Finite f) :=
  if hx : x.code < f.infinityCode then
    some
      { negative := x.negative && x.code != 0
        code := x.code
        code_lt := x.code_lt
        code_lt_infinity := hx
        zero_positive := by intro h; simp [h] }
  else none

/-- Order of finite numbers by their value. -/
def compare (x y : Finite f) : Ordering := Ord.compare x.units y.units

/-- Sum of two finite numbers, rounded once. -/
def add (x y : Finite f) : Floating f :=
  let sum := x.units + y.units
  .ofQuotient (sum < 0) sum.natAbs 1

/-- Difference of two finite numbers, rounded once. -/
def sub (x y : Finite f) : Floating f :=
  let difference := x.units - y.units
  .ofQuotient (difference < 0) difference.natAbs 1

/-- Product of two finite numbers, rounded once. -/
def mul (x y : Finite f) : Floating f :=
  .ofQuotient (x.negative != y.negative) (x.units.natAbs * y.units.natAbs) f.one

/-- Quotient of two finite numbers, rounded once. A nonzero number divided by zero is an infinity,
and zero by zero is no number. -/
def div (x y : Finite f) : Floating f :=
  if y.units = 0 then
    if x.units = 0 then .nan else .infinity (x.negative != y.negative)
  else .ofQuotient (x.negative != y.negative) (x.units.natAbs * f.one) y.units.natAbs

theorem isFinite_toFloating (x : Finite f) : x.toFloating.isFinite = true := by
  simpa [Floating.isFinite] using x.code_lt_infinity

@[simp]
theorem ofFloating?_toFloating (x : Finite f) : ofFloating? x.toFloating = some x := by
  have hz := x.zero_positive
  rw [ofFloating?, dif_pos x.code_lt_infinity]
  obtain ⟨⟨negative, code, code_lt⟩, _, _⟩ := x
  cases negative <;> simp_all

end Finite

end RowFilter
