import RowFilter.Floating.Basic

/-!
# Rounding to nearest, ties to even

`roundQuotient` rounds a quotient of natural numbers to a whole number, and `Floating.ofQuotient`
rounds a quotient of units to a number of a format. Conversions between formats, and between
integers and formats, are instances of the two.
-/

namespace RowFilter

/-- The whole number nearest to `num / den`; a half goes to the even neighbour. -/
def roundQuotient (num den : Nat) : Nat :=
  let q := num / den
  let r := num % den
  if 2 * r < den ∨ (2 * r = den ∧ q % 2 = 0) then q else q + 1

namespace FloatFormat

/-- Code of the number nearest to `num / den` units, saturating at infinity. The quotient is rounded
to the spacing of its binade; as codes are consecutive across binades, a carry into the next binade
needs no case of its own. -/
def codeOfQuotient (f : FloatFormat) (num den : Nat) : Nat :=
  let shift := (num / den).log2 - f.fractionBits
  min (shift * f.binadeSize + roundQuotient num (den * Nat.pow 2 shift)) f.infinityCode

theorem codeOfQuotient_le (f : FloatFormat) (num den : Nat) :
    f.codeOfQuotient num den ≤ f.infinityCode :=
  Nat.min_le_right _ _

end FloatFormat

namespace Floating

variable {f : FloatFormat}

/-- The number of sign `negative` whose magnitude is nearest to `num / den` units. -/
def ofQuotient (negative : Bool) (num den : Nat) : Floating f where
  negative := negative
  code := f.codeOfQuotient num den
  code_lt := Nat.lt_of_le_of_lt (f.codeOfQuotient_le num den) f.infinityCode_lt

/-- The number nearest to an integer. -/
def ofInt (n : Int) : Floating f := ofQuotient (n < 0) (n.natAbs * f.one) 1

/-- The integer nearest to a finite number. -/
def roundToInt (x : Floating f) : Int :=
  let n : Int := roundQuotient (f.magnitude x.code) f.one
  if x.negative then -n else n

/-- The number of another format nearest to a number; infinities and not-a-numbers stay such. -/
def convert {g : FloatFormat} (x : Floating f) : Floating g :=
  if x.isNaN then nan
  else if x.isFinite then ofQuotient x.negative (f.magnitude x.code * g.one) f.one
  else infinity x.negative

end Floating

end RowFilter
