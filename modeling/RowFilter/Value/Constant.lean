import RowFilter.Error
import RowFilter.Value.Basic

/-!
# Values of numbers

A number becomes a value only if it is finite, and negative zero becomes zero.
-/

namespace RowFilter

namespace Value

/-- The value of a number of 64 bits. -/
def ofDouble (x : Double) : Except Error Value :=
  match Finite.ofFloating? x with
  | some y => .ok (float64 y)
  | none => .error (.nonFiniteConstant x.text)

/-- The value of a number of 32 bits. -/
def ofSingle (x : Single) : Except Error Value :=
  match Finite.ofFloating? x with
  | some y => .ok (float32 y)
  | none => .error (.nonFiniteConstant x.text)

end Value

end RowFilter
