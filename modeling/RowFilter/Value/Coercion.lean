import RowFilter.Value.Basic

/-!
# Numbers of values

Arithmetic is done on numbers of 64 bits: `toDouble?` reads a value as such a number, and
`ofDouble?` turns a number back into a value of a kind, by rounding and with exact bounds.
-/

namespace RowFilter

namespace Value

/-- The value as a number of 64 bits, rounded to the nearest; null counts as zero. -/
def toDouble? : Value → Option (Finite .double)
  | null => Finite.ofFloating? .zero
  | int n => Finite.ofFloating? (.ofInt n.toInt)
  | uint n => Finite.ofFloating? (.ofInt n.toNat)
  | float32 x => Finite.ofFloating? x.toFloating.convert
  | float64 x => some x
  | _ => none

/-- The value of a numeric kind nearest to a number, if the kind has one there. -/
def ofDouble? (kind : Kind) (x : Double) : Option Value :=
  if !x.isFinite then none
  else
    match kind with
    | .int => (int64? x.roundToInt).map int
    | .uint => (uint64? x.roundToInt).map uint
    | .float32 => (Finite.ofFloating? x.convert).map float32
    | .float64 => (Finite.ofFloating? x).map float64
    | _ => none

end Value

end RowFilter
