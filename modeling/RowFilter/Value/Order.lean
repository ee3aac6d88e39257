import RowFilter.Value.Coercion

/-!
# Comparison of constants

Two constants are compared as numbers if both are numeric, and within one kind otherwise. Integers
compare exactly, and a comparison that involves a float is one of numbers of 64 bits.
-/

namespace RowFilter

namespace Value

/-- Order of two values, if their kinds are comparable. -/
def compare? : Value → Value → Option Ordering
  | bool a, bool b => some (compare a b)
  | text a, text b => some (Text.compare a b)
  | date a, date b => some (a.compare b)
  | int a, int b => some (compare a.toInt b.toInt)
  | uint a, uint b => some (compare a.toNat b.toNat)
  | int a, uint b => some (compare a.toInt (b.toNat : Int))
  | uint a, int b => some (compare (a.toNat : Int) b.toInt)
  | a, b =>
    if a.isNumeric && b.isNumeric then do
      let x ← a.toDouble?
      let y ← b.toDouble?
      some (x.compare y)
    else none

/-- Two values are equal as constants: by order where they are comparable, by content otherwise. -/
def same (a b : Value) : Bool :=
  match compare? a b with
  | some order => order == .eq
  | none => decide (a = b)

end Value

end RowFilter
