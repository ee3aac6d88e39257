import RowFilter.Error
import RowFilter.Predicate.Basic

/-!
# Canonical comparisons

Comparisons are brought to a canonical shape as they are made. Null on the right becomes a test for
null, a list makes equality a membership, and a text with wildcards makes equality a pattern match;
a literal term on the right counts as its value. `Comparison.isCanonical` says which comparators and
right sides can come out.
-/

namespace RowFilter

/-- The wildcard of patterns where none is configured. -/
def defaultWildcard : Char := '%'

/-- A comparison of a term with a right side. -/
structure Comparison where
  /-- The left side. -/
  left : Term
  /-- How the two sides relate. -/
  comparator : Comparator
  /-- The right side. -/
  right : RightSide
  /-- Whether letter case does not count. -/
  ignoreCase : Bool

namespace Comparison

/-- A comparison as a predicate. -/
def toPredicate (c : Comparison) : Predicate :=
  .comparison c.left c.comparator c.right c.ignoreCase

/-- The comparison with letter case counting or not. -/
def ignoringCase (c : Comparison) (ignoreCase : Bool) : Comparison := { c with ignoreCase }

/-- Comparator and right side for a value on the right. -/
def assign (comparator : Comparator) (value : Value) (wildcard : Char) :
    Except Error (Comparator × RightSide) :=
  if value.isNull then
    .ok <|
      if comparator.isEqualFamily then (.isNull, .empty)
      else if comparator.isGreaterFamily then (.isNotNull, .empty)
      else if comparator = .absent then (.absent, .predicate (.shortCircuit true))
      else (comparator, .empty)
  else if !comparator.acceptsValue then .error (.valueNotTaken comparator value.display)
  else if value.isList then .ok (comparator.forList, .value value)
  else if value.isWildcarded wildcard then .ok (comparator.forWildcard, .value value)
  else .ok (comparator, .value value)

/-- Compare a term with a value. -/
def withValue (left : Term) (comparator : Comparator) (value : Value) (wildcard : Char) :
    Except Error Comparison := do
  let (comparator, right) ← assign comparator value wildcard
  return { left, comparator, right, ignoreCase := false }

/-- Test a term by a comparator that needs no right side. -/
def unary (left : Term) (comparator : Comparator) : Except Error Comparison :=
  withValue left comparator .null defaultWildcard

/-- Compare a term with an operand. -/
def withOperand (left : Term) (comparator : Comparator) (right : Operand) (wildcard : Char) :
    Except Error Comparison :=
  match right with
  | .value v => withValue left comparator v wildcard
  | .term (.literal v assigned) =>
    withValue left comparator (if assigned then v else .null) wildcard
  | .term t =>
    if comparator.acceptsValue then
      .ok { left, comparator, right := .operand t, ignoreCase := false }
    else .error (.rightSideNotTaken comparator t.display)

/-- Compare a term with a predicate. -/
def withPredicate (left : Term) (comparator : Comparator) (right : Predicate) :
    Except Error Comparison :=
  if comparator.acceptsValue then
    .ok { left, comparator, right := .predicate right, ignoreCase := false }
  else .error (.rightSideNotTaken comparator right.display)

/-- The comparator can have the right side in a canonical comparison. -/
def isCanonical (comparator : Comparator) : RightSide → Bool
  | .empty => !comparator.acceptsValue && comparator != .absent
  | .value v =>
    !v.isNull && comparator.acceptsValue && (!v.isList || comparator.forList == comparator)
  | .operand t => comparator.acceptsValue && !t.isLiteral
  | .predicate p => comparator.acceptsValue || (comparator == .absent && p.truth? == some true)

end Comparison

end RowFilter
