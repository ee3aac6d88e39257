import RowFilter.Expr.Basic
import RowFilter.Predicate.Comparison

/-!
# Comparators of compiled comparisons

Every comparison of the compilation is made for a comparator that takes a right side, so a term that
is no literal is compared as it is.
-/

namespace RowFilter

namespace Comparator

variable {c : Comparator}

/-- Comparators of order take a right side. -/
theorem acceptsValue_of_isOrdering (h : c.isOrdering = true) : c.acceptsValue = true := by
  cases c <;> first | rfl | cases h

/-- Reversing keeps the comparators of order. -/
theorem isOrdering_reverse (c : Comparator) : c.reverse.isOrdering = c.isOrdering := by
  cases c <;> rfl

/-- What takes a right side is a comparator. -/
theorem ne_absent_of_acceptsValue (h : c.acceptsValue = true) : c ≠ .absent := by
  rintro rfl
  cases h

end Comparator

/-- The comparators of operators are those of order. -/
theorem BinaryOp.isOrdering_of_comparator? {op : BinaryOp} {c : Comparator}
    (h : op.comparator? = some c) : c.isOrdering = true := by
  cases op <;> cases h <;> rfl

/-- A term that is no literal is compared as it is. -/
theorem Comparison.withOperand_of_not_isLiteral (left : Term) {c : Comparator}
    (hc : c.acceptsValue = true) {u : Term} (hu : u.isLiteral = false) (wildcard : Char) :
    withOperand left c (.term u) wildcard =
      .ok { left, comparator := c, right := .operand u, ignoreCase := false } := by
  cases u with
  | literal _ _ => cases hu
  | member _ => exact if_pos hc
  | binary _ _ _ => exact if_pos hc
  | unary _ _ _ => exact if_pos hc

end RowFilter
