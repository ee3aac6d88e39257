import RowFilter.Proofs.Compilation.Comparators
import RowFilter.Proofs.Compilation.Conditions
import RowFilter.Proofs.Folding.Plain
import RowFilter.Proofs.Meaning.Truth

/-!
# Meaning of compiled comparisons

Between settled operands no canonical rewrite fires: a comparison by order keeps its comparator and
its right side. What it says over a row is then the comparison of what the two operands compute,
also where a constant has changed sides and the comparator is reversed.
-/

namespace RowFilter

/-- The right side that stands for an operand as it is. -/
def Operand.rightSide : Operand → RightSide
  | .term t => .operand t
  | .value v => .value v

/-- A settled operand is compared as it is. -/
theorem Comparison.withOperand_of_isSettled (left : Term) {c : Comparator}
    (hc : c.acceptsValue = true) {right : Operand} (hright : right.IsSettled) :
    withOperand left c right defaultWildcard =
      .ok { left, comparator := c, right := right.rightSide, ignoreCase := false } := by
  cases right with
  | value v =>
    have hassign : assign c v defaultWildcard = .ok (c, .value v) := by
      simp [assign, hright.notNull, hright.notList, hright.notWildcarded, hc]
    rw [withOperand, withValue, hassign]
    rfl
  | term u => exact withOperand_of_not_isLiteral left hc hright defaultWildcard

/-- A comparison with an operand on the right compares what the two sides compute. -/
theorem Predicate.holds?_comparison {registry : Registry} {row : Row} {l : Term} {r : Operand}
    {a b : Value} (c : Comparator) (ignoreCase : Bool) (ha : l.evaluate registry row = .ok a)
    (hb : r.evaluate registry row = .ok b) :
    (comparison l c r.rightSide ignoreCase).holds? registry row =
      Value.comparison? c ignoreCase a b := by
  cases r with
  | term u =>
    rw [Operand.evaluate] at hb
    simp [Operand.rightSide, holds?, ha, hb]
  | value v =>
    cases hb
    simp [Operand.rightSide, holds?, ha]

namespace Compilation

variable {config : Config} {shown : String} {c : Comparator} {ignoreCase : Bool} {t : Trace}

/-- Two constants fold to the truth of their comparison. -/
theorem outcome?_compareOperands_value (a b : Value) :
    outcome? (compareOperands config shown c ignoreCase (.value a) (.value b)) t =
      (Value.comparison? c ignoreCase a b).map fun truth => some (.shortCircuit truth) := by
  simp only [compareOperands]
  cases Value.comparison? c ignoreCase a b <;> rfl

/-- A compiled comparison of settled operands says of a row what the comparison of the values says
that the operands compute from it. -/
theorem holds?_of_compareOperands (hwildcard : config.wildcard = defaultWildcard)
    (hc : c.isOrdering = true) {l r : Operand} (hl : l.IsSettled) (hr : r.IsSettled)
    {q : Option Predicate}
    (h : outcome? (compareOperands config shown c ignoreCase l r) t = some q) :
    ∃ p, q = some p ∧ ∀ registry row a b, l.evaluate registry row = .ok a →
      r.evaluate registry row = .ok b →
      p.holds? registry row = Value.comparison? c ignoreCase a b := by
  rcases compareOperands_cases h with ⟨u, made, rfl, hmade, rfl⟩ |
    ⟨v, u, made, rfl, rfl, hmade, rfl⟩ | ⟨v, w, truth, rfl, rfl, htruth, rfl⟩
  · rw [hwildcard, Comparison.withOperand_of_isSettled u
      (Comparator.acceptsValue_of_isOrdering hc) hr] at hmade
    cases hmade
    exact ⟨_, rfl, fun registry row a b ha hb => Predicate.holds?_comparison c ignoreCase ha hb⟩
  · -- the constant goes to the right, and the reversed comparator says the same of the two
    have hsettled := Comparison.withOperand_of_isSettled u
      (Comparator.acceptsValue_of_isOrdering ((Comparator.isOrdering_reverse c).trans hc)) hl
    rw [hwildcard, ← Comparison.withOperand, hsettled] at hmade
    cases hmade
    refine ⟨_, rfl, fun registry row a b ha hb => ?_⟩
    rw [← Value.comparison?_reverse]
    exact Predicate.holds?_comparison c.reverse ignoreCase hb ha
  · refine ⟨_, rfl, fun registry row a b ha hb => ?_⟩
    cases ha
    cases hb
    exact htruth.symm

end Compilation

end RowFilter
