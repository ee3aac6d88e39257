import RowFilter.Compilation.Pattern
import RowFilter.Predicate.Basic
import RowFilter.Term.Evaluation

/-!
# Truth of predicates on a row

`Predicate.holds?` reads a predicate over a row: connectives classically, and a comparison as the
comparison of the constants that its two sides compute. A predicate whose leaves are all truth
values is `Predicate.IsFolded`; what it says does not depend on the row.
-/

namespace RowFilter

namespace Predicate

/-- Truth of a predicate on a row, if it has one. Membership tests, pattern matches, null tests and
subqueries are not read. -/
def holds? (registry : Registry) (row : Row) : Predicate → Option Bool
  | .joined p .and q => do return (← p.holds? registry row) && (← q.holds? registry row)
  | .joined p .or q => do return (← p.holds? registry row) || (← q.holds? registry row)
  | .solo .not p => return !(← p.holds? registry row)
  | .comparison left comparator (.value v) ignoreCase => do
    Value.comparison? comparator ignoreCase (← (left.evaluate registry row).toOption) v
  | .comparison left comparator (.operand right) ignoreCase => do
    let a ← (left.evaluate registry row).toOption
    let b ← (right.evaluate registry row).toOption
    Value.comparison? comparator ignoreCase a b
  | .shortCircuit b => some b
  | _ => none

/-- Every leaf of the predicate is a truth value. -/
inductive IsFolded : Predicate → Prop
  | joined {p q : Predicate} (op : Connective) (hp : IsFolded p) (hq : IsFolded q) :
      IsFolded (.joined p op q)
  | solo {p : Predicate} (op : Connective) (hp : IsFolded p) : IsFolded (.solo op p)
  | shortCircuit (b : Bool) : IsFolded (.shortCircuit b)

end Predicate

/-! ### Changing the sides of a comparison -/

/-- The order of finite numbers is opposite the other way round. -/
theorem Finite.compare_swap {f : FloatFormat} (x y : Finite f) :
    y.compare x = (x.compare y).swap := by
  rw [Finite.compare, Finite.compare]
  exact Std.OrientedCmp.eq_swap

namespace Value

/-- Comparing two numbers the other way round gives the opposite order. -/
theorem compareNumbers_swap (a b : Value) :
    (if b.isNumeric && a.isNumeric then do
        let y ← b.toDouble?
        let x ← a.toDouble?
        some (y.compare x)
      else none : Option Ordering) =
      (if a.isNumeric && b.isNumeric then do
        let x ← a.toDouble?
        let y ← b.toDouble?
        some (x.compare y)
      else none : Option Ordering).map Ordering.swap := by
  rw [Bool.and_comm]
  split
  · cases a.toDouble? with
    | none => cases b.toDouble? <;> rfl
    | some x =>
      cases b.toDouble? with
      | none => rfl
      | some y => exact congrArg some (x.compare_swap y)
  · rfl

/-- Comparing two values the other way round gives the opposite order. -/
theorem compare?_swap (a b : Value) : b.compare? a = (a.compare? b).map Ordering.swap := by
  -- numbers are compared as doubles whatever their kinds, anything else only with its own kind
  have hnumbers := compareNumbers_swap a b
  cases a <;> cases b <;>
    first
    | exact hnumbers
    | simp only [compare?, Text.compare, Date.compare, Option.map_some]
      exact congrArg some Std.OrientedCmp.eq_swap

/-- Equality of constants does not care for the order of the two. -/
theorem same_comm (a b : Value) : b.same a = a.same b := by
  unfold same
  rw [compare?_swap a b]
  cases a.compare? b with
  | none => simp only [Option.map_none, eq_comm]
  | some order => cases order <;> rfl

/-- A comparison says the same after its sides have changed places. -/
theorem comparison?_reverse (comparator : Comparator) (ignoreCase : Bool) (a b : Value) :
    comparison? comparator.reverse ignoreCase b a = comparison? comparator ignoreCase a b := by
  unfold comparison?
  -- letter case is dropped on each side by itself, before the two are compared
  generalize a.loweredIf ignoreCase = a
  generalize b.loweredIf ignoreCase = b
  have hordering : comparator.reverse.isOrdering = comparator.isOrdering := by
    cases comparator <;> rfl
  dsimp only
  rw [hordering, compare?_swap a b, same_comm a b]
  split
  · rfl
  · cases a.compare? b with
    | some order => exact comparator.matchesOrdering_reverse order
    | none => cases comparator <;> rfl

end Value

end RowFilter
