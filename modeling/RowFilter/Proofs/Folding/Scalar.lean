import RowFilter.Expr.Basic

/-!
# Scalar expressions

The expressions that compute a value from constants and direct members of the row, by arithmetic and
by functions of texts. `Expr.atRow` puts the values of a row in the place of its members.
-/

namespace RowFilter

namespace Expr

/-- An expression over the constants that `admits` allows and over direct members of the row, built
from the four arithmetic operators, the methods of texts and the length of a computed target. -/
inductive Scalar (admits : Value → Prop) : Expr → Prop
  | constant {v : Value} (hv : admits v) : Scalar admits (constant v)
  | field (name : String) : Scalar admits (field name)
  | arithmetic {op : BinaryOp} {sign : Sign} {left right : Expr} (hop : op.sign? = some sign)
      (hleft : Scalar admits left) (hright : Scalar admits right) :
      Scalar admits (binary op left right)
  | textFunction {method : String} {sign : Sign} {target : Expr} {args : List Expr}
      (hmethod : Sign.ofMethod? method = some sign) (htarget : Scalar admits target)
      (hargs : ∀ arg ∈ args, Scalar admits arg) : Scalar admits (call target method args)
  | length {target : Expr} (htarget : Scalar admits target) : Scalar admits (member target "length")

mutual

/-- The expression with each direct member of the row replaced by the constant that the row has for
it. Filters of subqueries are about other rows and stay as they are. -/
def atRow (values : Row) : Expr → Expr
  | row => row
  | constant v => constant v
  | nonFinite x => nonFinite x
  | member row name =>
    match values.value? name with
    | some v => constant v
    | none => member row name
  | member target name => member (target.atRow values) name
  | unary op e => unary op (e.atRow values)
  | binary op left right => binary op (left.atRow values) (right.atRow values)
  | call target method args => call (target.atRow values) method (atRowAll values args)
  | staticCall method args => staticCall method (atRowAll values args)
  | existsIn outer detail foreignKey negated =>
    existsIn (outer.atRow values) detail foreignKey negated
  | existsWhere outer detail foreignKey filter negated =>
    existsWhere (outer.atRow values) detail foreignKey filter negated

/-- The expressions with the values of a row in place of its members. -/
def atRowAll (values : Row) : List Expr → List Expr
  | [] => []
  | e :: es => e.atRow values :: atRowAll values es

end

variable {admits : Value → Prop} {values : Row}

@[simp]
theorem atRowAll_eq_map (es : List Expr) : atRowAll values es = es.map (atRow values) := by
  induction es with
  | nil => rfl
  | cons e es ih => rw [atRowAll, ih, List.map_cons]

theorem atRow_field {name : String} {v : Value} (h : values.value? name = some v) :
    (field name).atRow values = constant v := by
  simp [field, atRow, h]

/-- A scalar expression is not the row itself. -/
theorem Scalar.ne_row {e : Expr} (h : e.Scalar admits) : e ≠ row := by
  cases h <;> nofun

/-- What is not the row itself does not become it by putting in the row's values. -/
theorem atRow_ne_row {e : Expr} (h : e ≠ row) : e.atRow values ≠ row := by
  unfold atRow
  split <;> first | exact h | (split <;> simp) | simp

theorem atRow_member {target : Expr} (h : target ≠ row) (name : String) :
    (member target name).atRow values = member (target.atRow values) name := by
  cases target <;> first | rfl | exact absurd rfl h

end Expr

end RowFilter
