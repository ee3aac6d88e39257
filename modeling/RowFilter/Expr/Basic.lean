import RowFilter.Entity.Basic
import RowFilter.Vocabulary.Comparator
import RowFilter.Vocabulary.Sign

/-!
# Expressions

What callers write: a filter or a value over one row, built from members, constants, operators,
method calls and subqueries. Any expression can be built; the compilation decides which have a
meaning.
-/

namespace RowFilter

/-- An operator before one operand. -/
inductive UnaryOp where
  | not
  | negate
  | plus
  | arrayLength
deriving DecidableEq, Repr

/-- An operator between two operands. -/
inductive BinaryOp where
  | add
  | subtract
  | multiply
  | divide
  | equal
  | notEqual
  | greater
  | greaterOrEqual
  | less
  | lessOrEqual
  | andAlso
  | orElse
  | arrayIndex
deriving DecidableEq, Repr

namespace BinaryOp

/-- All operators, in the order of declaration. -/
def all : List BinaryOp :=
  [add, subtract, multiply, divide, equal, notEqual, greater, greaterOrEqual, less, lessOrEqual,
    andAlso, orElse, arrayIndex]

/-- Name of an operator. -/
def label : BinaryOp → String
  | add => "Add"
  | subtract => "Subtract"
  | multiply => "Multiply"
  | divide => "Divide"
  | equal => "Equal"
  | notEqual => "NotEqual"
  | greater => "Greater"
  | greaterOrEqual => "GreaterOrEqual"
  | less => "Less"
  | lessOrEqual => "LessOrEqual"
  | andAlso => "AndAlso"
  | orElse => "OrElse"
  | arrayIndex => "ArrayIndex"

/-- How an operator is written. -/
def token : BinaryOp → String
  | add => "+"
  | subtract => "-"
  | multiply => "*"
  | divide => "/"
  | equal => "=="
  | notEqual => "!="
  | greater => ">"
  | greaterOrEqual => ">="
  | less => "<"
  | lessOrEqual => "<="
  | andAlso => "&&"
  | orElse => "||"
  | arrayIndex => "[]"

/-- The arithmetic sign of an operator. -/
def sign? : BinaryOp → Option Sign
  | add => some .add
  | subtract => some .subtract
  | multiply => some .multiply
  | divide => some .divide
  | _ => none

/-- The comparator of an operator. -/
def comparator? : BinaryOp → Option Comparator
  | equal => some .equal
  | notEqual => some .unequal
  | greater => some .greater
  | greaterOrEqual => some .greaterOrEqual
  | less => some .lesser
  | lessOrEqual => some .lesserOrEqual
  | _ => none

/-- Operators that compare. -/
def isComparison (op : BinaryOp) : Bool := op.comparator?.isSome

/-- Operators that connect predicates. -/
def isLogical : BinaryOp → Bool
  | andAlso | orElse => true
  | _ => false

end BinaryOp

/-- A filter or a value over one row. -/
inductive Expr where
  /-- The row itself. -/
  | row
  /-- A constant. -/
  | constant (value : Value)
  /-- A constant that is no value, being an infinity or a not-a-number. -/
  | nonFinite (x : Double)
  /-- A member of a target. -/
  | member (target : Expr) (name : String)
  /-- An operator before one operand. -/
  | unary (op : UnaryOp) (operand : Expr)
  /-- An operator between two operands. -/
  | binary (op : BinaryOp) (left right : Expr)
  /-- A method call on a target. -/
  | call (target : Expr) (method : String) (args : List Expr)
  /-- A call without a target; its first argument takes the place of one. -/
  | staticCall (method : String) (args : List Expr)
  /-- The detail entity has rows whose foreign key is the outer value. -/
  | existsIn (outer : Expr) (detail : Entity) (foreignKey : String) (negated : Bool)
  /-- The detail entity has rows whose foreign key is the outer value and that pass a filter. -/
  | existsWhere (outer : Expr) (detail : Entity) (foreignKey : String) (filter : Expr)
      (negated : Bool)
deriving Repr

namespace Expr

instance : Inhabited Expr := ⟨row⟩

/-- A number as a constant. -/
def ofDouble (x : Double) : Expr :=
  match Finite.ofFloating? x with
  | some y => constant (.float64 y)
  | none => nonFinite x

/-- A number of 32 bits as a constant. -/
def ofSingle (x : Single) : Expr :=
  match Finite.ofFloating? x with
  | some y => constant (.float32 y)
  | none => nonFinite x.convert

/-- A member of the row. -/
def field (name : String) : Expr := member row name

/-- A call of a method on a target with one argument. -/
def callWith (method : String) (target arg : Expr) : Expr := call target method [arg]

/-- A call of a method on a target with one argument, in which letter case does not count. -/
def callIgnoringCase (method : String) (target arg : Expr) : Expr :=
  call target method [arg, constant (.bool true)]

/-- The methods that make a predicate. -/
def isPredicateMethod (method : String) : Bool :=
  method == "contains" || method == "starts_with" || method == "ends_with" || method == "equals"

/-- The expression has the shape of a predicate. -/
def isPredicate : Expr → Bool
  | binary op _ _ => op.isComparison || op.isLogical
  | unary op _ => op == .not
  | existsIn _ _ _ _ | existsWhere _ _ _ _ _ => true
  | call _ method _ | staticCall method _ => isPredicateMethod method
  | _ => false

mutual

/-- Canonical text of an expression. -/
def display : Expr → String
  | row => "row"
  | constant v => v.display
  | nonFinite x => "Float64(" ++ x.text ++ ")"
  | member target name => target.display ++ "." ++ name
  | unary .not e => "!" ++ e.display
  | unary .negate e => "-" ++ e.display
  | unary .plus e => "+" ++ e.display
  | unary .arrayLength e => e.display ++ ".len()"
  | binary op l r =>
    if op = .arrayIndex then l.display ++ "[" ++ r.display ++ "]"
    else "(" ++ l.display ++ " " ++ op.token ++ " " ++ r.display ++ ")"
  | call target method args =>
    target.display ++ "." ++ method ++ "(" ++ ", ".intercalate (displayAll args) ++ ")"
  | staticCall method args => method ++ "(" ++ ", ".intercalate (displayAll args) ++ ")"
  | existsIn outer detail foreignKey negated =>
    (if negated then "!" else "") ++ "exists(" ++ outer.display ++ " in " ++ detail.path ++ "."
      ++ foreignKey ++ ")"
  | existsWhere outer detail foreignKey filter negated =>
    (if negated then "!" else "") ++ "exists(" ++ outer.display ++ " in " ++ detail.path ++ "."
      ++ foreignKey ++ " where " ++ filter.display ++ ")"

/-- Canonical texts of expressions. -/
def displayAll : List Expr → List String
  | [] => []
  | e :: es => e.display :: displayAll es

end

end Expr

end RowFilter
