import RowFilter.Clause.Chain
import RowFilter.Term.Basic
import RowFilter.Vocabulary.Connective

/-!
# Set clauses and sort clauses

A set clause gives new values to members, a sort clause orders rows by members.
-/

namespace RowFilter

/-- The new value of a member: a plain value or a term over the row. -/
inductive SetValue where
  | value (v : Value)
  | operand (t : Term)
deriving Repr

namespace SetValue

/-- The new value that an operand gives. -/
def ofOperand : Operand → SetValue
  | .value v => value v
  | .term t => operand t

/-- Canonical text of a new value. -/
def display : SetValue → String
  | value v => v.display
  | operand t => t.display

/-- Two new values are equal up to the fields that member references carry. -/
def agrees : SetValue → SetValue → Bool
  | value v, value w => decide (v = w)
  | operand t, operand u => t.agrees u
  | _, _ => false

end SetValue

/-- New values for members. -/
abbrev SetClause := Chain SetValue

namespace SetClause

/-- Canonical text of a set clause. -/
def display (c : SetClause) : String :=
  "Set(" ++ ", ".intercalate (c.entries.map fun e => e.1.text ++ " = " ++ e.2.display) ++ ")"

/-- Two set clauses are equal up to the fields that member references carry. -/
def agrees (a b : SetClause) : Bool := Chain.agrees SetValue.agrees a b

end SetClause

/-- Members to sort by, the most significant first. -/
abbrev SortClause := Chain Direction

namespace SortClause

/-- Canonical text of a sort clause. -/
def display (c : SortClause) : String :=
  "OrderBy(" ++ ", ".intercalate (c.entries.map fun e => e.1.text ++ " " ++ e.2.label) ++ ")"

/-- Two sort clauses are equal up to the fields that member references carry. -/
def agrees (a b : SortClause) : Bool := Chain.agrees (fun x y => decide (x = y)) a b

end SortClause

end RowFilter
