/-!
# Connectives and directions

The logical connectives of filters and the two directions of sorting.
-/

namespace RowFilter

/-- A logical connective. -/
inductive Connective where
  | and
  | or
  | not
deriving DecidableEq, Repr

namespace Connective

/-- All connectives, in the order of their tags. -/
def all : List Connective := [and, or, not]

theorem mem_all (c : Connective) : c ∈ all := by cases c <;> simp [all]

/-- The byte that stands for a connective in encodings. -/
def tag : Connective → UInt8
  | and => 1
  | or => 2
  | not => 3

/-- Name of a connective. -/
def label : Connective → String
  | and => "And"
  | or => "Or"
  | not => "Not"

/-- What a query writer puts between the two sides. -/
def token : Connective → String
  | and => " and "
  | or => " or "
  | not => " not "

/-- The token of a connective that has no left side. -/
def leadingToken : Connective → String
  | and => "and "
  | or => "or "
  | not => "not "

end Connective

/-- Direction of sorting. -/
inductive Direction where
  | ascending
  | descending
deriving DecidableEq, Repr

namespace Direction

/-- Both directions, in the order of their tags. -/
def all : List Direction := [ascending, descending]

theorem mem_all (d : Direction) : d ∈ all := by cases d <;> simp [all]

/-- The byte that stands for a direction in encodings. -/
def tag : Direction → UInt8
  | ascending => 1
  | descending => 2

/-- Name of a direction. -/
def label : Direction → String
  | ascending => "Asc"
  | descending => "Desc"

/-- What a query writer puts after a sorted member. -/
def token : Direction → String
  | ascending => " asc"
  | descending => " desc"

end Direction

end RowFilter
