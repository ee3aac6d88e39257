import RowFilter.Predicate.Basic

/-!
# Projection of trees

A projection turns a tree into an output of the caller's choice, one method for each kind of node.
The children of a node are projected before it, in reading order. A plain value beside a sign is
projected as an assigned literal.

`Projection.listing` is the projection that keeps everything: its output is the term of its own
calls, and it lists the methods in the order in which they are called.
-/

namespace RowFilter

/-- The methods of a projection into `α`, with effects in `m`. -/
structure Projection (m : Type → Type) (α : Type) where
  /-- A member. -/
  member : MemberRef → m α
  /-- A literal, assigned or not. -/
  literal : Value → Bool → m α
  /-- Two operands joined by a sign. -/
  binary : Sign → α → α → m α
  /-- A sign applied to a term, with arguments. -/
  unary : Sign → α → List α → m α
  /-- Predicates under a connective, of which the left one may be missing. -/
  logical : Connective → Option α → α → m α
  /-- A comparison, whose right side may be missing. -/
  compare : α → Comparator → Option α → Bool → m α
  /-- A subquery. -/
  subquery : Comparator → α → α → m α
  /-- A plain truth value. -/
  shortCircuit : Bool → m α

section

variable {m : Type → Type} [Monad m] {α : Type}

mutual

/-- Project a term. -/
def Term.project (π : Projection m α) : Term → m α
  | .member ref => π.member ref
  | .literal v assigned => π.literal v assigned
  | .binary l s r => do
    let a ← l.project π
    let b ← r.project π
    π.binary s a b
  | .unary s t args => do
    let a ← t.project π
    let bs ← Term.projectArgs π args
    π.unary s a bs

/-- Project an operand. -/
def Operand.project (π : Projection m α) : Operand → m α
  | .term t => t.project π
  | .value v => π.literal v true

/-- Project arguments. -/
def Term.projectArgs (π : Projection m α) : List Term → m (List α)
  | [] => pure []
  | t :: ts => do
    let a ← t.project π
    let as ← Term.projectArgs π ts
    return a :: as

end

mutual

/-- Project a predicate. -/
def Predicate.project (π : Projection m α) : Predicate → m α
  | .joined p op q => do
    let a ← p.project π
    let b ← q.project π
    π.logical op (some a) b
  | .solo op p => do
    let a ← p.project π
    π.logical op none a
  | .comparison l c r i => do
    let a ← l.project π
    let b ← r.project π
    π.compare a c b i
  | .subquery o x n => do
    let a ← o.project π
    let b ← x.project π
    π.subquery (Predicate.subqueryComparator n) a b
  | .shortCircuit b => π.shortCircuit b

/-- Project a right side, if there is one. -/
def RightSide.project (π : Projection m α) : RightSide → m (Option α)
  | .empty => pure none
  | .operand t => some <$> t.project π
  | .predicate p => some <$> p.project π
  | .value v => some <$> π.literal v true

/-- Project the inner side of a subquery. -/
def Inner.project (π : Projection m α) : Inner → m α
  | .foreignKey t => t.project π
  | .predicate p => p.project π

end

end

/-- The term of the calls of a projection. -/
inductive Projected where
  | member (owner name : String)
  | literal (value : Value) (assigned : Bool)
  | binary (sign : Sign) (left right : Projected)
  | unary (sign : Sign) (operand : Projected) (args : List Projected)
  | logical (op : Connective) (left : Option Projected) (right : Projected)
  | compare (left : Projected) (comparator : Comparator) (right : Option Projected)
      (ignoreCase : Bool)
  | subquery (comparator : Comparator) (outer inner : Projected)
  | shortCircuit (b : Bool)

/-- A method of a projection. -/
inductive ProjectionMethod where
  | member
  | literal
  | binary
  | unary
  | logical
  | compare
  | subquery
  | shortCircuit
deriving DecidableEq, Repr

namespace ProjectionMethod

/-- Name of a method. -/
def label : ProjectionMethod → String
  | member => "member"
  | literal => "literal"
  | binary => "binary"
  | unary => "unary"
  | logical => "logical"
  | compare => "compare"
  | subquery => "exists"
  | shortCircuit => "short_circuit"

end ProjectionMethod

namespace Projection

/-- Answer a term after listing the method that made it. -/
def listed (method : ProjectionMethod) (output : Projected) :
    StateM (List ProjectionMethod) Projected := do
  modify (· ++ [method])
  return output

/-- The projection that lists its calls and answers their term. -/
def listing : Projection (StateM (List ProjectionMethod)) Projected where
  member ref := listed .member (.member ref.owner ref.name)
  literal v assigned := listed .literal (.literal v assigned)
  binary s l r := listed .binary (.binary s l r)
  unary s t args := listed .unary (.unary s t args)
  logical op l r := listed .logical (.logical op l r)
  compare l c r i := listed .compare (.compare l c r i)
  subquery c o x := listed .subquery (.subquery c o x)
  shortCircuit b := listed .shortCircuit (.shortCircuit b)

end Projection

end RowFilter
