import RowFilter.Term.Basic
import RowFilter.Vocabulary.Connective

/-!
# Predicates

A predicate is a condition on the rows of one owner: comparisons and subqueries under connectives,
or a plain truth value. A connective may lack its left side, as a negation does.

Two predicates agree if they are equal up to the fields that their member references carry.
-/

namespace RowFilter

mutual

/-- A condition on a row. -/
inductive Predicate where
  /-- Two predicates under a connective. -/
  | joined (left : Predicate) (op : Connective) (right : Predicate)
  /-- One predicate under a connective that has no left side. -/
  | solo (op : Connective) (right : Predicate)
  /-- A comparison of a term with a right side. -/
  | comparison (left : Term) (comparator : Comparator) (right : RightSide) (ignoreCase : Bool)
  /-- A condition on the rows of another entity that belong to the outer term. -/
  | subquery (outer : Term) (inner : Inner) (negated : Bool)
  /-- A plain truth value. -/
  | shortCircuit (b : Bool)

/-- Right side of a comparison. -/
inductive RightSide where
  | empty
  | operand (t : Term)
  | predicate (p : Predicate)
  | value (v : Value)

/-- What a subquery asks of the inner rows. -/
inductive Inner where
  /-- The inner rows refer to the outer term by a foreign key. -/
  | foreignKey (t : Term)
  /-- The inner rows satisfy a predicate. -/
  | predicate (p : Predicate)

end

deriving instance Repr for Predicate, RightSide, Inner

namespace Predicate

/-- Both predicates hold. -/
def and (p q : Predicate) : Predicate := .joined p .and q

/-- One of the predicates holds. -/
def or (p q : Predicate) : Predicate := .joined p .or q

/-- The predicate does not hold. -/
def negate (p : Predicate) : Predicate := .solo .not p

/-- The truth value of a predicate that is one. -/
def truth? : Predicate → Option Bool
  | .shortCircuit b => some b
  | _ => none

/-- Comparator of a subquery. -/
def subqueryComparator (negated : Bool) : Comparator := if negated then .notExists else .exists

/-- Owner of the leftmost member of a predicate. Of a comparison the left side and a term on the
right are searched, of a subquery the outer term. -/
def owner? : Predicate → Option String
  | .joined left _ right => left.owner?.or right.owner?
  | .solo _ right => right.owner?
  | .comparison left _ right _ =>
    left.owner?.or <| match right with
      | .operand t => t.owner?
      | _ => none
  | .subquery outer _ _ => outer.owner?
  | .shortCircuit _ => none

end Predicate

/-! ### Canonical text -/

mutual

/-- Canonical text of a predicate. -/
def Predicate.display : Predicate → String
  | .joined p op q => "(" ++ p.display ++ op.token ++ q.display ++ ")"
  | .solo op p => "(" ++ op.leadingToken ++ p.display ++ ")"
  | .comparison left comparator right ignoreCase =>
    "Compare(" ++ left.display ++ ", " ++ comparator.label ++ right.display
      ++ (if ignoreCase then ", ignore_case" else "") ++ ")"
  | .subquery outer inner negated =>
    (Predicate.subqueryComparator negated).label ++ "(" ++ outer.display ++ ", " ++ inner.display
      ++ ")"
  | .shortCircuit b => "ShortCircuit(" ++ toString b ++ ")"

/-- Canonical text of a right side, after a comma unless it is empty. -/
def RightSide.display : RightSide → String
  | .empty => ""
  | .operand t => ", " ++ t.display
  | .predicate p => ", " ++ p.display
  | .value v => ", " ++ v.display

/-- Canonical text of the inner side of a subquery. -/
def Inner.display : Inner → String
  | .foreignKey t => t.display
  | .predicate p => p.display

end

/-! ### Agreement -/

mutual

/-- Two predicates are equal up to the fields that member references carry. -/
def Predicate.agrees : Predicate → Predicate → Bool
  | .joined p op q, .joined p' op' q' => p.agrees p' && op == op' && q.agrees q'
  | .solo op p, .solo op' p' => op == op' && p.agrees p'
  | .comparison l c r i, .comparison l' c' r' i' =>
    l.agrees l' && c == c' && r.agrees r' && i == i'
  | .subquery o x n, .subquery o' x' n' => o.agrees o' && x.agrees x' && n == n'
  | .shortCircuit b, .shortCircuit b' => b == b'
  | _, _ => false

/-- Two right sides are equal up to the fields that member references carry. -/
def RightSide.agrees : RightSide → RightSide → Bool
  | .empty, .empty => true
  | .operand t, .operand t' => t.agrees t'
  | .predicate p, .predicate p' => p.agrees p'
  | .value v, .value v' => decide (v = v')
  | _, _ => false

/-- Two inner sides are equal up to the fields that member references carry. -/
def Inner.agrees : Inner → Inner → Bool
  | .foreignKey t, .foreignKey t' => t.agrees t'
  | .predicate p, .predicate p' => p.agrees p'
  | _, _ => false

end

mutual

/-- A predicate without the fields that its member references carry. -/
def Predicate.unresolved : Predicate → Predicate
  | .joined p op q => .joined p.unresolved op q.unresolved
  | .solo op p => .solo op p.unresolved
  | .comparison l c r i => .comparison l.unresolved c r.unresolved i
  | .subquery o x n => .subquery o.unresolved x.unresolved n
  | .shortCircuit b => .shortCircuit b

/-- A right side without the fields that its member references carry. -/
def RightSide.unresolved : RightSide → RightSide
  | .empty => .empty
  | .operand t => .operand t.unresolved
  | .predicate p => .predicate p.unresolved
  | .value v => .value v

/-- An inner side without the fields that its member references carry. -/
def Inner.unresolved : Inner → Inner
  | .foreignKey t => .foreignKey t.unresolved
  | .predicate p => .predicate p.unresolved

end

mutual

/-- Predicates agree exactly if they have the same unresolved form. -/
theorem Predicate.agrees_iff : ∀ p q : Predicate,
    p.agrees q = true ↔ p.unresolved = q.unresolved
  | .joined p op r, q => by
    cases q with
    | joined p' op' r' =>
      simp [Predicate.agrees, Predicate.unresolved, Predicate.agrees_iff p p',
        Predicate.agrees_iff r r', and_assoc]
    | _ => simp [Predicate.agrees, Predicate.unresolved]
  | .solo op p, q => by
    cases q with
    | solo op' p' =>
      simp [Predicate.agrees, Predicate.unresolved, Predicate.agrees_iff p p']
    | _ => simp [Predicate.agrees, Predicate.unresolved]
  | .comparison l c r i, q => by
    cases q with
    | comparison l' c' r' i' =>
      simp [Predicate.agrees, Predicate.unresolved, Term.agrees_iff l l',
        RightSide.agrees_iff r r', and_assoc]
    | _ => simp [Predicate.agrees, Predicate.unresolved]
  | .subquery o x n, q => by
    cases q with
    | subquery o' x' n' =>
      simp [Predicate.agrees, Predicate.unresolved, Term.agrees_iff o o',
        Inner.agrees_iff x x', and_assoc]
    | _ => simp [Predicate.agrees, Predicate.unresolved]
  | .shortCircuit b, q => by
    cases q <;> simp [Predicate.agrees, Predicate.unresolved]

/-- Right sides agree exactly if they have the same unresolved form. -/
theorem RightSide.agrees_iff : ∀ r s : RightSide,
    r.agrees s = true ↔ r.unresolved = s.unresolved
  | .empty, s => by
    cases s <;> simp [RightSide.agrees, RightSide.unresolved]
  | .operand t, s => by
    cases s with
    | operand t' => simp [RightSide.agrees, RightSide.unresolved, Term.agrees_iff t t']
    | _ => simp [RightSide.agrees, RightSide.unresolved]
  | .predicate p, s => by
    cases s with
    | predicate p' => simp [RightSide.agrees, RightSide.unresolved, Predicate.agrees_iff p p']
    | _ => simp [RightSide.agrees, RightSide.unresolved]
  | .value v, s => by
    cases s <;> simp [RightSide.agrees, RightSide.unresolved]

/-- Inner sides agree exactly if they have the same unresolved form. -/
theorem Inner.agrees_iff : ∀ x y : Inner, x.agrees y = true ↔ x.unresolved = y.unresolved
  | .foreignKey t, y => by
    cases y with
    | foreignKey t' => simp [Inner.agrees, Inner.unresolved, Term.agrees_iff t t']
    | predicate _ => simp [Inner.agrees, Inner.unresolved]
  | .predicate p, y => by
    cases y with
    | foreignKey _ => simp [Inner.agrees, Inner.unresolved]
    | predicate p' => simp [Inner.agrees, Inner.unresolved, Predicate.agrees_iff p p']

end

end RowFilter
