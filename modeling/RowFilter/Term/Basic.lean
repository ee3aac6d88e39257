import RowFilter.Term.Member

/-!
# Terms and operands

A term is a value to be computed from one row: a member, a literal, two operands joined by a sign,
or a sign applied to a term with arguments. An operand is a term or a plain value.

Two terms agree if they are equal up to the fields that their member references carry; `agrees` is
the test and `unresolved` the common form.
-/

namespace RowFilter

mutual

/-- A value to be computed from one row. -/
inductive Term where
  /-- The value of a member. -/
  | member (ref : MemberRef)
  /-- A literal, which counts as null unless it is assigned. -/
  | literal (value : Value) (assigned : Bool)
  /-- Two operands joined by a sign. -/
  | binary (left : Operand) (sign : Sign) (right : Operand)
  /-- A sign applied to a term, with arguments. -/
  | unary (sign : Sign) (operand : Term) (args : List Term)

/-- A term or a plain value. -/
inductive Operand where
  | term (t : Term)
  | value (v : Value)

end

deriving instance Repr for Term, Operand

namespace Term

/-- The literal of a value. -/
def ofValue (v : Value) : Term := .literal v true

/-- The literal without a value. -/
def unset : Term := .literal .null false

/-- The reference of a term that is a member. -/
def member? : Term → Option MemberRef
  | .member ref => some ref
  | _ => none

/-- The term is a literal, assigned or not. -/
def isLiteral : Term → Bool
  | .literal _ _ => true
  | _ => false

/-- Sign at the root of a term. -/
def sign : Term → Sign
  | .member _ | .literal _ _ => .absent
  | .binary _ s _ => s
  | .unary s _ _ => s

end Term

namespace Operand

/-- The term of an operand that is one. -/
def term? : Operand → Option Term
  | .term t => some t
  | .value _ => none

/-- The value of an operand that is one. -/
def value? : Operand → Option Value
  | .value v => some v
  | .term _ => none

/-- An operand as a term; a plain value becomes its literal. -/
def toTerm : Operand → Term
  | .term t => t
  | .value v => .ofValue v

end Operand

/-! ### Canonical text -/

mutual

/-- Canonical text of a term. -/
def Term.display : Term → String
  | .member ref => ref.text
  | .literal v assigned => if assigned then v.display else "Unset"
  | .binary l s r => "(" ++ l.display ++ " " ++ s.token ++ " " ++ r.display ++ ")"
  | .unary s t args => s.label ++ "(" ++ t.display ++ Term.displayArgs args ++ ")"

/-- Canonical text of an operand. -/
def Operand.display : Operand → String
  | .term t => t.display
  | .value v => v.display

/-- Canonical text of arguments, each after a comma. -/
def Term.displayArgs : List Term → String
  | [] => ""
  | t :: ts => ", " ++ t.display ++ Term.displayArgs ts

end

/-! ### Ownership -/

mutual

/-- Owner of the leftmost member of a term; arguments are not searched. -/
def Term.owner? : Term → Option String
  | .member ref => some ref.owner
  | .literal _ _ => none
  | .binary l _ r => l.owner?.or r.owner?
  | .unary _ t _ => t.owner?

/-- Owner of the leftmost member of an operand. -/
def Operand.owner? : Operand → Option String
  | .term t => t.owner?
  | .value _ => none

end

/-! ### Agreement -/

mutual

/-- Two terms are equal up to the fields that member references carry. -/
def Term.agrees : Term → Term → Bool
  | .member a, .member b => a.agrees b
  | .literal v p, .literal w q => decide (v = w) && p == q
  | .binary l s r, .binary l' s' r' => l.agrees l' && s == s' && r.agrees r'
  | .unary s t args, .unary s' t' args' => s == s' && t.agrees t' && Term.agreeAll args args'
  | _, _ => false

/-- Two operands are equal up to the fields that member references carry. -/
def Operand.agrees : Operand → Operand → Bool
  | .term t, .term t' => t.agrees t'
  | .value v, .value w => decide (v = w)
  | _, _ => false

/-- Two lists of terms agree item by item. -/
def Term.agreeAll : List Term → List Term → Bool
  | [], [] => true
  | t :: ts, t' :: ts' => t.agrees t' && Term.agreeAll ts ts'
  | _, _ => false

end

mutual

/-- A term without the fields that its member references carry. -/
def Term.unresolved : Term → Term
  | .member ref => .member ref.unresolved
  | .literal v assigned => .literal v assigned
  | .binary l s r => .binary l.unresolved s r.unresolved
  | .unary s t args => .unary s t.unresolved (Term.unresolvedAll args)

/-- An operand without the fields that its member references carry. -/
def Operand.unresolved : Operand → Operand
  | .term t => .term t.unresolved
  | .value v => .value v

/-- Terms without the fields that their member references carry. -/
def Term.unresolvedAll : List Term → List Term
  | [] => []
  | t :: ts => t.unresolved :: Term.unresolvedAll ts

end

mutual

/-- Terms agree exactly if they have the same unresolved form. -/
theorem Term.agrees_iff : ∀ t u : Term, t.agrees u = true ↔ t.unresolved = u.unresolved
  | .member a, u => by
    cases u <;> simp [Term.agrees, Term.unresolved, MemberRef.agrees_iff]
  | .literal v p, u => by
    cases u <;> simp [Term.agrees, Term.unresolved]
  | .binary l s r, u => by
    cases u with
    | binary l' s' r' =>
      simp [Term.agrees, Term.unresolved, Operand.agrees_iff l l', Operand.agrees_iff r r',
        and_assoc]
    | _ => simp [Term.agrees, Term.unresolved]
  | .unary s t args, u => by
    cases u with
    | unary s' t' args' =>
      simp [Term.agrees, Term.unresolved, Term.agrees_iff t t', Term.agreeAll_iff args args',
        and_assoc]
    | _ => simp [Term.agrees, Term.unresolved]

/-- Operands agree exactly if they have the same unresolved form. -/
theorem Operand.agrees_iff : ∀ a b : Operand, a.agrees b = true ↔ a.unresolved = b.unresolved
  | .term t, b => by
    cases b with
    | term t' => simp [Operand.agrees, Operand.unresolved, Term.agrees_iff t t']
    | value _ => simp [Operand.agrees, Operand.unresolved]
  | .value v, b => by
    cases b <;> simp [Operand.agrees, Operand.unresolved]

/-- Lists of terms agree exactly if they have the same unresolved form. -/
theorem Term.agreeAll_iff : ∀ ts us : List Term,
    Term.agreeAll ts us = true ↔ Term.unresolvedAll ts = Term.unresolvedAll us
  | [], us => by
    cases us <;> simp [Term.agreeAll, Term.unresolvedAll]
  | t :: ts, us => by
    cases us with
    | nil => simp [Term.agreeAll, Term.unresolvedAll]
    | cons u us =>
      simp [Term.agreeAll, Term.unresolvedAll, Term.agrees_iff t u, Term.agreeAll_iff ts us]

end

end RowFilter
