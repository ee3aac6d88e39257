import RowFilter.Proofs.Compilation.Equations
import RowFilter.Proofs.Compilation.Locality
import RowFilter.Proofs.WellFormed.Operands

/-!
# Operands do not depend on the trace

Only a subquery binds an entity, and a subquery is no operand: it never folds, and no connective
drops it. So an expression that compiles to an operand from one trace compiles to the same operand
from every trace. The same holds of a condition whose predicate has no subquery, and the two are
proved together.
-/

namespace RowFilter

/-- A subquery stands under the connectives of a predicate. -/
def Predicate.hasSubquery : Predicate → Bool
  | .joined left _ right => left.hasSubquery || right.hasSubquery
  | .solo _ right => right.hasSubquery
  | .subquery _ _ _ => true
  | .comparison _ _ _ _ | .shortCircuit _ => false

namespace Compilation

variable {α β : Type} {P : Error → Prop}

/-- A computation returns the same from every trace. -/
def Returns (x : Compilation α) (a : α) : Prop := ∀ t, outcome? x t = some a

theorem returns_pure (a : α) : Returns (pure a) a := fun _ => rfl

/-- What a local computation returns at all, it returns from every trace. -/
theorem Local.returns {x : Compilation α} {a : α} {t : Trace} (hx : Local P x)
    (h : outcome? x t = some a) : Returns x a :=
  fun t' => (hx.outcome?_eq t' t).trans h

/-- What follows a computation that always returns the same has the outcome of the whole. -/
theorem Returns.outcome?_bind {x : Compilation α} {f : α → Compilation β} {a : α} {o : Option β}
    (hx : Returns x a) (hf : ∀ t, outcome? (f a) t = o) (t : Trace) :
    outcome? (x >>= f) t = o := by
  have hreturned := hx t
  rw [outcome?] at hreturned
  rw [outcome?, run_bind]
  rcases hrun : x.run.run t with ⟨err | c, t'⟩ <;> rw [hrun] at hreturned <;> cases hreturned
  exact hf t'

theorem Returns.bind {x : Compilation α} {f : α → Compilation β} {a : α} {b : β}
    (hx : Returns x a) (hf : Returns (f a) b) : Returns (x >>= f) b :=
  hx.outcome?_bind hf

/-- A list of computations that each return the same from every trace does so too. -/
theorem returns_mapM {f : α → Compilation β} {as : List α} {bs : List β}
    (h : List.Forall₂ (fun a b => Returns (f a) b) as bs) : Returns (as.mapM f) bs := by
  induction h with
  | nil => exact returns_pure []
  | cons ha _ ih =>
    rw [List.mapM_cons]
    exact ha.bind (ih.bind (returns_pure _))

/-- No operator is asked for the negation of an operand. -/
theorem ne_not_of_unaryOf {shown : String} {op : UnaryOp} {operand o : Operand} {t : Trace}
    (h : outcome? (unaryOf shown op operand) t = some o) : op ≠ .not := by
  rintro rfl
  cases operand <;> cases h

/-- No connective drops a subquery. -/
theorem hasSubquery_of_combine {op : Connective} {p q : Option Predicate}
    (h : ∀ r ∈ combine op p q, r.hasSubquery = false) :
    (∀ r ∈ p, r.hasSubquery = false) ∧ ∀ r ∈ q, r.hasSubquery = false := by
  cases p with
  | none => exact ⟨nofun, h⟩
  | some p =>
    cases q with
    | none => exact ⟨h, nofun⟩
    | some q =>
      have hjoined := h _ rfl
      rw [Predicate.hasSubquery, Bool.or_eq_false_iff] at hjoined
      constructor
      · rintro r ⟨⟩
        exact hjoined.1
      · rintro r ⟨⟩
        exact hjoined.2

/-- A condition that is an operand has no subquery. -/
theorem hasSubquery_of_asOperand {shown : String} {q : Option Predicate} {o : Operand} {t : Trace}
    (h : outcome? (asOperand shown q) t = some o) : ∀ p ∈ q, p.hasSubquery = false := by
  rintro p rfl
  cases p <;> first | rfl | cases h

variable {config : Config}

/-- With a depth that is left, what compiles to an operand, or to a condition without subqueries,
does so from every trace. -/
structure SteadyAt (config : Config) (n : Nat) : Prop where
  /-- The operand of an expression. -/
  operand : ∀ {entity : Entity} {e : Expr} {t : Trace} {o : Operand},
    outcome? (lowerOperand config n entity e) t = some o →
      Returns (lowerOperand config n entity e) o
  /-- The condition of an expression. -/
  predicate : ∀ {entity : Entity} {e : Expr} {t : Trace} {q : Option Predicate},
    outcome? (lowerPredicate config n entity e) t = some q → (∀ p ∈ q, p.hasSubquery = false) →
      Returns (lowerPredicate config n entity e) q

/-! ### One level further down

Each case takes the compilation apart as it returned. Its parts return the same from every trace
already, and the operator that joins them is local.
-/

namespace SteadyAt

variable {n : Nat} {entity : Entity} {e target : Expr} {t t' : Trace}

theorem lowerOperand_succ {o : Operand} (ih : SteadyAt config n)
    (h : outcome? (lowerOperand config (n + 1) entity e) t = some o) :
    Returns (lowerOperand config (n + 1) entity e) o := by
  cases loweredOperand_of_outcome? h with
  | constant v =>
    rw [lowerOperand_constant]
    exact returns_pure _
  | field hu =>
    intro t'
    rw [← Expr.field, lowerOperand_field, outcome?_ofExcept_bind, hu]
    rfl
  | member htarget hu ho =>
    rw [lowerOperand_member _ _ _ htarget]
    have hcompiled := (compiledFrom_of_lowerOperand hu).compiled
    exact (ih.operand hu).bind ((local_memberOf hcompiled _).returns ho)
  | unary hu ho =>
    rw [lowerOperand_unary _ _ _ (ne_not_of_unaryOf ho)]
    exact (ih.operand hu).bind ((local_unaryOf _ _).returns ho)
  | arithmetic hop hl hr ho =>
    rw [lowerOperand_arithmetic _ _ _ hop]
    exact (ih.operand hl).bind ((ih.operand hr).bind ((local_arithmeticOf _ _ _).returns ho))
  | item hl hr ho =>
    rw [lowerOperand_item]
    exact (ih.operand hl).bind ((ih.operand hr).bind ((local_itemOf _ _).returns ho))
  | textFunction os hmethod hu hos ho =>
    rw [lowerOperand_textFunction _ _ _ hmethod]
    have hpairs := (forall₂_of_outcome?_mapM hos).imp fun _ _ ⟨_, harg⟩ => ih.operand harg
    have hargs : ∀ o ∈ os, Operand.Compiled entity o := by
      intro o ho
      obtain ⟨_, _, ho⟩ := exists_of_mem_outcome?_mapM hos ho
      exact (compiledFrom_of_lowerOperand ho).compiled
    have hcompiled := (compiledFrom_of_lowerOperand hu).compiled
    refine (ih.operand hu).bind ((returns_mapM hpairs).bind ?_)
    exact (local_textFunctionOf hcompiled hargs).returns ho
  | condition he hq ho =>
    rw [lowerOperand_condition _ _ _ he]
    exact (ih.predicate hq (hasSubquery_of_asOperand ho)).bind ((local_asOperand _).returns ho)

/-- A test for null, of a member that is read as an operand. -/
theorem nullTest {o : Operand} {q : Option Predicate} (ih : SteadyAt config n)
    (ho : outcome? (lowerOperand config n entity target) t = some o)
    (hq : outcome? (hasValue o) t' = some q) :
    Returns (lowerPredicate config (n + 1) entity (.member target "has_value")) q := by
  have hlocal := local_hasValue (P := fun _ => True) (compiledFrom_of_lowerOperand ho).compiled
  exact (ih.operand ho).bind (hlocal.returns hq)

theorem lowerPredicate_succ {q : Option Predicate} (ih : SteadyAt config n)
    (h : outcome? (lowerPredicate config (n + 1) entity e) t = some q)
    (hplain : ∀ p ∈ q, p.hasSubquery = false) :
    Returns (lowerPredicate config (n + 1) entity e) q := by
  cases loweredPredicate_of_outcome? h with
  | truth b =>
    rw [lowerPredicate_truth]
    exact returns_pure _
  | hasValue ho hq => exact ih.nullTest ho hq
  | @member target name _ _ _ _ ho hq =>
    -- the case does not say that the member is none that tests for null
    by_cases hname : name = "has_value"
    · rw [hname] at h ⊢
      rw [lowerPredicate_hasValue] at h
      obtain ⟨o, _, ho, hq⟩ := exists_of_outcome?_bind h
      exact ih.nullTest ho hq
    · rw [lowerPredicate_member _ _ _ hname]
      have hcompiled := (compiledFrom_of_lowerOperand ho).compiled
      exact (ih.operand ho).bind ((local_asCondition hcompiled).returns hq)
  | connected hop hp hq =>
    rw [lowerPredicate_connected _ _ _ hop]
    obtain ⟨hp', hq'⟩ := hasSubquery_of_combine hplain
    exact (ih.predicate hp hp').bind ((ih.predicate hq hq').bind (returns_pure _))
  | not hp =>
    rw [lowerPredicate_not]
    refine (ih.predicate hp fun r hr => ?_).bind (returns_pure _)
    exact hplain r.negate (Option.mem_map_of_mem _ hr)
  | comparison hop hl hr hq =>
    rw [lowerPredicate_comparison _ _ _ hop]
    have hordering := BinaryOp.isOrdering_of_comparator? hop
    refine (ih.operand hl).bind ((ih.operand hr).bind ?_)
    exact (local_compareOperands hordering false _ _).returns hq
  | equals hcall hargs hl hr hq =>
    rw [lowerPredicate_of_equals _ _ _ hcall hargs]
    exact (ih.operand hl).bind ((ih.operand hr).bind ((local_compareOperands rfl _ _ _).returns hq))
  | nullSearch hcall hargs hkind ha =>
    rw [lowerPredicate_of_search _ _ _ hcall hargs hkind]
    exact (ih.operand ha).bind (returns_pure none)
  | search hcall hargs hkind ha hr hq =>
    rw [lowerPredicate_of_search _ _ _ hcall hargs hkind] at h ⊢
    refine (ih.operand ha).bind ?_
    split
    next hnull =>
      -- the search has ended at its argument, and nothing has come out
      obtain ⟨a', _, ha', h⟩ := exists_of_outcome?_bind h
      rw [Option.some.inj (ha'.symm.trans (ih.operand ha t)), if_pos hnull] at h
      cases h
      exact returns_pure none
    next =>
      have hcompiled := (compiledFrom_of_lowerOperand hr).compiled
      exact (ih.operand hr).bind ((local_searchOperands hcompiled).returns hq)
  -- a subquery binds an entity, which may clash with what the trace has bound
  | keySubquery ho hkey => cases hplain _ rfl
  | filterSubquery condition ho hkey hlink hcondition => cases hplain _ rfl

end SteadyAt

/-- Operands, and conditions without subqueries, do not depend on the trace. -/
theorem steadyAt (config : Config) (n : Nat) : SteadyAt config n := by
  induction n with
  | zero => exact ⟨nofun, nofun⟩
  | succ n ih => exact ⟨ih.lowerOperand_succ, ih.lowerPredicate_succ⟩

end Compilation

end RowFilter
