import RowFilter.Proofs.Compilation.Locality
import RowFilter.Proofs.WellFormed.Operands

/-!
# One level of two compilations

Two compilations of one expression, under configurations that differ in the bound on nesting and
with different depths left, do the same at their own level. A relation between computations that is
kept in sequences therefore holds of the whole if it holds of the parts: `Sequential.lowerPredicate`
and `Sequential.lowerOperand` say so for any such relation, and are the step of every induction that
compares two compilations of one expression.

A part is compiled as a condition or as a value. An expression itself may be compiled a second time
at the same level, a value as a condition and a condition as a value, but never in both ways.
-/

namespace RowFilter

/-! ### Parts -/

/-- A measure of lists that takes the greater of the head and the rest bounds each item. -/
theorem le_of_mem_of_cons_eq_max {α : Type} {f : α → Nat} {g : List α → Nat}
    (hg : ∀ a as, g (a :: as) = max (f a) (g as)) {a : α} {as : List α} (h : a ∈ as) :
    f a ≤ g as := by
  induction as with
  | nil => cases h
  | cons b as ih =>
    rw [hg]
    rcases List.mem_cons.mp h with rfl | h
    · exact Nat.le_max_left _ _
    · exact Nat.le_trans (ih h) (Nat.le_max_right _ _)

/-- The expressions that an expression is made of. -/
def Expr.parts : Expr → List Expr
  | .row | .constant _ | .nonFinite _ => []
  | .member target _ => [target]
  | .unary _ operand => [operand]
  | .binary _ left right => [left, right]
  | .call target _ args => target :: args
  | .staticCall _ args => args
  | .existsIn outer _ _ _ => [outer]
  | .existsWhere outer _ _ filter _ => [outer, filter]

/-- The detail entity of an expression that is a subquery. -/
def Expr.detail? : Expr → Option Entity
  | .existsIn _ detail _ _ | .existsWhere _ detail _ _ _ => some detail
  | _ => none

namespace Compilation

/-- The receiver of a call is one of its parts. -/
theorem mem_parts_of_receiver? {e receiver : Expr} {method : String} {args : List Expr}
    (h : receiver? e = some (receiver, method, args)) : receiver ∈ e.parts := by
  unfold receiver? at h
  split at h <;> cases h <;> exact List.mem_cons_self

/-- The argument of a call is one of its parts. -/
theorem mem_parts_of_soleArgument? {e receiver arg : Expr} {method : String} {args : List Expr}
    {ignoreCase : Bool} (h : receiver? e = some (receiver, method, args))
    (hargs : soleArgument? args = some (arg, ignoreCase)) : arg ∈ e.parts := by
  have harg : arg ∈ args := by
    unfold soleArgument? at hargs
    split at hargs <;> cases hargs <;> exact List.mem_cons_self
  unfold receiver? at h
  split at h <;> cases h <;> exact List.mem_cons_of_mem _ harg

/-! ### Related computations -/

/-- A relation between computations that holds of each local computation and itself, with errors
about an expression given by its canonical text, of each binding of a named entity and itself, and
that is kept in sequences. -/
structure Sequential (shown : String) (named : Entity → Prop)
    (R : ∀ α : Type, Compilation α → Compilation α → Prop) : Prop where
  /-- Local computations are related to themselves. -/
  own {α : Type} {x : Compilation α} : Local (Error.ArisesIn shown) x → R α x x
  /-- So are those that bind a named entity. -/
  register (entity : Entity) : named entity → R Unit (register entity) (register entity)
  /-- Related computations that go on in related ways, after whatever the first can return, are
  related. -/
  bind {α β : Type} {x y : Compilation α} {f g : α → Compilation β} :
    R α x y → (∀ a t, outcome? x t = some a → R β (f a) (g a)) → R β (x >>= f) (y >>= g)

namespace Sequential

variable {R : ∀ α : Type, Compilation α → Compilation α → Prop} {shown : String}
  {named : Entity → Prop}

section

variable (hR : Sequential shown named R)

include hR

/-- Local computations may follow related ones. -/
theorem bind_own {α β : Type} {x y : Compilation α} {f : α → Compilation β} (hxy : R α x y)
    (hf : ∀ a t, outcome? x t = some a → Local (Error.ArisesIn shown) (f a)) :
    R β (x >>= f) (y >>= f) :=
  hR.bind hxy fun a t ha => hR.own (hf a t ha)

/-- Lists of related computations are related. -/
theorem mapM {α β : Type} {f g : α → Compilation β} {as : List α}
    (hfg : ∀ a ∈ as, R β (f a) (g a)) : R (List β) (as.mapM f) (as.mapM g) := by
  induction as with
  | nil => exact hR.own (local_pure [])
  | cons a as ih =>
    rw [List.mapM_cons, List.mapM_cons]
    refine hR.bind (hfg a List.mem_cons_self) fun b _ _ => ?_
    exact hR.bind_own (ih fun c hc => hfg c (List.mem_cons_of_mem a hc)) fun _ _ _ => local_pure _

end

variable {config : Config} {d n m : Nat} {entity : Entity} {e : Expr}
variable (hR : Sequential e.display named R)

include hR

/-- Compilations of an expression as a value are related if those of its parts are, and those of a
condition as a condition. -/
theorem lowerOperand
    (hvalue : ∀ c ∈ e.parts, R Operand (lowerOperand config n entity c)
      (lowerOperand { config with maxDepth := d } m entity c))
    (hself : e.isPredicate = true → R (Option Predicate) (lowerPredicate config n entity e)
      (lowerPredicate { config with maxDepth := d } m entity e)) :
    R Operand (lowerOperand config (n + 1) entity e)
      (lowerOperand { config with maxDepth := d } (m + 1) entity e) := by
  -- whatever has no rule as a value is compiled as a condition, if it is one
  have hcondition : R Operand
      (if e.isPredicate then Compilation.lowerPredicate config n entity e >>= asOperand e.display
        else throw (.unsupportedShape e.display))
      (if e.isPredicate then Compilation.lowerPredicate { config with maxDepth := d } m entity e
        >>= asOperand e.display else throw (.unsupportedShape e.display)) := by
    split
    next he => exact hR.bind_own (hself he) fun _ _ _ => local_asOperand _
    next => exact hR.own local_unsupported
  unfold Compilation.lowerOperand
  dsimp only
  split
  next v => exact hR.own (local_pure _)
  next => exact hR.own (local_throw trivial)
  next name =>
    refine hR.own ((local_ofExcept fun _ => Term.arisesIn_of_ofEntity).bind fun _ => ?_)
    exact local_pure _
  next target name _ =>
    refine hR.bind_own (hvalue target List.mem_cons_self) fun u t hu => ?_
    exact local_memberOf (compiledFrom_of_lowerOperand hu).compiled name
  next => exact hcondition
  next op operand _ =>
    exact hR.bind_own (hvalue operand List.mem_cons_self) fun u _ _ => local_unaryOf op u
  next op left right =>
    have hleft := hvalue left List.mem_cons_self
    have hright := hvalue right (List.mem_cons_of_mem _ List.mem_cons_self)
    split
    next sign _ =>
      refine hR.bind hleft fun l _ _ => hR.bind_own hright fun r _ _ => ?_
      exact local_arithmeticOf l sign r
    next =>
      split
      next =>
        exact hR.bind hleft fun l _ _ => hR.bind_own hright fun r _ _ => local_itemOf l r
      next => exact hcondition
  next target method args =>
    split
    next sign _ =>
      refine hR.bind (hvalue target List.mem_cons_self) fun u t hu => ?_
      have hargs := hR.mapM fun arg harg => hvalue arg (List.mem_cons_of_mem target harg)
      refine hR.bind_own hargs fun os t' hos => ?_
      refine local_textFunctionOf (compiledFrom_of_lowerOperand hu).compiled fun o ho => ?_
      obtain ⟨_, _, ho⟩ := exists_of_mem_outcome?_mapM hos ho
      exact (compiledFrom_of_lowerOperand ho).compiled
    next => exact hcondition
  next => exact hcondition
  next => exact hcondition
  next => exact hcondition
  next => exact hR.own local_unsupported

/-- Compilations of a call as a condition are related if those of its receiver and its argument as
values are. -/
theorem methodCall {receiver : Expr} {method : String} {args : List Expr}
    (hcall : receiver? e = some (receiver, method, args))
    (hvalue : ∀ c ∈ e.parts, R Operand (Compilation.lowerOperand config n entity c)
      (Compilation.lowerOperand { config with maxDepth := d } m entity c)) :
    R (Option Predicate) (Compilation.lowerPredicate config (n + 1) entity e)
      (Compilation.lowerPredicate { config with maxDepth := d } (m + 1) entity e) := by
  have hreceiver := hvalue receiver (mem_parts_of_receiver? hcall)
  cases e <;> try (cases hcall; done)
  -- a call with a target and one without have the same equation
  all_goals
    simp only [Compilation.lowerPredicate, hcall]
    split
    next => exact hR.own local_unsupported
    next arg ignoreCase hargs =>
      have harg := hvalue arg (mem_parts_of_soleArgument? hcall hargs)
      split
      next =>
        refine hR.bind hreceiver fun l _ _ => hR.bind_own harg fun r _ _ => ?_
        exact local_compareOperands rfl ignoreCase l r
      next =>
        split
        next => exact hR.own local_unsupported
        next kind _ =>
          refine hR.bind harg fun a _ _ => ?_
          split
          next => exact hR.own (local_pure none)
          next =>
            refine hR.bind_own hreceiver fun r t hr => ?_
            exact local_searchOperands (compiledFrom_of_lowerOperand hr).compiled

/-- Compilations of an expression as a condition are related if those of its parts are, as
conditions and as values, and those of a value as a value. A subquery must be about a named
entity. -/
theorem lowerPredicate
    (hdetail : ∀ detail ∈ e.detail?, named detail)
    (hcondition : ∀ c ∈ e.parts, ∀ entity, R (Option Predicate)
      (Compilation.lowerPredicate config n entity c)
      (Compilation.lowerPredicate { config with maxDepth := d } m entity c))
    (hvalue : ∀ c ∈ e.parts, R Operand (Compilation.lowerOperand config n entity c)
      (Compilation.lowerOperand { config with maxDepth := d } m entity c))
    (hself : e.isPredicate = false → R Operand (Compilation.lowerOperand config n entity e)
      (Compilation.lowerOperand { config with maxDepth := d } m entity e)) :
    R (Option Predicate) (Compilation.lowerPredicate config (n + 1) entity e)
      (Compilation.lowerPredicate { config with maxDepth := d } (m + 1) entity e) := by
  -- calls come first, as two constructors share their rules
  cases hcall : receiver? e with
  | some call => exact hR.methodCall hcall hvalue
  | none =>
    unfold Compilation.lowerPredicate
    split
    next b => exact hR.own (local_pure _)
    next target name =>
      split
      next =>
        refine hR.bind_own (hvalue target List.mem_cons_self) fun o t ho => ?_
        exact local_hasValue (compiledFrom_of_lowerOperand ho).compiled
      next =>
        refine hR.bind_own (hself rfl) fun o t ho => ?_
        exact local_asCondition (compiledFrom_of_lowerOperand ho).compiled
    next left right =>
      refine hR.bind (hcondition left List.mem_cons_self entity) fun p _ _ => ?_
      refine hR.bind_own (hcondition right ?_ entity) fun q _ _ => local_pure _
      exact List.mem_cons_of_mem _ List.mem_cons_self
    next left right =>
      refine hR.bind (hcondition left List.mem_cons_self entity) fun p _ _ => ?_
      refine hR.bind_own (hcondition right ?_ entity) fun q _ _ => local_pure _
      exact List.mem_cons_of_mem _ List.mem_cons_self
    next operand =>
      exact hR.bind_own (hcondition operand List.mem_cons_self entity) fun _ _ _ => local_pure _
    next op left right _ _ =>
      split
      next comparator hop =>
        refine hR.bind (hvalue left List.mem_cons_self) fun l _ _ => ?_
        refine hR.bind_own (hvalue right ?_) fun r _ _ => ?_
        · exact List.mem_cons_of_mem _ List.mem_cons_self
        · exact local_compareOperands (BinaryOp.isOrdering_of_comparator? hop) false l r
      next => exact hR.own local_unsupported
    next =>
      rw [hcall]
      exact hR.own local_unsupported
    next =>
      rw [hcall]
      exact hR.own local_unsupported
    next outer detail foreignKey negated =>
      refine hR.bind (hR.register detail (hdetail detail rfl)) fun _ _ _ => ?_
      refine hR.bind_own (hvalue outer List.mem_cons_self) fun o _ _ => ?_
      exact (local_ofExcept fun _ => Term.arisesIn_of_ofEntity).bind fun _ => local_pure _
    next outer detail foreignKey filter negated =>
      refine hR.bind (hR.register detail (hdetail detail rfl)) fun _ _ _ => ?_
      refine hR.bind (hvalue outer List.mem_cons_self) fun o _ _ => ?_
      refine hR.bind (hR.own (local_ofExcept fun _ => Term.arisesIn_of_ofEntity))
        fun key _ _ => ?_
      refine hR.bind (hR.own (local_compared (Comparison.exists_withOperand key rfl _ _)))
        fun link _ _ => ?_
      refine hR.bind_own (hcondition filter ?_ detail) fun condition _ _ => local_pure _
      exact List.mem_cons_of_mem _ List.mem_cons_self
    next => exact hR.own local_unsupported

end Sequential

end Compilation

end RowFilter
