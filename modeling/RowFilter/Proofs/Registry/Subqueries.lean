import Mathlib.Logic.Relation
import RowFilter.Proofs.Compilation.Equations
import RowFilter.Proofs.Registry.Growth

/-!
# Compiled subqueries are bound

A compilation calls itself on the parts of an expression. `Task` is such a call, `Subtask` says
which calls one call makes in the course of its own if it is to succeed, and a subquery is compiled
on the way if a chain of calls reaches it. After a successful compilation the entity of every
subquery that was compiled on the way is bound (`find?_of_overEntity`).

Not every subquery of an expression is compiled: a search ends at an argument that is null, and the
receiver of the search is left alone.
-/

namespace RowFilter

namespace Compilation

variable {α β : Type} {config : Config} {detail : Entity}

/-! ### Computations that bind an entity -/

/-- Whenever a computation succeeds, an entity is bound to its path. -/
def Binds (detail : Entity) (x : Compilation α) : Prop :=
  ∀ t a, outcome? x t = some a → (x.run.run t).2.registry.find? detail.path = some detail

/-- What the first part of a sequence has bound stays bound. -/
theorem Binds.bind_left {x : Compilation α} {f : α → Compilation β} (hx : Binds detail x)
    (hf : ∀ a t, outcome? x t = some a → Grows (f a)) : Binds detail (x >>= f) := by
  intro t b hb
  obtain ⟨a, -, ha, -⟩ := exists_of_outcome?_bind hb
  have hbound := hx t a ha
  have hgrows := hf a t ha
  rw [outcome?] at ha
  rw [run_bind]
  rcases hrun : x.run.run t with ⟨err | a', t'⟩ <;> rw [hrun] at ha hbound <;> cases ha
  exact hgrows t' _ _ hbound

/-- What the rest of a sequence binds is bound after the whole. -/
theorem Binds.bind_right {x : Compilation α} {f : α → Compilation β}
    (hf : ∀ a t, outcome? x t = some a → Binds detail (f a)) : Binds detail (x >>= f) := by
  intro t b hb
  rw [outcome?, run_bind] at hb
  rw [run_bind]
  rcases hrun : x.run.run t with ⟨err | a, t'⟩ <;> rw [hrun] at hb
  · cases hb
  · exact hf a t (by rw [outcome?, hrun]; rfl) t' b hb

/-- A list of computations binds what one of them binds. -/
theorem Binds.mapM {f : α → Compilation β} (hgrows : ∀ a, Grows (f a)) {as : List α} {a : α}
    (ha : a ∈ as) (hf : Binds detail (f a)) : Binds detail (as.mapM f) := by
  induction as with
  | nil => cases ha
  | cons b as ih =>
    rw [List.mapM_cons]
    rcases List.mem_cons.mp ha with rfl | ha
    · exact hf.bind_left fun _ _ _ => (grows_mapM hgrows as).bind fun _ _ _ => grows_pure _
    · exact .bind_right fun _ _ _ => (ih ha).bind_left fun _ _ _ => grows_pure _

theorem binds_register (detail : Entity) : Binds detail (register detail) := by
  intro t a h
  rw [outcome?, run_register] at h
  rw [run_register]
  cases hregister : t.registry.register detail with
  | ok registry => exact (Registry.extends_of_register hregister).2
  | error err =>
    rw [hregister] at h
    cases h

/-! ### Calls -/

/-- A call of the compilation: an expression as a condition or as a value, over an entity, with the
depth that is left. -/
inductive Task where
  | condition (depth : Nat) (entity : Entity) (e : Expr)
  | value (depth : Nat) (entity : Entity) (e : Expr)

/-- The calls that a call makes, one for each place where the compilation descends. -/
inductive Subtask (config : Config) : Task → Task → Prop
  /-- The target of a test for null. -/
  | nullTest (n : Nat) (entity : Entity) (target : Expr) :
      Subtask config (.condition (n + 1) entity (.member target "has_value"))
        (.value n entity target)
  /-- Any other member as a value. -/
  | member (n : Nat) (entity : Entity) (target : Expr) {name : String}
      (hname : name ≠ "has_value") :
      Subtask config (.condition (n + 1) entity (.member target name))
        (.value n entity (.member target name))
  /-- A side of a connective. -/
  | connected (n : Nat) (entity : Entity) {op : BinaryOp} {left right c : Expr}
      (hop : op.isLogical = true) (hc : c = left ∨ c = right) :
      Subtask config (.condition (n + 1) entity (.binary op left right)) (.condition n entity c)
  /-- What is negated. -/
  | not (n : Nat) (entity : Entity) (operand : Expr) :
      Subtask config (.condition (n + 1) entity (.unary .not operand))
        (.condition n entity operand)
  /-- A side of a comparison. -/
  | compared (n : Nat) (entity : Entity) {op : BinaryOp} {comparator : Comparator}
      {left right c : Expr} (hop : op.comparator? = some comparator) (hc : c = left ∨ c = right) :
      Subtask config (.condition (n + 1) entity (.binary op left right)) (.value n entity c)
  /-- The receiver or the argument of an equality. -/
  | equals (n : Nat) (entity : Entity) {e receiver arg c : Expr} {args : List Expr}
      {ignoreCase : Bool} (hcall : receiver? e = some (receiver, "equals", args))
      (hargs : soleArgument? args = some (arg, ignoreCase)) (hc : c = receiver ∨ c = arg) :
      Subtask config (.condition (n + 1) entity e) (.value n entity c)
  /-- The argument of a search. -/
  | searchArgument (n : Nat) (entity : Entity) {e receiver arg : Expr} {method : String}
      {args : List Expr} {ignoreCase : Bool} {kind : PatternKind}
      (hcall : receiver? e = some (receiver, method, args))
      (hargs : soleArgument? args = some (arg, ignoreCase))
      (hkind : PatternKind.ofMethod? method = some kind) :
      Subtask config (.condition (n + 1) entity e) (.value n entity arg)
  /-- The receiver of a search whose argument is not null. -/
  | searchReceiver (n : Nat) (entity : Entity) {e receiver arg : Expr} {method : String}
      {args : List Expr} {ignoreCase : Bool} {kind : PatternKind}
      (hcall : receiver? e = some (receiver, method, args))
      (hargs : soleArgument? args = some (arg, ignoreCase))
      (hkind : PatternKind.ofMethod? method = some kind)
      (hnull : ∀ t, outcome? (lowerOperand config n entity arg) t ≠ some (.value .null)) :
      Subtask config (.condition (n + 1) entity e) (.value n entity receiver)
  /-- The outer side of a subquery by a foreign key. -/
  | keyOuter (n : Nat) (entity : Entity) (outer : Expr) (detail : Entity) (foreignKey : String)
      (negated : Bool) :
      Subtask config (.condition (n + 1) entity (.existsIn outer detail foreignKey negated))
        (.value n entity outer)
  /-- The outer side of a subquery by a filter. -/
  | filterOuter (n : Nat) (entity : Entity) (outer : Expr) (detail : Entity) (foreignKey : String)
      (filter : Expr) (negated : Bool) :
      Subtask config
        (.condition (n + 1) entity (.existsWhere outer detail foreignKey filter negated))
        (.value n entity outer)
  /-- The filter of a subquery, over the other entity. -/
  | filter (n : Nat) (entity : Entity) (outer : Expr) (detail : Entity) (foreignKey : String)
      (filter : Expr) (negated : Bool) :
      Subtask config
        (.condition (n + 1) entity (.existsWhere outer detail foreignKey filter negated))
        (.condition n detail filter)
  /-- The computed target of a member. -/
  | target (n : Nat) (entity : Entity) {target : Expr} (htarget : target ≠ .row) (name : String) :
      Subtask config (.value (n + 1) entity (.member target name)) (.value n entity target)
  /-- The operand of an operator. -/
  | operand (n : Nat) (entity : Entity) {op : UnaryOp} (hop : op ≠ .not) (operand : Expr) :
      Subtask config (.value (n + 1) entity (.unary op operand)) (.value n entity operand)
  /-- A side of arithmetic. -/
  | arithmetic (n : Nat) (entity : Entity) {op : BinaryOp} {sign : Sign} {left right c : Expr}
      (hop : op.sign? = some sign) (hc : c = left ∨ c = right) :
      Subtask config (.value (n + 1) entity (.binary op left right)) (.value n entity c)
  /-- The list or the position of an item. -/
  | item (n : Nat) (entity : Entity) {left right c : Expr} (hc : c = left ∨ c = right) :
      Subtask config (.value (n + 1) entity (.binary .arrayIndex left right)) (.value n entity c)
  /-- The target or an argument of a text function. -/
  | textFunction (n : Nat) (entity : Entity) {target c : Expr} {method : String} {sign : Sign}
      {args : List Expr} (hmethod : Sign.ofMethod? method = some sign)
      (hc : c = target ∨ c ∈ args) :
      Subtask config (.value (n + 1) entity (.call target method args)) (.value n entity c)
  /-- A condition in the place of a value. -/
  | condition (n : Nat) (entity : Entity) {e : Expr} (he : e.isPredicate = true) :
      Subtask config (.value (n + 1) entity e) (.condition n entity e)

/-- A chain of calls from a call to one on a subquery about an entity. -/
def Task.Compiles (config : Config) (task : Task) (detail : Entity) : Prop :=
  ∃ n entity e, e.detail? = some detail ∧
    Relation.ReflTransGen (Subtask config) task (.condition (n + 1) entity e)

/-- Whenever a call succeeds, an entity is bound. -/
def Task.Binds (config : Config) (detail : Entity) : Task → Prop
  | .condition n entity e => Compilation.Binds detail (lowerPredicate config n entity e)
  | .value n entity e => Compilation.Binds detail (lowerOperand config n entity e)

/-! ### What a call binds -/

/-- A call on a subquery binds the entity of the subquery. -/
theorem binds_of_detail? {e : Expr} (he : e.detail? = some detail) (n : Nat) (entity : Entity) :
    Binds detail (lowerPredicate config (n + 1) entity e) := by
  cases e with
  | existsIn outer d foreignKey negated =>
    cases he
    refine (binds_register detail).bind_left fun _ _ _ => grows_lower.2.bind fun _ _ _ => ?_
    exact (grows_ofExcept _).bind fun _ _ _ => grows_pure _
  | existsWhere outer d foreignKey filter negated =>
    cases he
    refine (binds_register detail).bind_left fun _ _ _ => grows_lower.2.bind fun _ _ _ => ?_
    refine (grows_ofExcept _).bind fun _ _ _ => (grows_compared _ _).bind fun _ _ _ => ?_
    exact grows_lower.1.bind fun _ _ _ => grows_pure _
  | _ => cases he

/-- What either of two parts binds is bound after both. -/
theorem Binds.either {γ : Type} {x : γ → Compilation α} {left right c : γ}
    {f : α → α → Compilation β} (hright : Grows (x right)) (hc : c = left ∨ c = right)
    (hbinds : Binds detail (x c))
    (hf : ∀ {l r t t'}, outcome? (x left) t = some l → outcome? (x right) t' = some r →
      Grows (f l r)) :
    Binds detail (do
      let l ← x left
      let r ← x right
      f l r) := by
  rcases hc with rfl | rfl
  · exact hbinds.bind_left fun l t hl => hright.bind fun r t' hr => hf hl hr
  · exact .bind_right fun l t hl => hbinds.bind_left fun r t' hr => hf hl hr

/-- What a call binds whenever it succeeds, every call that makes it binds. -/
theorem Subtask.binds {task subtask : Task} (h : Subtask config task subtask)
    (hbinds : subtask.Binds config detail) : task.Binds config detail := by
  -- a case sets out the sequence of the call, in which the other call is one part
  cases h with
  | nullTest n entity target =>
    rw [Task.Binds, lowerPredicate_hasValue]
    refine hbinds.bind_left fun o t ho => ?_
    exact (local_hasValue (P := fun _ => True) (compiledFrom_of_lowerOperand ho).compiled).grows
  | member n entity target hname =>
    rw [Task.Binds, lowerPredicate_member _ _ _ hname]
    refine hbinds.bind_left fun o t ho => ?_
    exact (local_asCondition (compiledFrom_of_lowerOperand ho).compiled).grows
  | @connected n entity op left right c hop hc =>
    have hconnective : ∃ connective : Connective,
        op = .andAlso ∧ connective = .and ∨ op = .orElse ∧ connective = .or := by
      cases op <;> first | exact ⟨.and, .inl ⟨rfl, rfl⟩⟩ | exact ⟨.or, .inr ⟨rfl, rfl⟩⟩ | cases hop
    obtain ⟨connective, hop⟩ := hconnective
    rw [Task.Binds, lowerPredicate_connected _ _ _ hop]
    exact .either grows_lower.1 hc hbinds fun _ _ => grows_pure _
  | not n entity operand =>
    rw [Task.Binds, lowerPredicate_not]
    exact hbinds.bind_left fun _ _ _ => grows_pure _
  | compared n entity hop hc =>
    rw [Task.Binds, lowerPredicate_comparison _ _ _ hop]
    refine .either grows_lower.2 hc hbinds fun _ _ => ?_
    exact (local_compareOperands (BinaryOp.isOrdering_of_comparator? hop) _ _ _).grows
  | equals n entity hcall hargs hc =>
    rw [Task.Binds, lowerPredicate_of_equals _ _ _ hcall hargs]
    exact .either grows_lower.2 hc hbinds fun _ _ => (local_compareOperands rfl _ _ _).grows
  | searchArgument n entity hcall hargs hkind =>
    rw [Task.Binds, lowerPredicate_of_search _ _ _ hcall hargs hkind]
    refine hbinds.bind_left fun a t _ => ?_
    split
    next => exact grows_pure none
    next =>
      refine grows_lower.2.bind fun r t hr => ?_
      exact (local_searchOperands (compiledFrom_of_lowerOperand hr).compiled).grows
  | searchReceiver n entity hcall hargs hkind hnull =>
    rw [Task.Binds, lowerPredicate_of_search _ _ _ hcall hargs hkind]
    refine .bind_right fun a t ha => ?_
    have ha' : a.value? ≠ some .null := by
      intro hvalue
      cases a <;> cases hvalue
      exact hnull t ha
    rw [if_neg ha']
    refine hbinds.bind_left fun r t hr => ?_
    exact (local_searchOperands (compiledFrom_of_lowerOperand hr).compiled).grows
  | keyOuter n entity outer detail' foreignKey negated =>
    refine Binds.bind_right (x := register detail') fun _ _ _ => hbinds.bind_left fun _ _ _ => ?_
    exact (grows_ofExcept _).bind fun _ _ _ => grows_pure _
  | filterOuter n entity outer detail' foreignKey filter negated =>
    refine Binds.bind_right (x := register detail') fun _ _ _ => hbinds.bind_left fun _ _ _ => ?_
    refine (grows_ofExcept _).bind fun _ _ _ => (grows_compared _ _).bind fun _ _ _ => ?_
    exact grows_lower.1.bind fun _ _ _ => grows_pure _
  | filter n entity outer detail' foreignKey filter negated =>
    refine Binds.bind_right (x := register detail') fun _ _ _ => .bind_right fun _ _ _ => ?_
    refine .bind_right fun _ _ _ => .bind_right fun _ _ _ => ?_
    exact hbinds.bind_left fun _ _ _ => grows_pure _
  | target n entity htarget name =>
    rw [Task.Binds, lowerOperand_member _ _ _ htarget]
    refine hbinds.bind_left fun o t ho => ?_
    exact (local_memberOf (compiledFrom_of_lowerOperand ho).compiled _).grows
  | operand n entity hop operand =>
    rw [Task.Binds, lowerOperand_unary _ _ _ hop]
    exact hbinds.bind_left fun _ _ _ => (local_unaryOf _ _).grows
  | arithmetic n entity hop hc =>
    rw [Task.Binds, lowerOperand_arithmetic _ _ _ hop]
    exact .either grows_lower.2 hc hbinds fun _ _ => (local_arithmeticOf _ _ _).grows
  | item n entity hc =>
    rw [Task.Binds, lowerOperand_item]
    exact .either grows_lower.2 hc hbinds fun _ _ => (local_itemOf _ _).grows
  | @textFunction n entity target c method sign args hmethod hc =>
    rw [Task.Binds, lowerOperand_textFunction _ _ _ hmethod]
    -- the operands are compiled, so the text function on them is local
    have hfunction : ∀ {u os t t'}, outcome? (lowerOperand config n entity target) t = some u →
        outcome? (args.mapM (lowerOperand config n entity)) t' = some os →
        Grows (textFunctionOf (Expr.call target method args).display sign u os) := by
      intro u os t t' hu hos
      refine (local_textFunctionOf (compiledFrom_of_lowerOperand hu).compiled fun o ho => ?_).grows
      obtain ⟨_, _, ho⟩ := exists_of_mem_outcome?_mapM hos ho
      exact (compiledFrom_of_lowerOperand ho).compiled
    rcases hc with rfl | hc
    · refine hbinds.bind_left fun u t hu => (grows_mapM (fun _ => grows_lower.2) _).bind ?_
      exact fun os t' hos => hfunction hu hos
    · refine .bind_right fun u t hu => ?_
      have hargs : Compilation.Binds detail (args.mapM (lowerOperand config n entity)) :=
        .mapM (fun _ => grows_lower.2) hc hbinds
      exact hargs.bind_left fun os t' hos => hfunction hu hos
  | condition n entity he =>
    rw [Task.Binds, lowerOperand_condition _ _ _ he]
    exact hbinds.bind_left fun _ _ _ => (local_asOperand _).grows

/-- Whenever a call succeeds, the entity of every subquery compiled on the way is bound. -/
theorem Task.Compiles.binds {task : Task} (h : task.Compiles config detail) :
    task.Binds config detail := by
  obtain ⟨n, entity, e, he, hcalls⟩ := h
  -- on the chain of calls, from the subquery at its end
  induction hcalls using Relation.ReflTransGen.head_induction_on with
  | refl => exact binds_of_detail? he n entity
  | head hcall _ ih => exact hcall.binds ih

/-- After a successful compilation over an entity, the entity is bound, and so is what the body
binds. -/
theorem find?_of_overEntity {entity : Entity} {x : Compilation α} (hx : Grows x)
    (hdetail : detail = entity ∨ Binds detail x) {t : Trace} {a : α}
    (h : ((overEntity entity x).run t).1 = .ok a) :
    ((overEntity entity x).run t).2.registry.find? detail.path = some detail := by
  have hbinds : Binds detail (register entity >>= fun _ => x) := by
    rcases hdetail with rfl | hdetail
    · exact (binds_register detail).bind_left fun _ _ _ => hx
    · exact .bind_right fun _ _ _ => hdetail
  rw [run_overEntity] at h ⊢
  exact hbinds t a (toOption_eq_some_iff.mpr h)

end Compilation

end RowFilter
