import Mathlib.Logic.Equiv.Basic
import RowFilter.Proofs.Compilation.Depth
import RowFilter.Proofs.Compilation.Equations
import RowFilter.Proofs.Renaming.Trees

/-!
# Compilation does not depend on the names of fields

Compiling a renamed expression over a renamed entity gives the renamed result, and fails with the
same class and origin where the compilation fails (`compile_renamed`). The two compilations run in
lockstep: `Compilation.Mirrors` says of two computations that from corresponding traces they return
corresponding results and leave corresponding traces.

One name is told apart. A condition `row.has_value` is read as the test of the row for null, which
no row has, before the entity is asked for a field of that name; the same access as a value is the
field. So the map must not bring a field that stands as a condition to that name, nor away from it
(`bareConditions`), as the test and the field do not compile to the same.
-/

namespace RowFilter

/-! ### Fields as conditions -/

/-- The name of a direct access to a field of the row. -/
def Expr.bareName? : Expr → Option String
  | .member .row name => some name
  | _ => none

mutual

/-- The names of the fields of rows that stand as conditions under a connective, a negation or the
filter of a subquery. -/
def Expr.bareConditions : Expr → List String
  | .row | .constant _ | .nonFinite _ => []
  | .member target _ => target.bareConditions
  | .unary op e => (if op = .not then e.bareName?.toList else []) ++ e.bareConditions
  | .binary op left right =>
    (if op.isLogical then left.bareName?.toList ++ right.bareName?.toList else []) ++
      (left.bareConditions ++ right.bareConditions)
  | .call target _ args => target.bareConditions ++ Expr.bareConditionsOfAll args
  | .staticCall _ args => Expr.bareConditionsOfAll args
  | .existsIn outer _ _ _ => outer.bareConditions
  | .existsWhere outer _ _ filter _ =>
    filter.bareName?.toList ++ (outer.bareConditions ++ filter.bareConditions)

/-- The names of the fields that stand as conditions within expressions. -/
def Expr.bareConditionsOfAll : List Expr → List String
  | [] => []
  | e :: es => e.bareConditions ++ Expr.bareConditionsOfAll es

end

namespace Expr

theorem bareConditions_subset_of_mem {e : Expr} {es : List Expr} (he : e ∈ es) :
    e.bareConditions ⊆ bareConditionsOfAll es := by
  induction es with
  | nil => cases he
  | cons e' es ih =>
    rw [bareConditionsOfAll]
    rcases List.mem_cons.mp he with rfl | he
    · exact List.subset_append_left _ _
    · exact List.subset_append_of_subset_right _ (ih he)

/-- What stands as a condition in a part stands as one in the whole. -/
theorem bareConditions_subset_of_mem_parts {c e : Expr} (hc : c ∈ e.parts) :
    c.bareConditions ⊆ e.bareConditions := by
  have hparts : bareConditionsOfAll e.parts ⊆ e.bareConditions := by
    cases e with
    | call | staticCall => exact List.Subset.refl _
    | _ => simp [parts, bareConditions, bareConditionsOfAll]
  exact List.Subset.trans (bareConditions_subset_of_mem hc) hparts

/-- An expression in the shape of a predicate is no direct access to a field. -/
theorem bareName?_of_isPredicate {e : Expr} (he : e.isPredicate = true) : e.bareName? = none := by
  cases e <;> first | rfl | cases he

end Expr

/-- A map on names brings none of the names to the one that tests for null, nor away from it. -/
def KeepsNullTest (r : String → String) (names : List String) : Prop :=
  ∀ name ∈ names, name = "has_value" ↔ r name = "has_value"

theorem KeepsNullTest.append_iff {r : String → String} {names names' : List String} :
    KeepsNullTest r (names ++ names') ↔ KeepsNullTest r names ∧ KeepsNullTest r names' :=
  List.forall_mem_append

namespace Compilation

variable {r : String → String} {α β γ δ : Type} {f : α → β} {g : γ → δ}

/-! ### Computations in lockstep -/

/-- From corresponding traces, the computations return corresponding results and leave corresponding
traces. -/
def Mirrors (r : String → String) (f : α → β) (x : Compilation α) (y : Compilation β) : Prop :=
  ∀ t, Corresponds f (x.run.run t).1 (y.run.run (t.renamed r)).1 ∧
    (y.run.run (t.renamed r)).2 = (x.run.run t).2.renamed r

namespace Mirrors

theorem pure {a : α} {b : β} (h : f a = b) : Mirrors r f (pure a) (pure b) := by
  rintro t
  rw [← h]
  exact ⟨.ok a, rfl⟩

theorem throw {err err' : Error} (hcategory : err.category = err'.category)
    (horigin : err.origin = err'.origin) : Mirrors r f (throw err) (throw err') :=
  fun _ => ⟨.error hcategory horigin, rfl⟩

theorem ofExcept {a : Except Error α} {b : Except Error β} (h : Corresponds f a b) :
    Mirrors r f (ofExcept a) (ofExcept b) := by
  cases h with
  | ok a => exact pure rfl
  | error hcategory horigin => exact throw hcategory horigin

theorem report (event : Event) : Mirrors r id (report event) (report event) :=
  fun _ => ⟨.ok (), rfl⟩

/-- Sequences go in lockstep if their parts do. -/
theorem bind {x : Compilation α} {y : Compilation β} {k : α → Compilation γ}
    {k' : β → Compilation δ} (hxy : Mirrors r f x y) (hk : ∀ a, Mirrors r g (k a) (k' (f a))) :
    Mirrors r g (x >>= k) (y >>= k') := by
  intro t
  obtain ⟨hresult, htrace⟩ := hxy t
  rw [run_bind, run_bind]
  rcases hx : x.run.run t with ⟨a, t'⟩
  rcases hy : y.run.run (t.renamed r) with ⟨b, t''⟩
  rw [hx, hy] at hresult htrace
  subst htrace
  cases hresult with
  | ok a => exact hk a t'
  | error hcategory horigin => exact ⟨.error hcategory horigin, rfl⟩

theorem map {x : Compilation α} {y : Compilation β} {k : α → γ} {k' : β → δ}
    (hxy : Mirrors r f x y) (hk : ∀ a, g (k a) = k' (f a)) : Mirrors r g (k <$> x) (k' <$> y) := by
  rw [map_eq_pure_bind, map_eq_pure_bind]
  exact hxy.bind fun a => pure (hk a)

/-- The same choice between computations is made on both sides. -/
theorem ite {c : Prop} [Decidable c] {x x' : Compilation α} {y y' : Compilation β}
    (hthen : Mirrors r f x y) (helse : Mirrors r f x' y') :
    Mirrors r f (if c then x else x') (if c then y else y') := by
  split
  next => exact hthen
  next => exact helse

/-- Lists of computations are in lockstep if each of them is with its counterpart. -/
theorem mapM {ε ζ : Type} {rendered : ε → ζ} {k : ε → Compilation α} {k' : ζ → Compilation β}
    {as : List ε} (h : ∀ a ∈ as, Mirrors r f (k a) (k' (rendered a))) :
    Mirrors r (List.map f) (as.mapM k) ((as.map rendered).mapM k') := by
  induction as with
  | nil => exact pure rfl
  | cons a as ih =>
    rw [List.map_cons, List.mapM_cons, List.mapM_cons]
    refine (h a List.mem_cons_self).bind fun b => ?_
    exact (ih fun c hc => h c (List.mem_cons_of_mem a hc)).bind fun bs => pure rfl

theorem register (hr : Function.Injective r) (entity : Entity) :
    Mirrors r id (register entity) (register (entity.renamed r)) := by
  intro t
  have hregister := t.registry.register_renamed hr entity
  rw [run_register, run_register]
  change Corresponds _ (t.registry.register entity)
    ((t.renamed r).registry.register (entity.renamed r)) at hregister
  generalize t.registry.register entity = bound at hregister ⊢
  generalize (t.renamed r).registry.register (entity.renamed r) = bound' at hregister ⊢
  cases hregister with
  | ok registry => exact ⟨.ok (), rfl⟩
  | error hcategory horigin => exact ⟨.error hcategory horigin, rfl⟩

end Mirrors

/-! ### Operators -/

section

variable {shown shown' : String}

theorem mirrors_unsupported : Mirrors r f (throw (.unsupportedShape shown))
    (throw (.unsupportedShape shown')) :=
  .throw rfl rfl

theorem mirrors_folded (v : Value) : Mirrors r (Operand.renamed r) (folded v) (folded v) :=
  (Mirrors.report _).bind fun _ => .pure rfl

theorem mirrors_foldedTo (b : Bool) :
    Mirrors r (Option.map (Predicate.renamed r)) (foldedTo b) (foldedTo b) :=
  (Mirrors.report _).bind fun _ => .pure rfl

theorem mirrors_foldedOr (x : Except Fault Value) :
    Mirrors r (Operand.renamed r) (foldedOr shown x) (foldedOr shown' x) := by
  rcases x with (_ | _) | v
  · exact mirrors_unsupported
  · exact .throw rfl rfl
  · exact mirrors_folded v

theorem mirrors_foldedLength (n : Nat) :
    Mirrors r (Operand.renamed r) (foldedLength shown n) (foldedLength shown' n) := by
  unfold foldedLength
  split
  next => exact mirrors_folded _
  next => exact .throw rfl rfl

theorem mirrors_compared {c : Comparator} {made made' : Except Error Comparison}
    (h : Corresponds (Comparison.renamed r) made made') :
    Mirrors r (Comparison.renamed r) (compared c made) (compared c made') := by
  have hmade : Mirrors r (Comparison.renamed r) (ofExcept made) (ofExcept made') := .ofExcept h
  rw [compared, compared, Comparison.change?_of_corresponds h]
  split
  next event _ =>
    refine (Mirrors.report event).bind ?_
    exact fun _ => hmade
  next => exact hmade

theorem mirrors_asPredicate {c : Comparator} (ignoreCase : Bool)
    {made made' : Except Error Comparison} (h : Corresponds (Comparison.renamed r) made made') :
    Mirrors r (Option.map (Predicate.renamed r)) (asPredicate ignoreCase <$> compared c made)
      (asPredicate ignoreCase <$> compared c made') :=
  (mirrors_compared h).map fun _ => rfl

theorem mirrors_unaryOf (op : UnaryOp) (operand : Operand) :
    Mirrors r (Operand.renamed r) (unaryOf shown op operand)
      (unaryOf shown' op (operand.renamed r)) := by
  cases operand with
  | term t => exact mirrors_unsupported
  | value v =>
    simp only [Operand.renamed_value, unaryOf]
    split
    next => exact .ite (.pure rfl) mirrors_unsupported
    next =>
      refine .ite ?_ mirrors_unsupported
      split
      next => exact mirrors_folded _
      next => exact .throw rfl rfl
    next => exact mirrors_foldedLength _
    next => exact mirrors_unsupported

theorem mirrors_arithmeticOf (left : Operand) (sign : Sign) (right : Operand) :
    Mirrors r (Operand.renamed r) (arithmeticOf shown left sign right)
      (arithmeticOf shown' (left.renamed r) sign (right.renamed r)) := by
  have hjoin : Mirrors r (Operand.renamed r)
      (do return .term (← ofExcept (Term.join left sign right)))
      (do return .term (← ofExcept (Term.join (left.renamed r) sign (right.renamed r)))) := by
    refine (Mirrors.ofExcept (Term.join_renamed left sign right)).bind ?_
    exact fun _ => .pure rfl
  cases left with
  | term _ => exact hjoin
  | value a =>
    cases right with
    | term _ => exact hjoin
    | value b =>
      simp only [Operand.renamed_value, arithmeticOf]
      split
      next => exact mirrors_unsupported
      next => exact mirrors_foldedOr _

theorem mirrors_itemOf (list index : Operand) :
    Mirrors r (Operand.renamed r) (itemOf shown list index)
      (itemOf shown' (list.renamed r) (index.renamed r)) := by
  rcases list with _ | v <;> rcases index with _ | w <;>
    first | exact mirrors_unsupported | cases v <;> try exact mirrors_unsupported
  simp only [Operand.renamed_value, itemOf]
  split
  next => exact mirrors_unsupported
  next =>
    split
    next => exact mirrors_folded _
    next => exact .throw rfl rfl

theorem mirrors_asOperand (condition : Option Predicate) :
    Mirrors r (Operand.renamed r) (asOperand shown condition)
      (asOperand shown' (condition.map (Predicate.renamed r))) := by
  rcases condition with _ | p
  · exact mirrors_unsupported
  · cases p <;> first | exact .pure rfl | exact mirrors_unsupported

theorem mirrors_compareOperands (config : Config) (c : Comparator) (ignoreCase : Bool)
    (left right : Operand) :
    Mirrors r (Option.map (Predicate.renamed r))
      (compareOperands config shown c ignoreCase left right)
      (compareOperands config shown' c ignoreCase (left.renamed r) (right.renamed r)) := by
  cases left with
  | term l => exact mirrors_asPredicate ignoreCase (Comparison.withOperand_renamed l c right _)
  | value a =>
    cases right with
    | term u =>
      refine (Mirrors.report _).bind fun _ => ?_
      exact mirrors_asPredicate ignoreCase (Comparison.withValue_renamed u _ a _)
    | value b =>
      simp only [Operand.renamed_value, compareOperands]
      split
      next => exact mirrors_foldedTo _
      next => exact mirrors_unsupported

theorem positions?_renamed (os : List Operand) :
    positions? (os.map (Operand.renamed r)) = positions? os := by
  induction os with
  | nil => rfl
  | cons o os ih =>
    rw [List.map_cons]
    cases o with
    | term _ => rfl
    | value v => rw [positions?, ← ih]; rfl

/-! ### Operators that ask the registry -/

variable (hr : Function.Injective r)

include hr

theorem mirrors_kindOf (t : Term) : Mirrors r id (kindOf t) (kindOf (t.renamed r)) :=
  fun trace => Mirrors.ofExcept (Term.kind_renamed hr trace.registry t) trace

theorem mirrors_apply (sign : Sign) (t : Term) (args : List Term) :
    Mirrors r (Operand.renamed r)
      (do return Operand.term (← ofExcept (Term.apply (← get).registry sign t args)))
      (do return Operand.term (← ofExcept (Term.apply (← get).registry sign (t.renamed r)
        (args.map (Term.renamed r))))) := by
  intro trace
  refine Mirrors.bind (.ofExcept (Term.apply_renamed hr trace.registry sign t args)) ?_ trace
  exact fun _ => .pure rfl

theorem mirrors_memberOf (target : Operand) (name : String) :
    Mirrors r (Operand.renamed r) (memberOf shown target name)
      (memberOf shown' (target.renamed r) name) := by
  cases target with
  | term t =>
    simp only [Operand.renamed_term, memberOf]
    split
    next sign _ => exact mirrors_apply hr sign t []
    next => exact mirrors_unsupported
  | value v =>
    simp only [Operand.renamed_value, memberOf]
    refine .ite ?_ (.ite (mirrors_folded _) mirrors_unsupported)
    split
    next => exact mirrors_foldedLength _
    next => exact mirrors_foldedLength _
    next => exact mirrors_unsupported

theorem mirrors_textFunctionOf (sign : Sign) (target : Operand) (args : List Operand) :
    Mirrors r (Operand.renamed r) (textFunctionOf shown sign target args)
      (textFunctionOf shown' sign (target.renamed r) (args.map (Operand.renamed r))) := by
  cases target with
  | term t =>
    have hargs : (args.map (Operand.renamed r)).map Operand.toTerm =
        (args.map Operand.toTerm).map (Term.renamed r) := by
      simp [Operand.toTerm_renamed]
    simp only [Operand.renamed_term, textFunctionOf, hargs]
    exact mirrors_apply hr sign t _
  | value v =>
    simp only [Operand.renamed_value, textFunctionOf, positions?_renamed]
    split
    next => exact .throw rfl rfl
    next =>
      split
      next => exact mirrors_unsupported
      next => exact mirrors_foldedOr _

theorem mirrors_asCondition (o : Operand) :
    Mirrors r (Option.map (Predicate.renamed r)) (asCondition shown o)
      (asCondition shown' (o.renamed r)) := by
  cases o with
  | term t =>
    refine (mirrors_kindOf hr t).bind fun kind => .ite ?_ mirrors_unsupported
    exact mirrors_asPredicate false (Comparison.withValue_renamed t _ _ _)
  | value v => cases v <;> first | exact mirrors_foldedTo _ | exact mirrors_unsupported

theorem mirrors_hasValue (o : Operand) :
    Mirrors r (Option.map (Predicate.renamed r)) (hasValue o) (hasValue (o.renamed r)) := by
  cases o with
  | value v => exact mirrors_foldedTo _
  | term t =>
    -- whether the term is nullable is found in two ways, and decides the rest in the same way
    have htest : ∀ nullable : Bool, Mirrors r (Option.map (Predicate.renamed r))
        (if nullable then asPredicate false <$> compared .isNotNull (Comparison.unary t .isNotNull)
          else foldedTo true)
        (if nullable then
            asPredicate false <$> compared .isNotNull (Comparison.unary (t.renamed r) .isNotNull)
          else foldedTo true) := by
      intro nullable
      refine .ite ?_ (mirrors_foldedTo true)
      exact mirrors_asPredicate false (Comparison.withValue_renamed t _ _ _)
    cases t with
    | member ref =>
      intro trace
      refine Mirrors.bind (.ofExcept (ref.field_renamed hr trace.registry)) ?_ trace
      exact fun field => htest field.nullable
    | _ => exact htest true

theorem mirrors_searchOperands (config : Config) (kind : PatternKind) (ignoreCase : Bool)
    (receiver arg : Operand) :
    Mirrors r (Option.map (Predicate.renamed r))
      (searchOperands config shown kind ignoreCase receiver arg)
      (searchOperands config shown' kind ignoreCase (receiver.renamed r) (arg.renamed r)) := by
  cases receiver with
  | value v =>
    cases arg with
    | value w =>
      simp only [Operand.renamed_value, searchOperands]
      split
      next => exact mirrors_foldedTo _
      next => exact mirrors_unsupported
    | term u =>
      cases v <;> try exact mirrors_unsupported
      refine .ite ?_ mirrors_unsupported
      exact mirrors_asPredicate ignoreCase (Comparison.withValue_renamed u _ _ _)
  | term t =>
    have hkind := mirrors_kindOf hr t
    cases arg with
    | term a =>
      refine hkind.bind fun k => .ite ?_ mirrors_unsupported
      exact mirrors_asPredicate ignoreCase (Comparison.withOperand_renamed t _ (.term a) _)
    | value v =>
      -- whether the receiver is a list is looked up or known, and the search goes on alike
      refine .ite (Mirrors.bind (f := id) (hkind.map fun _ => rfl) fun listed => ?_)
        (Mirrors.bind (f := id) (.pure rfl) fun listed => ?_) <;>
      · refine .ite ?_ ?_
        · exact mirrors_asPredicate ignoreCase
            (Comparison.withOperand_renamed (.ofValue v) .isIn (.term t) _)
        · cases v <;> try exact mirrors_unsupported
          refine hkind.bind fun k => .ite ?_ mirrors_unsupported
          exact mirrors_asPredicate ignoreCase (Comparison.withValue_renamed t _ _ _)

end

/-! ### The induction -/

theorem receiver?_renamed (e : Expr) :
    receiver? (e.renamed r) = (receiver? e).map fun (target, method, args) =>
      (target.renamed r, method, args.map (Expr.renamed r)) := by
  cases e with
  | member target name => cases target <;> rfl
  | call target method args =>
    rw [Expr.renamed, Expr.renamedAll_eq_map]
    rfl
  | staticCall method args =>
    rw [Expr.renamed, Expr.renamedAll_eq_map]
    cases args <;> rfl
  | _ => rfl

theorem soleArgument?_renamed (args : List Expr) :
    soleArgument? (args.map (Expr.renamed r)) = (soleArgument? args).map fun (arg, ignoreCase) =>
      (arg.renamed r, ignoreCase) := by
  rcases args with _ | ⟨arg, _ | ⟨flag, _ | ⟨_, _⟩⟩⟩
  · rfl
  · rfl
  · -- the second argument is a flag after the renaming only if it was one before
    cases flag with
    | member target name => cases target <;> rfl
    | constant v => cases v <;> rfl
    | _ => rfl
  · cases flag with
    | member target name => cases target <;> rfl
    | constant v => cases v <;> rfl
    | _ => rfl

theorem combine_renamed (op : Connective) (p q : Option Predicate) :
    (combine op p q).map (Predicate.renamed r) =
      combine op (p.map (Predicate.renamed r)) (q.map (Predicate.renamed r)) := by
  cases p <;> cases q <;> rfl

section

variable {config : Config} {n : Nat} {entity : Entity} {e : Expr}

/-- The two compilations of an expression, renamed and not, go in lockstep as values. -/
abbrev MirrorsOperand (r : String → String) (config : Config) (n : Nat) (entity : Entity)
    (e : Expr) : Prop :=
  Mirrors r (Operand.renamed r) (lowerOperand config n entity e)
    (lowerOperand config n (entity.renamed r) (e.renamed r))

/-- The two compilations of an expression, renamed and not, go in lockstep as conditions. -/
abbrev MirrorsPredicate (r : String → String) (config : Config) (n : Nat) (entity : Entity)
    (e : Expr) : Prop :=
  Mirrors r (Option.map (Predicate.renamed r)) (lowerPredicate config n entity e)
    (lowerPredicate config n (entity.renamed r) (e.renamed r))

/-- Two conditions under a connective mirror their renaming if each of them does. -/
theorem mirrorsPredicate_connected {op : BinaryOp} {connective : Connective} {left right : Expr}
    (hop : op = .andAlso ∧ connective = .and ∨ op = .orElse ∧ connective = .or)
    (hleft : MirrorsPredicate r config n entity left)
    (hright : MirrorsPredicate r config n entity right) :
    MirrorsPredicate r config (n + 1) entity (.binary op left right) := by
  rw [MirrorsPredicate, Expr.renamed, lowerPredicate_connected _ _ _ hop,
    lowerPredicate_connected _ _ _ hop]
  exact hleft.bind fun p => hright.bind fun q => .pure (combine_renamed connective p q)

variable (hr : Function.Injective r)

include hr

/-- An expression mirrors its renaming as a value if its parts do, and if it does as a condition
where it has the shape of one. -/
theorem mirrorsOperand_of_parts
    (hvalue : ∀ c ∈ e.parts, MirrorsOperand r config n entity c)
    (hself : e.isPredicate = true → MirrorsPredicate r config n entity e) :
    MirrorsOperand r config (n + 1) entity e := by
  -- whatever has no rule as a value is compiled as a condition, if it is one
  have hcondition : Mirrors r (Operand.renamed r)
      (if e.isPredicate then lowerPredicate config n entity e >>= asOperand e.display
        else throw (.unsupportedShape e.display))
      (if (e.renamed r).isPredicate then
          lowerPredicate config n (entity.renamed r) (e.renamed r) >>=
            asOperand (e.renamed r).display
        else throw (.unsupportedShape (e.renamed r).display)) := by
    rw [Expr.isPredicate_renamed]
    split
    next he => exact (hself he).bind fun p => mirrors_asOperand p
    next => exact mirrors_unsupported
  cases e with
  | row => exact mirrors_unsupported
  | constant v => exact .pure rfl
  | nonFinite x => exact .throw rfl rfl
  | member target name =>
    by_cases htarget : target = .row
    · subst htarget
      exact (Mirrors.ofExcept (Term.ofEntity_renamed hr entity name)).bind fun _ => .pure rfl
    · have htarget' : target.renamed r ≠ .row := (Expr.renamed_eq_row_iff r).not.mpr htarget
      rw [MirrorsOperand, Expr.renamed_member r htarget, lowerOperand_member _ _ _ htarget,
        lowerOperand_member _ _ _ htarget']
      exact (hvalue target List.mem_cons_self).bind fun u => mirrors_memberOf hr u name
  | unary op operand =>
    have hoperand := hvalue operand List.mem_cons_self
    cases op with
    | not => exact hcondition
    | _ => exact hoperand.bind fun u => mirrors_unaryOf _ u
  | binary op left right =>
    have hleft := hvalue left List.mem_cons_self
    have hright := hvalue right (List.mem_cons_of_mem _ List.mem_cons_self)
    simp only [MirrorsOperand, Expr.renamed, lowerOperand]
    split
    next sign _ => exact hleft.bind fun l => hright.bind fun u => mirrors_arithmeticOf l sign u
    next =>
      split
      next => exact hleft.bind fun l => hright.bind fun u => mirrors_itemOf l u
      next => exact hcondition
  | call target method args =>
    have htarget := hvalue target List.mem_cons_self
    have hargs : Mirrors r (List.map (Operand.renamed r)) (args.mapM (lowerOperand config n entity))
        ((args.map (Expr.renamed r)).mapM (lowerOperand config n (entity.renamed r))) :=
      .mapM fun arg harg => hvalue arg (List.mem_cons_of_mem target harg)
    rw [← Expr.renamedAll_eq_map] at hargs
    simp only [MirrorsOperand, Expr.renamed, lowerOperand]
    split
    next sign _ =>
      exact htarget.bind fun u => hargs.bind fun os => mirrors_textFunctionOf hr sign u os
    next => exact hcondition
  | staticCall method args => exact hcondition
  | existsIn outer detail foreignKey negated => exact hcondition
  | existsWhere outer detail foreignKey filter negated => exact hcondition

/-- A call mirrors its renaming as a condition if its receiver and its argument do as values. -/
theorem mirrorsPredicate_of_methodCall {receiver : Expr} {method : String} {args : List Expr}
    (hcall : receiver? e = some (receiver, method, args))
    (hvalue : ∀ c ∈ e.parts, MirrorsOperand r config n entity c) :
    MirrorsPredicate r config (n + 1) entity e := by
  have hreceiver := hvalue receiver (mem_parts_of_receiver? hcall)
  have hcall' : receiver? (e.renamed r) =
      some (receiver.renamed r, method, args.map (Expr.renamed r)) := by
    rw [receiver?_renamed, hcall]
    rfl
  cases e <;> try (cases hcall; done)
  -- a call with a target and one without have the same equation
  all_goals
    simp only [Expr.renamed] at hcall'
    simp only [MirrorsPredicate, Expr.renamed, lowerPredicate, hcall, hcall', soleArgument?_renamed]
    cases hargs : soleArgument? args with
    | none => exact mirrors_unsupported
    | some sole =>
      obtain ⟨arg, ignoreCase⟩ := sole
      have harg := hvalue arg (mem_parts_of_soleArgument? hcall hargs)
      refine .ite ?_ ?_
      · refine hreceiver.bind fun l => harg.bind fun u => ?_
        exact mirrors_compareOperands config .equal ignoreCase l u
      · split
        next => exact mirrors_unsupported
        next kind _ =>
          refine harg.bind fun a => ?_
          rw [Operand.value?_renamed]
          refine .ite (.pure rfl) ?_
          exact hreceiver.bind fun l => mirrors_searchOperands hr config kind ignoreCase l a

/-- A subquery by a foreign key mirrors its renaming if its outer side does as a value. -/
theorem mirrorsPredicate_existsIn {outer : Expr} (detail : Entity) (foreignKey : String)
    (negated : Bool) (houter : MirrorsOperand r config n entity outer) :
    MirrorsPredicate r config (n + 1) entity (.existsIn outer detail foreignKey negated) := by
  refine (Mirrors.register hr detail).bind fun _ => houter.bind fun o => ?_
  refine (Mirrors.ofExcept (Term.ofEntity_renamed hr detail foreignKey)).bind fun key => ?_
  rw [Operand.toTerm_renamed]
  exact .pure rfl

/-- A subquery by a filter mirrors its renaming if its outer side does as a value and its filter as
a condition over the other entity. -/
theorem mirrorsPredicate_existsWhere {outer filter : Expr} (detail : Entity) (foreignKey : String)
    (negated : Bool) (houter : MirrorsOperand r config n entity outer)
    (hfilter : MirrorsPredicate r config n detail filter) :
    MirrorsPredicate r config (n + 1) entity
      (.existsWhere outer detail foreignKey filter negated) := by
  refine (Mirrors.register hr detail).bind fun _ => houter.bind fun o => ?_
  refine (Mirrors.ofExcept (Term.ofEntity_renamed hr detail foreignKey)).bind fun key => ?_
  have hlink := Comparison.withOperand_renamed (r := r) key .equal (.term o.toTerm)
    config.wildcard
  rw [Operand.toTerm_renamed]
  refine (mirrors_compared hlink).bind fun link => hfilter.bind fun condition => .pure ?_
  cases condition <;> rfl

/-- An expression mirrors its renaming as a condition if its parts do, those that are fields as
conditions included, and if it does as a value where it has not the shape of a condition. -/
theorem mirrorsPredicate_of_parts (hname : KeepsNullTest r e.bareName?.toList)
    (hnames : KeepsNullTest r e.bareConditions)
    (hcondition : ∀ c ∈ e.parts, KeepsNullTest r c.bareName?.toList →
      ∀ entity, MirrorsPredicate r config n entity c)
    (hvalue : ∀ c ∈ e.parts, MirrorsOperand r config n entity c)
    (hself : e.isPredicate = false → MirrorsOperand r config n entity e) :
    MirrorsPredicate r config (n + 1) entity e := by
  -- calls come first, as two constructors share their rules
  cases hcall : receiver? e with
  | some call => exact mirrorsPredicate_of_methodCall hr hcall hvalue
  | none =>
    cases e with
    | row => exact mirrors_unsupported
    | constant v => cases v <;> first | exact .pure rfl | exact mirrors_unsupported
    | nonFinite x => exact mirrors_unsupported
    | member target name =>
      have htarget := hvalue target List.mem_cons_self
      have hmember := hself rfl
      by_cases hrow : target = .row
      · subst hrow
        -- the same test is made of both names, which the map keeps together
        have htest := hname name List.mem_cons_self
        simp only [MirrorsPredicate, Expr.renamed, lowerPredicate, ← htest]
        refine .ite ?_ ?_
        · exact htarget.bind fun o => mirrors_hasValue hr o
        · exact hmember.bind fun o => mirrors_asCondition hr o
      · simp only [MirrorsPredicate, MirrorsOperand, Expr.renamed_member r hrow] at hmember ⊢
        simp only [lowerPredicate]
        refine .ite ?_ ?_
        · exact htarget.bind fun o => mirrors_hasValue hr o
        · exact hmember.bind fun o => mirrors_asCondition hr o
    | unary op operand =>
      cases op with
      | not =>
        have hoperand := hcondition operand List.mem_cons_self
          (fun name hname => hnames name (List.mem_append_left _ hname)) entity
        refine hoperand.bind fun p => .pure ?_
        cases p <;> rfl
      | _ => exact mirrors_unsupported
    | binary op left right =>
      have hleft := hvalue left List.mem_cons_self
      have hright := hvalue right (List.mem_cons_of_mem _ List.mem_cons_self)
      cases hop : op.comparator? with
      | some comparator =>
        rw [MirrorsPredicate, Expr.renamed, lowerPredicate_comparison _ _ _ hop,
          lowerPredicate_comparison _ _ _ hop]
        refine hleft.bind fun l => hright.bind fun u => ?_
        exact mirrors_compareOperands config comparator false l u
      | none =>
        have hconnected : op.isLogical = true → MirrorsPredicate r config n entity left ∧
            MirrorsPredicate r config n entity right := by
          intro hlogical
          rw [Expr.bareConditions, if_pos hlogical, KeepsNullTest.append_iff,
            KeepsNullTest.append_iff] at hnames
          exact ⟨hcondition left List.mem_cons_self hnames.1.1 entity,
            hcondition right (List.mem_cons_of_mem _ List.mem_cons_self) hnames.1.2 entity⟩
        cases op with
        | andAlso =>
          obtain ⟨hp, hq⟩ := hconnected rfl
          exact mirrorsPredicate_connected (.inl ⟨rfl, rfl⟩) hp hq
        | orElse =>
          obtain ⟨hp, hq⟩ := hconnected rfl
          exact mirrorsPredicate_connected (.inr ⟨rfl, rfl⟩) hp hq
        | add | subtract | multiply | divide | arrayIndex => exact mirrors_unsupported
        | _ => cases hop
    | call target method args => cases hcall
    | staticCall method args =>
      cases args with
      | nil => exact mirrors_unsupported
      | cons target args => cases hcall
    | existsIn outer detail foreignKey negated =>
      exact mirrorsPredicate_existsIn hr detail foreignKey negated
        (hvalue outer List.mem_cons_self)
    | existsWhere outer detail foreignKey filter negated =>
      rw [Expr.bareConditions, KeepsNullTest.append_iff] at hnames
      have hfilter := hcondition filter (List.mem_cons_of_mem _ List.mem_cons_self) hnames.1 detail
      exact mirrorsPredicate_existsWhere hr detail foreignKey negated
        (hvalue outer List.mem_cons_self) hfilter

/-- An expression mirrors its renaming as a value, and as a condition if the map keeps the fields
that stand as conditions apart from the test for null. -/
theorem mirrors_lower : ∀ {n : Nat} {entity : Entity} {e : Expr},
    KeepsNullTest r e.bareConditions →
      (KeepsNullTest r e.bareName?.toList → MirrorsPredicate r config n entity e) ∧
        MirrorsOperand r config n entity e := by
  intro n
  induction n with
  | zero => exact fun _ => ⟨fun _ => .throw rfl rfl, .throw rfl rfl⟩
  | succ n ih =>
    intro entity e hnames
    have hparts : ∀ c ∈ e.parts, KeepsNullTest r c.bareConditions := fun c hc name hname =>
      hnames name (Expr.bareConditions_subset_of_mem_parts hc hname)
    have hvalue : ∀ c ∈ e.parts, MirrorsOperand r config n entity c := fun c hc =>
      (ih (hparts c hc)).2
    constructor
    · intro hname
      exact mirrorsPredicate_of_parts hr hname hnames
        (fun c hc hname entity => (ih (hparts c hc)).1 hname) hvalue fun _ => (ih hnames).2
    · refine mirrorsOperand_of_parts hr hvalue fun he => (ih hnames).1 ?_
      rw [Expr.bareName?_of_isPredicate he]
      nofun

end

/-- Compilations over an entity go in lockstep if their bodies do. -/
theorem corresponds_run_overEntity (hr : Function.Injective r) (entity : Entity)
    {x : Compilation α} {y : Compilation β} (hxy : Mirrors r f x y) (t : Trace) :
    Corresponds f ((overEntity entity x).run t).1
      ((overEntity (entity.renamed r) y).run (t.renamed r)).1 :=
  ((Mirrors.register hr entity).bind fun _ => hxy) t |>.1

end Compilation

/-- Compiling a renamed expression over a renamed entity gives the renamed result, is no condition
at all where it was none, and fails with the same class and origin where it failed. For a predicate
the map must keep the fields that stand as conditions apart from the test for null. -/
theorem compile_renamed {r : String → String} (hr : Function.Injective r) (entity : Entity)
    (config : Config) (e : Expr) (hnames : KeepsNullTest r e.bareConditions) (t : Trace) :
    (KeepsNullTest r e.bareName?.toList →
      Corresponds (Option.map (Predicate.renamed r)) ((compilePredicate entity config e).run t).1
        ((compilePredicate (entity.renamed r) config (e.renamed r)).run (t.renamed r)).1) ∧
      Corresponds (Operand.renamed r) ((compileOperand entity config e).run t).1
        ((compileOperand (entity.renamed r) config (e.renamed r)).run (t.renamed r)).1 := by
  constructor
  · intro hname
    exact Compilation.corresponds_run_overEntity hr entity
      ((Compilation.mirrors_lower hr hnames).1 hname) t
  · exact Compilation.corresponds_run_overEntity hr entity
      (Compilation.mirrors_lower hr hnames).2 t

/-- Two fields that exchange their names, one of which stands as a condition. -/
theorem compile_renamed_exchanged :
    let r := Equiv.swap "paid" "total"
    let paid : Field := ⟨"paid", .bool, false⟩
    let total : Field := ⟨"total", .int, true⟩
    let order : Entity := ⟨"Order", "order", [paid, total]⟩
    let e : Expr := .binary .andAlso (.field "paid") (.member (.field "total") "has_value")
    let p : Predicate := .joined
      (.comparison (.member ⟨"order", "paid", some paid⟩) .equal (.value (.bool true)) false) .and
      (.comparison (.member ⟨"order", "total", some total⟩) .isNotNull .empty false)
    Function.Bijective r ∧ e.bareConditions = ["paid"] ∧
      ((compilePredicate order .default e).run ⟨.empty, []⟩).1 = .ok (some p) ∧
      ((compilePredicate (order.renamed r) .default (e.renamed r)).run ⟨.empty, []⟩).1 =
        .ok (some (p.renamed r)) := by
  intro r paid total order e p
  have hr : Function.Bijective r := Equiv.bijective _
  have hnames : KeepsNullTest r e.bareConditions := by
    intro name hname
    obtain rfl := List.mem_singleton.mp hname
    decide
  have hp : ((compilePredicate order .default e).run ⟨.empty, []⟩).1 = .ok (some p) := rfl
  refine ⟨hr, rfl, hp, ?_⟩
  have hrenamed := (compile_renamed hr.injective order .default e hnames ⟨.empty, []⟩).1 nofun
  rw [hp] at hrenamed
  generalize ((compilePredicate (order.renamed r) .default (e.renamed r)).run
    (Trace.renamed r ⟨.empty, []⟩)).1 = outcome at hrenamed
  cases hrenamed
  rfl

/-- A boolean field that exchanges its name with the test for null is no condition any more. -/
theorem compile_renamed_null_test :
    let r := Equiv.swap "paid" "has_value"
    let paid : Field := ⟨"paid", .bool, false⟩
    let order : Entity := ⟨"Order", "order", [paid]⟩
    let e : Expr := .field "paid"
    Function.Bijective r ∧ e.renamed r = .field "has_value" ∧
      (order.renamed r).field? "has_value" = some ⟨"has_value", .bool, false⟩ ∧
      ((compilePredicate order .default e).run ⟨.empty, []⟩).1 =
        .ok (some (.comparison (.member ⟨"order", "paid", some paid⟩) .equal (.value (.bool true))
          false)) ∧
      ((compilePredicate (order.renamed r) .default (e.renamed r)).run ⟨.empty, []⟩).1 =
        .error (.unsupportedShape "row") ∧
      ¬Corresponds (Option.map (Predicate.renamed r))
        ((compilePredicate order .default e).run ⟨.empty, []⟩).1
        ((compilePredicate (order.renamed r) .default (e.renamed r)).run ⟨.empty, []⟩).1 := by
  intro r paid order e
  have hp : ((compilePredicate order .default e).run ⟨.empty, []⟩).1 = .ok (some _) := rfl
  have hq : ((compilePredicate (order.renamed r) .default (e.renamed r)).run ⟨.empty, []⟩).1 =
    .error (.unsupportedShape "row") := rfl
  refine ⟨Equiv.bijective _, rfl, rfl, rfl, hq, ?_⟩
  rw [hp, hq]
  nofun

end RowFilter
