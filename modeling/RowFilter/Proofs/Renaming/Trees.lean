import Mathlib.Data.List.Basic
import RowFilter.Compilation.Trace

/-!
# Renaming of fields

A map on names renames the fields of entities, and with them the members of expressions, of trees
and of what is registered. Nothing else has a name that can change: paths, methods and the members
of computed targets stay as they are.

An injective map is not seen by the lookups: they find what they found before, renamed, and fail as
they failed. The texts of errors name members, so `Corresponds` compares errors by what is left of
them, the class and the origin.
-/

namespace RowFilter

/-! ### Results -/

/-- The second result renders the first: what it returns is rendered by a function, and an error
keeps its class and its origin. -/
inductive Corresponds {α β : Type} (f : α → β) : Except Error α → Except Error β → Prop
  | ok (a : α) : Corresponds f (.ok a) (.ok (f a))
  | error {err err' : Error} (hcategory : err.category = err'.category)
      (horigin : err.origin = err'.origin) : Corresponds f (.error err) (.error err')

namespace Corresponds

variable {α β γ δ : Type} {f : α → β} {g : γ → δ}

/-- The same error corresponds to itself. -/
theorem refl_error (err : Error) : Corresponds f (.error err) (.error err) := .error rfl rfl

/-- Sequences correspond if they go on in corresponding ways. -/
theorem bind {x : Except Error α} {y : Except Error β} {k : α → Except Error γ}
    {k' : β → Except Error δ} (hxy : Corresponds f x y)
    (hk : ∀ a, Corresponds g (k a) (k' (f a))) :
    Corresponds g (x >>= k) (y >>= k') := by
  cases hxy with
  | ok a => exact hk a
  | error hcategory horigin => exact .error hcategory horigin

/-- Whatever is made of corresponding results corresponds. -/
theorem map {x : Except Error α} {y : Except Error β} {k : α → γ} {k' : β → δ}
    (hxy : Corresponds f x y) (hk : ∀ a, g (k a) = k' (f a)) :
    Corresponds g (x.map k) (y.map k') := by
  cases hxy with
  | ok a =>
    rw [Except.map, Except.map, ← hk]
    exact .ok _
  | error hcategory horigin => exact .error hcategory horigin

end Corresponds

variable (r : String → String)

/-! ### Entities and what is registered -/

/-- A field under its new name. -/
def Field.renamed (f : Field) : Field := { f with name := r f.name }

/-- An entity with renamed fields; its path, and the order and the types of its fields, stay. -/
def Entity.renamed (e : Entity) : Entity := { e with fields := e.fields.map (Field.renamed r) }

/-- A registry of renamed entities. -/
def Registry.renamed (registry : Registry) : Registry :=
  ⟨registry.entities.map (Entity.renamed r)⟩

/-- A trace with renamed entities. Events name no fields. -/
def Trace.renamed (t : Trace) : Trace := { t with registry := t.registry.renamed r }

/-! ### Expressions -/

mutual

/-- An expression in which every direct access to a field of a row goes to the renamed field. The
detail entities of subqueries are renamed with their foreign keys and filters. -/
def Expr.renamed : Expr → Expr
  | .row => .row
  | .constant v => .constant v
  | .nonFinite x => .nonFinite x
  | .member .row name => .member .row (r name)
  | .member target name => .member target.renamed name
  | .unary op e => .unary op e.renamed
  | .binary op left right => .binary op left.renamed right.renamed
  | .call target method args => .call target.renamed method (Expr.renamedAll args)
  | .staticCall method args => .staticCall method (Expr.renamedAll args)
  | .existsIn outer detail foreignKey negated =>
    .existsIn outer.renamed (detail.renamed r) (r foreignKey) negated
  | .existsWhere outer detail foreignKey filter negated =>
    .existsWhere outer.renamed (detail.renamed r) (r foreignKey) filter.renamed negated

/-- Expressions with renamed accesses. -/
def Expr.renamedAll : List Expr → List Expr
  | [] => []
  | e :: es => e.renamed :: Expr.renamedAll es

end

namespace Expr

theorem renamed_member {target : Expr} (htarget : target ≠ .row) (name : String) :
    (member target name).renamed r = member (target.renamed r) name := by
  cases target <;> first | rfl | exact absurd rfl htarget

/-- Renaming makes no expression the row, and takes none from being it. -/
theorem renamed_eq_row_iff {e : Expr} : e.renamed r = .row ↔ e = .row := by
  cases e with
  | member target name => cases target <;> simp [renamed]
  | _ => simp [renamed]

/-- Renaming keeps the shape of a predicate. -/
theorem isPredicate_renamed (e : Expr) : (e.renamed r).isPredicate = e.isPredicate := by
  cases e with
  | member target name => cases target <;> rfl
  | _ => rfl

end Expr

/-! ### Terms and predicates -/

/-- A reference to the renamed member. -/
def MemberRef.renamed (ref : MemberRef) : MemberRef :=
  ⟨ref.owner, r ref.name, ref.field?.map (Field.renamed r)⟩

mutual

/-- A term of renamed members. -/
def Term.renamed : Term → Term
  | .member ref => .member (ref.renamed r)
  | .literal v assigned => .literal v assigned
  | .binary left sign right => .binary left.renamed sign right.renamed
  | .unary sign t args => .unary sign t.renamed (Term.renamedAll args)

/-- An operand of renamed members. -/
def Operand.renamed : Operand → Operand
  | .term t => .term t.renamed
  | .value v => .value v

/-- Terms of renamed members. -/
def Term.renamedAll : List Term → List Term
  | [] => []
  | t :: ts => t.renamed :: Term.renamedAll ts

end

mutual

/-- A predicate of renamed members. -/
def Predicate.renamed : Predicate → Predicate
  | .joined p op q => .joined p.renamed op q.renamed
  | .solo op p => .solo op p.renamed
  | .comparison left c right ignoreCase =>
    .comparison (left.renamed r) c right.renamed ignoreCase
  | .subquery outer inner negated => .subquery (outer.renamed r) inner.renamed negated
  | .shortCircuit b => .shortCircuit b

/-- A right side of renamed members. -/
def RightSide.renamed : RightSide → RightSide
  | .empty => .empty
  | .operand t => .operand (t.renamed r)
  | .predicate p => .predicate p.renamed
  | .value v => .value v

/-- An inner side of renamed members. -/
def Inner.renamed : Inner → Inner
  | .foreignKey t => .foreignKey (t.renamed r)
  | .predicate p => .predicate p.renamed

end

/-- A comparison of renamed members. -/
def Comparison.renamed (c : Comparison) : Comparison :=
  { c with left := c.left.renamed r, right := c.right.renamed r }

variable {r}

theorem Term.renamedAll_eq_map (ts : List Term) : renamedAll r ts = ts.map (Term.renamed r) := by
  induction ts with
  | nil => rfl
  | cons t ts ih => rw [renamedAll, ih, List.map_cons]

theorem Expr.renamedAll_eq_map (es : List Expr) : renamedAll r es = es.map (Expr.renamed r) := by
  induction es with
  | nil => rfl
  | cons e es ih => rw [renamedAll, ih, List.map_cons]

theorem Operand.renamed_term (t : Term) : (Operand.term t).renamed r = .term (t.renamed r) := rfl

theorem Operand.renamed_value (v : Value) : (Operand.value v).renamed r = .value v := rfl

theorem Operand.toTerm_renamed (o : Operand) : (o.renamed r).toTerm = o.toTerm.renamed r := by
  cases o <;> rfl

theorem Operand.value?_renamed (o : Operand) : (o.renamed r).value? = o.value? := by
  cases o <;> rfl

/-! ### Lookups -/

section

variable (hr : Function.Injective r)

include hr

theorem Field.renamed_injective : Function.Injective (Field.renamed r) := by
  intro f f' h
  obtain ⟨hname, htype, hnullable⟩ := Field.mk.inj h
  cases f
  cases f'
  rw [Field.mk.injEq]
  exact ⟨hr hname, htype, hnullable⟩

theorem Entity.renamed_injective : Function.Injective (Entity.renamed r) := by
  intro e e' h
  obtain ⟨hname, hpath, hfields⟩ := Entity.mk.inj h
  cases e
  cases e'
  rw [Entity.mk.injEq]
  exact ⟨hname, hpath, List.map_injective_iff.mpr (Field.renamed_injective hr) hfields⟩

/-- The first field of the new name is the first field of the old one, renamed. -/
theorem Entity.field?_renamed (e : Entity) (name : String) :
    (e.renamed r).field? (r name) = (e.field? name).map (Field.renamed r) := by
  rw [field?, renamed, List.find?_map]
  -- the names are equal after the renaming exactly if they were before
  have htest : ((fun f : Field => decide (f.name = r name)) ∘ Field.renamed r) =
      fun f => decide (f.name = name) := by
    funext f
    exact decide_eq_decide.mpr hr.eq_iff
  rw [htest, field?]

end

theorem Registry.find?_renamed (registry : Registry) (path : String) :
    (registry.renamed r).find? path = (registry.find? path).map (Entity.renamed r) := by
  rw [find?, renamed, List.find?_map]
  rfl

theorem Registry.entity_renamed (registry : Registry) (path : String) :
    Corresponds (Entity.renamed r) (registry.entity path) ((registry.renamed r).entity path) := by
  rw [entity, entity, find?_renamed]
  cases registry.find? path with
  | none => exact .refl_error _
  | some e => exact .ok e

section

variable (hr : Function.Injective r)

include hr

/-- A renamed entity conflicts with a renamed one exactly if the two conflicted before. -/
theorem Registry.register_renamed (registry : Registry) (e : Entity) :
    Corresponds (Registry.renamed r) (registry.register e)
      ((registry.renamed r).register (e.renamed r)) := by
  rw [register, register, find?_renamed, Entity.renamed]
  cases registry.find? e.path with
  | none =>
    have happend : Registry.mk ((registry.renamed r).entities ++ [e.renamed r]) =
        (Registry.mk (registry.entities ++ [e])).renamed r := by
      simp [renamed]
    change Corresponds _ _ (.ok (Registry.mk ((registry.renamed r).entities ++ [e.renamed r])))
    rw [happend]
    exact .ok _
  | some bound =>
    change Corresponds _ (if bound = e then _ else _)
      (if bound.renamed r = e.renamed r then _ else _)
    by_cases hbound : bound = e
    · rw [if_pos hbound, if_pos (congrArg _ hbound)]
      exact .ok registry
    · rw [if_neg hbound, if_neg fun h => hbound (Entity.renamed_injective hr h)]
      exact .refl_error _

theorem Registry.field_renamed (registry : Registry) (path name : String) :
    Corresponds (Field.renamed r) (registry.field path name)
      ((registry.renamed r).field path (r name)) := by
  refine (entity_renamed registry path).bind fun e => ?_
  rw [Entity.field?_renamed hr]
  cases e.field? name with
  | none => exact .error rfl rfl
  | some f => exact .ok f

theorem MemberRef.field_renamed (ref : MemberRef) (registry : Registry) :
    Corresponds (Field.renamed r) (ref.field registry)
      ((ref.renamed r).field (registry.renamed r)) := by
  obtain ⟨owner, name, field?⟩ := ref
  cases field? with
  | none => exact registry.field_renamed hr owner name
  | some f => exact .ok f

theorem MemberRef.ofEntity_renamed (e : Entity) (name : String) :
    Corresponds (MemberRef.renamed r) (ofEntity e name) (ofEntity (e.renamed r) (r name)) := by
  rw [ofEntity, ofEntity, Entity.field?_renamed hr]
  cases e.field? name with
  | none => exact .error rfl rfl
  | some f => exact .ok _

end

/-! ### Kinds and checked constructors -/

mutual

/-- Renaming changes no kind. -/
theorem Term.kind_renamed (hr : Function.Injective r) (registry : Registry) : ∀ t : Term,
    Corresponds id (t.kind registry) ((t.renamed r).kind (registry.renamed r))
  | .member ref => (ref.field_renamed hr registry).map fun _ => rfl
  | .literal v _ => .ok v.kind
  | .binary left _ right =>
    (Operand.kind_renamed hr registry left).bind fun _ =>
      (Operand.kind_renamed hr registry right).bind fun _ => .ok _
  | .unary _ _ _ => .ok _

theorem Operand.kind_renamed (hr : Function.Injective r) (registry : Registry) : ∀ o : Operand,
    Corresponds id (o.kind registry) ((o.renamed r).kind (registry.renamed r))
  | .term t => Term.kind_renamed hr registry t
  | .value v => .ok v.kind

end

namespace Term

section

variable (hr : Function.Injective r)

include hr

theorem ofEntity_renamed (e : Entity) (name : String) :
    Corresponds (Term.renamed r) (ofEntity e name) (ofEntity (e.renamed r) (r name)) :=
  (MemberRef.ofEntity_renamed hr e name).map fun _ => rfl

theorem checkArguments_renamed (registry : Registry) (sign : Sign) (args : List Term) :
    Corresponds id (checkArguments registry sign args)
      (checkArguments (registry.renamed r) sign (args.map (Term.renamed r))) := by
  induction args with
  | nil => exact .ok ()
  | cons arg args ih =>
    refine (kind_renamed hr registry arg).bind fun kind => ?_
    dsimp only [id]
    split
    next => exact ih
    next => exact .error rfl rfl

theorem apply_renamed (registry : Registry) (sign : Sign) (t : Term) (args : List Term) :
    Corresponds (Term.renamed r) (apply registry sign t args)
      (apply (registry.renamed r) sign (t.renamed r) (args.map (Term.renamed r))) := by
  simp only [apply, List.length_map]
  split
  next => exact .refl_error _
  next =>
    refine (kind_renamed hr registry t).bind fun kind => ?_
    dsimp only [id]
    split
    next => exact .error rfl rfl
    next =>
      split
      next => exact .refl_error _
      next =>
        refine (checkArguments_renamed hr registry sign args).bind fun _ => ?_
        rw [← renamedAll_eq_map]
        exact .ok _

end

theorem join_renamed (left : Operand) (sign : Sign) (right : Operand) :
    Corresponds (Term.renamed r) (join left sign right)
      (join (left.renamed r) sign (right.renamed r)) := by
  rw [join, join]
  split
  next => exact .ok _
  next => exact .refl_error _

end Term

/-! ### Comparisons -/

namespace Comparison

theorem assign_renamed (c : Comparator) (v : Value) (wildcard : Char) :
    Corresponds (fun made : Comparator × RightSide => (made.1, made.2.renamed r))
      (assign c v wildcard) (assign c v wildcard) := by
  cases hassign : assign c v wildcard with
  | error err => exact .refl_error err
  | ok made =>
    -- a value brings no member to the right side
    have hright : made.2.renamed r = made.2 := by
      unfold assign at hassign
      repeat' split at hassign
      all_goals cases hassign <;> rfl
    have hok := Corresponds.ok (f := fun made : Comparator × RightSide =>
      (made.1, made.2.renamed r)) made
    rwa [hright] at hok

theorem withValue_renamed (left : Term) (c : Comparator) (v : Value) (wildcard : Char) :
    Corresponds (Comparison.renamed r) (withValue left c v wildcard)
      (withValue (left.renamed r) c v wildcard) :=
  (assign_renamed c v wildcard).bind fun _ => .ok _

theorem withOperand_renamed (left : Term) (c : Comparator) (right : Operand) (wildcard : Char) :
    Corresponds (Comparison.renamed r) (withOperand left c right wildcard)
      (withOperand (left.renamed r) c (right.renamed r) wildcard) := by
  cases right with
  | value v => exact withValue_renamed left c v wildcard
  | term t =>
    cases t with
    | literal v assigned => exact withValue_renamed left c _ wildcard
    | _ =>
      simp only [Operand.renamed, Term.renamed, withOperand]
      split
      next => exact .ok _
      next => exact .error rfl rfl

/-- Corresponding comparisons report the same change of comparator. -/
theorem change?_of_corresponds {requested : Comparator} {made made' : Except Error Comparison}
    (h : Corresponds (Comparison.renamed r) made made') :
    change? requested made' = change? requested made := by
  cases h <;> rfl

end Comparison

end RowFilter
