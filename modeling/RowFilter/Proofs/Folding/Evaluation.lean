import RowFilter.Proofs.Compilation.Equations
import RowFilter.Proofs.Compilation.Operators
import RowFilter.Proofs.Evaluation.Terms
import RowFilter.Proofs.Folding.Scalar

/-!
# Folding agrees with evaluation

A scalar expression can meet a row in two ways. It is compiled to an operand, which is evaluated
over the row; or the values of the row are put into the expression, which then folds to a value as
it is compiled. The two give the same value, and one fails exactly if the other does.

The induction carries `Folds`: beside the agreement itself, that the operand declares the kind of
what it computes. Evaluation picks the arithmetic by declared kinds and folding picks it by the
kinds of the constants at hand, so neither side could be followed without it.
-/

namespace RowFilter

variable {config : Config} {entity : Entity} {row : Row}

/-- The operand computes from the row what the expression folds to, from whatever trace. -/
structure Folds (config : Config) (n : Nat) (entity : Entity) (row : Row) (e : Expr)
    (o : Operand) : Prop where
  /-- The operand declares the kind of what it computes. -/
  kind : ∃ kind, o.HasKind row kind
  /-- The expression folds to a value exactly if the operand computes it. -/
  outcome : ∀ registry t, Compilation.outcome? (Compilation.lowerOperand config n entity e) t =
    (o.evaluate registry row).toOption.map .value

/-- What the expression folds to is what the operand computes, in every registry. -/
theorem Folds.exists_of_outcome {n : Nat} {e : Expr} {o o' : Operand} {t : Trace}
    (h : Folds config n entity row e o)
    (ho : Compilation.outcome? (Compilation.lowerOperand config n entity e) t = some o') :
    ∃ v, o' = .value v ∧ ∀ registry, o.evaluate registry row = .ok v := by
  have hvalue : ∀ registry, ∃ v, o.evaluate registry row = .ok v ∧ .value v = o' := by
    intro registry
    obtain ⟨v, hv, hov⟩ := Option.map_eq_some_iff.mp ((h.outcome registry t).symm.trans ho)
    exact ⟨v, toOption_eq_some_iff.mp hv, hov⟩
  -- the values that the registries give are all the one that the expression folds to
  obtain ⟨v, -, rfl⟩ := hvalue .empty
  refine ⟨v, rfl, fun registry => ?_⟩
  obtain ⟨w, hw, how⟩ := hvalue registry
  cases how
  exact hw

namespace Compilation

/-! ### The two paths of each operator -/

section

variable {registry : Registry} {t : Trace} {shown : String} {sign : Sign} {o : Operand}

/-- Arithmetic on operands computes what the sign makes of the values of its sides. -/
theorem toOption_evaluate_arithmeticOf {l r : Operand} (hl : ∃ kind, l.HasKind row kind)
    (hr : ∃ kind, r.HasKind row kind)
    (h : outcome? (arithmeticOf shown l sign r) t = some o) :
    (o.evaluate registry row).toOption =
      (l.evaluate registry row).toOption.bind fun a =>
        (r.evaluate registry row).toOption.bind fun b => Value.joined? sign a b := by
  obtain ⟨j, hl⟩ := hl
  obtain ⟨k, hr⟩ := hr
  rcases arithmeticOf_cases h with ⟨a, b, v, rfl, rfl, hv, rfl⟩ | ⟨-, -, rfl⟩
  · exact hv.symm
  · exact toOption_evaluate_binary sign hl hr

/-- Arithmetic on operands that declare their kinds declares its own. -/
theorem hasKind_arithmeticOf {l r : Operand} (hl : ∃ kind, l.HasKind row kind)
    (hr : ∃ kind, r.HasKind row kind)
    (h : outcome? (arithmeticOf shown l sign r) t = some o) : ∃ kind, o.HasKind row kind := by
  obtain ⟨j, hl⟩ := hl
  obtain ⟨k, hr⟩ := hr
  rcases arithmeticOf_cases h with ⟨a, b, v, rfl, rfl, -, rfl⟩ | ⟨-, -, rfl⟩
  · exact ⟨_, Operand.hasKind_value v⟩
  · exact ⟨_, hasKind_binary sign hl hr⟩

/-- A text function on operands computes what its sign makes of the values of its parts. -/
theorem toOption_evaluate_textFunctionOf {target : Operand} {args : List Operand}
    (h : outcome? (textFunctionOf shown sign target args) t = some o) :
    (o.evaluate registry row).toOption =
      (target.evaluate registry row).toOption.bind fun v =>
        (args.mapM fun a : Operand => (a.evaluate registry row).toOption).bind fun vs =>
          Value.applied? sign v vs := by
  rcases textFunctionOf_cases h with ⟨v, vs, w, rfl, rfl, hw, rfl⟩ | ⟨u, w, rfl, hw, rfl⟩
  · have hvalues : ((vs.map Operand.value).mapM fun a : Operand =>
        (a.evaluate registry row).toOption) = some vs := by
      rw [List.mapM_map]
      exact List.mapM_pure.trans (by rw [List.map_id']; rfl)
    rw [hvalues]
    exact hw.symm
  · obtain ⟨-, -, -, -, rfl⟩ := Term.apply_eq_ok_iff.mp hw
    rw [Operand.evaluate, toOption_evaluate_unary, Term.evaluateAll?_map_toTerm]
    rfl

/-- A text function declares its kind. -/
theorem hasKind_textFunctionOf {target : Operand} {args : List Operand}
    (h : outcome? (textFunctionOf shown sign target args) t = some o) :
    ∃ kind, o.HasKind row kind := by
  rcases textFunctionOf_cases h with ⟨_, _, w, -, -, -, rfl⟩ | ⟨u, w, -, hw, rfl⟩
  · exact ⟨_, Operand.hasKind_value w⟩
  · obtain ⟨-, -, -, -, rfl⟩ := Term.apply_eq_ok_iff.mp hw
    exact ⟨_, hasKind_unary _ _ _⟩

/-- The length of an operand computes the length of what the operand computes. -/
theorem toOption_evaluate_length {target : Operand} (htarget : ∃ kind, target.HasKind row kind)
    (h : outcome? (memberOf shown target "length") t = some o) :
    (o.evaluate registry row).toOption =
      (target.evaluate registry row).toOption.bind Value.length? := by
  cases target with
  | value v =>
    rw [outcome?_memberOf_length] at h
    obtain ⟨w, hw, rfl⟩ := Option.map_eq_some_iff.mp h
    exact hw.symm
  | term u =>
    rcases memberOf_cases h with ⟨_, _, hu, -, -⟩ | ⟨_, w, applied, hu, hsign, hw, rfl⟩
    · cases hu
    · cases hu
      cases hsign
      obtain ⟨-, htext, -, -, rfl⟩ := Term.apply_eq_ok_iff.mp hw
      rw [Operand.evaluate, toOption_evaluate_unary]
      refine Option.bind_congr fun v hv => ?_
      -- the target was checked to be a text, so what it computes is one
      obtain ⟨kind, hkind⟩ := htarget
      have hv : v.kind = .text := by
        rw [hkind.computed hv]
        exact Except.ok.inj ((hkind.declared _).symm.trans htext)
      exact Value.applied?_length hv

/-- The length of an operand declares its kind. -/
theorem hasKind_length {target : Operand}
    (h : outcome? (memberOf shown target "length") t = some o) : ∃ kind, o.HasKind row kind := by
  rcases memberOf_cases h with ⟨_, w, -, rfl, -⟩ | ⟨_, w, applied, -, -, hw, rfl⟩
  · exact ⟨_, Operand.hasKind_value w⟩
  · obtain ⟨-, -, -, -, rfl⟩ := Term.apply_eq_ok_iff.mp hw
    exact ⟨_, hasKind_unary _ _ _⟩

end

end Compilation

/-! ### The invariant for each shape -/

namespace Folds

open Compilation

variable {n : Nat} {t : Trace} {o : Operand} {sign : Sign}

/-- A constant folds to itself. -/
theorem constant (v : Value) : Folds config (n + 1) entity row (.constant v) (.value v) where
  kind := ⟨v.kind, Operand.hasKind_value v⟩
  outcome _ _ := rfl

/-- A member of the row computes the constant that stands for it. -/
theorem field (hrow : row.Conforms entity) {name : String} {u : Term}
    (h : Term.ofEntity entity name = .ok u) :
    Folds config (n + 1) entity row ((Expr.field name).atRow row) (.term u) := by
  obtain ⟨v, hv, hvalue, hkind⟩ := Term.exists_of_ofEntity hrow h
  refine ⟨⟨v.kind, hkind⟩, fun registry t => ?_⟩
  rw [Expr.atRow_field hv, Operand.evaluate, hvalue]
  rfl

/-- Arithmetic keeps the agreement of its sides. -/
theorem arithmetic {op : BinaryOp} {left right : Expr} {l r : Operand} {shown : String}
    (hop : op.sign? = some sign) (hl : Folds config n entity row left l)
    (hr : Folds config n entity row right r)
    (h : outcome? (arithmeticOf shown l sign r) t = some o) :
    Folds config (n + 1) entity row (.binary op left right) o := by
  refine ⟨hasKind_arithmeticOf hl.kind hr.kind h, fun registry t => ?_⟩
  rw [lowerOperand_arithmetic _ _ _ hop, toOption_evaluate_arithmeticOf hl.kind hr.kind h,
    Option.map_bind]
  refine outcome?_bind (hl.outcome registry t) fun a t => ?_
  rw [Function.comp_apply, Option.map_bind]
  exact outcome?_bind (hr.outcome registry t) fun b t => outcome?_arithmeticOf_value a b

/-- Text functions keep the agreement of their target and arguments. -/
theorem textFunction {method : String} {target : Expr} {args : List Expr} {u : Operand}
    {os : List Operand} {shown : String} (hmethod : Sign.ofMethod? method = some sign)
    (htarget : Folds config n entity row target u)
    (hargs : List.Forall₂ (fun arg a => Folds config n entity row arg a) args os)
    (h : outcome? (textFunctionOf shown sign u os) t = some o) :
    Folds config (n + 1) entity row (.call target method args) o := by
  refine ⟨hasKind_textFunctionOf h, fun registry t => ?_⟩
  rw [lowerOperand_textFunction _ _ _ hmethod, toOption_evaluate_textFunctionOf h, Option.map_bind]
  refine outcome?_bind (htarget.outcome registry t) fun v t => ?_
  rw [Function.comp_apply, Option.map_bind]
  have hvalues : outcome? (args.mapM (lowerOperand config n entity)) t =
      (os.mapM fun a : Operand => (a.evaluate registry row).toOption).map (List.map .value) :=
    outcome?_mapM (hargs.imp fun _ _ ha => ha.outcome registry) t
  exact outcome?_bind hvalues fun vs t => outcome?_textFunctionOf_value v vs

/-- The length keeps the agreement of its target. -/
theorem length {target : Expr} {u : Operand} {shown : String} (hne : target ≠ .row)
    (htarget : Folds config n entity row target u)
    (h : outcome? (memberOf shown u "length") t = some o) :
    Folds config (n + 1) entity row (.member target "length") o := by
  refine ⟨hasKind_length h, fun registry t => ?_⟩
  rw [lowerOperand_member _ _ _ hne, toOption_evaluate_length htarget.kind h, Option.map_bind]
  exact outcome?_bind (htarget.outcome registry t) fun v t => outcome?_memberOf_length v

end Folds

/-! ### The induction -/

/-- Where a scalar expression compiles, the operand computes what the expression folds to once the
values of the row are in it. -/
theorem Compilation.folds_of_lowerOperand {admits : Value → Prop} (hrow : row.Conforms entity)
    {e : Expr} (he : e.Scalar admits) : ∀ {n : Nat} {t : Trace} {o : Operand},
      outcome? (lowerOperand config n entity e) t = some o →
        Folds config n entity row (e.atRow row) o := by
  -- on the expression, with the depth free: each part compiles with one level less than the whole
  induction he with
  | constant _ =>
    intro n t o h
    obtain rfl := eq_of_lowerOperand_constant h
    obtain ⟨n, rfl⟩ := exists_depth_of_lowerOperand h
    exact Folds.constant _
  | field name =>
    intro n t o h
    obtain ⟨u, hu, rfl⟩ := exists_of_lowerOperand_field h
    obtain ⟨n, rfl⟩ := exists_depth_of_lowerOperand h
    exact Folds.field hrow hu
  | arithmetic hop _ _ ihleft ihright =>
    intro n t o h
    obtain ⟨n, l, r, _, _, _, rfl, hl, hr, h⟩ := exists_of_lowerOperand_arithmetic hop h
    exact Folds.arithmetic hop (ihleft hl) (ihright hr) h
  | @textFunction method sign target args hmethod _ _ ihtarget ihargs =>
    intro n t o h
    obtain ⟨n, u, os, _, _, _, rfl, hu, hos, h⟩ := exists_of_lowerOperand_textFunction hmethod h
    have hargs : List.Forall₂ (fun arg a => Folds config n entity row arg a)
        (args.map (Expr.atRow row)) os := by
      have hpairs := (List.forall₂_and_left args os).mpr
        ⟨fun _ harg => harg, forall₂_of_outcome?_mapM hos⟩
      refine List.forall₂_map_left_iff.mpr (hpairs.imp fun arg a hpair => ?_)
      obtain ⟨harg, _, ha⟩ := hpair
      exact ihargs arg harg ha
    rw [Expr.atRow, Expr.atRowAll_eq_map]
    exact Folds.textFunction hmethod (ihtarget hu) hargs h
  | length htarget ih =>
    intro n t o h
    obtain ⟨n, u, _, _, rfl, hu, h⟩ := exists_of_lowerOperand_member htarget.ne_row h
    rw [Expr.atRow_member htarget.ne_row]
    exact Folds.length (Expr.atRow_ne_row htarget.ne_row) (ih hu) h

/-! ### The agreement -/

/-- The values that an operand of a scalar expression computes over a row are those that the
expression folds to with the row's values in it, and either path fails exactly if the other does.
The second compilation may start from any trace whose registry accepts the entity. -/
theorem evaluate_eq_ok_iff_folds {e : Expr} {t later : Trace} {o : Operand}
    (he : e.Scalar fun _ => True) (hrow : row.Conforms entity)
    (h : ((compileOperand entity config e).run t).1 = .ok o)
    (hlater : (later.registry.register entity).isOk = true) (registry : Registry) :
    (∀ v, o.evaluate registry row = .ok v ↔
      ((compileOperand entity config (e.atRow row)).run later).1 = .ok (.value v)) ∧
    ((∃ err, o.evaluate registry row = .error err) ↔
      ∃ err, ((compileOperand entity config (e.atRow row)).run later).1 = .error err) := by
  have hfolds : Folds config config.maxDepth entity row (e.atRow row) o := by
    rw [compileOperand, ← toOption_eq_some_iff, Compilation.toOption_run_overEntity] at h
    obtain ⟨_, -, h⟩ := Option.bind_eq_some_iff.mp h
    exact Compilation.folds_of_lowerOperand hrow he h
  have hfold : ((compileOperand entity config (e.atRow row)).run later).1.toOption =
      (o.evaluate registry row).toOption.map .value := by
    rw [compileOperand, Compilation.toOption_run_overEntity]
    cases hregister : later.registry.register entity with
    | error err =>
      rw [hregister] at hlater
      cases hlater
    | ok registry' => exact hfolds.outcome registry _
  -- only the two results matter from here on, not how they were computed
  revert hfold
  generalize ((compileOperand entity config (e.atRow row)).run later).1 = folded
  intro hfold
  cases folded <;> cases ho : o.evaluate registry row <;> rw [ho] at hfold <;> cases hfold <;> simp

/-- A text function and a concatenation, over a row with one text. -/
theorem evaluate_eq_ok_iff_folds_concat :
    let entity : Entity := ⟨"Person", "person", [⟨"name", .text, false⟩]⟩
    let row := Row.ofList [("name", .text "Ann")]
    let e : Expr := .binary .add (.call (.field "name") "to_lower" []) (.constant (.text "!"))
    let o : Operand := .term (.binary
      (.term (.unary .toLower (.member ⟨"person", "name", some ⟨"name", .text, false⟩⟩) []))
      .add (.value (.text "!")))
    let t : Trace := ⟨.empty, []⟩
    (e.Scalar fun _ => True) ∧ row.Conforms entity ∧
      ((compileOperand entity .default e).run t).1 = .ok o ∧
      (t.registry.register entity).isOk = true ∧
      (o.evaluate .empty row = .ok (.text "ann!") ↔
        ((compileOperand entity .default (e.atRow row)).run t).1 =
          .ok (.value (.text "ann!"))) := by
  intro entity row e o t
  have he : e.Scalar fun _ => True :=
    .arithmetic rfl (.textFunction rfl (.field "name") nofun) (.constant trivial)
  have hrow : row.Conforms entity :=
    .of_fields (List.forall_mem_singleton.mpr ⟨.text "Ann", rfl, rfl⟩)
  have h : ((compileOperand entity .default e).run t).1 = .ok o := rfl
  have ht : (t.registry.register entity).isOk = true := rfl
  exact ⟨he, hrow, h, ht, (evaluate_eq_ok_iff_folds he hrow h ht .empty).1 _⟩

end RowFilter
