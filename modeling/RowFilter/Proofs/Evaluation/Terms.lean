import RowFilter.Proofs.Evaluation.Construction
import RowFilter.Proofs.Evaluation.Operations

/-!
# Values of terms over a row

The value of a composed term is what its sign makes of the values of its parts. For joined operands
that needs the kinds of the sides: `Operand.HasKind` says that an operand declares the kind of every
value that it computes over a row, and composed terms pass it on.
-/

namespace RowFilter

/-- The row gives every declared member of an entity a value of its kind. -/
def Row.Conforms (row : Row) (entity : Entity) : Prop :=
  ∀ name field, entity.field? name = some field →
    ∃ v, row.value? name = some v ∧ v.kind = field.kind

/-- A row conforms if it has a value of its kind for every field in the declaration. -/
theorem Row.Conforms.of_fields {row : Row} {entity : Entity}
    (h : ∀ f ∈ entity.fields, ∃ v, row.value? f.name = some v ∧ v.kind = f.kind) :
    row.Conforms entity := by
  intro name field hfield
  obtain ⟨v, hv, hkind⟩ := h field (List.mem_of_find?_eq_some hfield)
  exact ⟨v, by rw [← Entity.name_of_field? hfield, hv], hkind⟩

variable {registry : Registry} {row : Row}

/-- An operand declares a kind, in every registry, and computes no value of another kind. -/
structure Operand.HasKind (row : Row) (o : Operand) (kind : Kind) : Prop where
  /-- The declared kind does not depend on the registry. -/
  declared : ∀ registry, o.kind registry = .ok kind
  /-- Computed values are of the declared kind. -/
  computed : ∀ {registry v}, (o.evaluate registry row).toOption = some v → v.kind = kind

/-- A plain value has its kind. -/
theorem Operand.hasKind_value (v : Value) : (Operand.value v).HasKind row v.kind where
  declared _ := rfl
  computed h := by rw [← Option.some.inj h]

/-- A term made of an operand computes what the operand computes. -/
theorem Operand.evaluate_toTerm (o : Operand) : o.toTerm.evaluate registry row =
    o.evaluate registry row := by
  cases o <;> rfl

/-- A declared member of an entity is computed from a row that conforms to the entity. -/
theorem Term.exists_of_ofEntity {entity : Entity} {name : String} {t : Term}
    (hrow : row.Conforms entity) (h : Term.ofEntity entity name = .ok t) :
    ∃ v, row.value? name = some v ∧ (∀ registry, t.evaluate registry row = .ok v) ∧
      (Operand.term t).HasKind row v.kind := by
  obtain ⟨field, hfield, rfl⟩ := Term.ofEntity_eq_ok_iff.mp h
  obtain ⟨v, hv, hkind⟩ := hrow name field hfield
  have hname := Entity.name_of_field? hfield
  have hvalue : ∀ registry, (Term.member ⟨entity.path, field.name, some field⟩).evaluate registry
      row = .ok v := by
    intro registry
    simp [Term.evaluate, hname, hv]
  refine ⟨v, hv, hvalue, fun registry => ?_, fun {registry w} hw => ?_⟩
  · rw [hkind]
    rfl
  · rw [Operand.evaluate, hvalue] at hw
    rw [← Option.some.inj hw]

/-! ### Joined operands -/

section

variable {l r : Operand} {j k : Kind} (sign : Sign) (hl : l.HasKind row j) (hr : r.HasKind row k)

include hl hr

/-- Operands joined by a sign compute what the sign makes of their values. -/
theorem toOption_evaluate_binary :
    ((Term.binary l sign r).evaluate registry row).toOption =
      (l.evaluate registry row).toOption.bind fun a =>
        (r.evaluate registry row).toOption.bind fun b => Value.joined? sign a b := by
  have hkind : (Term.binary l sign r).kind registry = .ok ((Kind.arithmeticResult j k).getD j) := by
    simp [Term.kind, hl.declared, hr.declared, bind, Except.bind, pure, Except.pure]
  rw [Term.evaluate, hkind]
  simp only [toOption_bind, toOption_mapError, toOption_ok, Option.bind_some]
  refine Option.bind_congr fun a ha => Option.bind_congr fun b hb => ?_
  -- the values are of the declared kinds, so the declared arithmetic is that of the values
  rw [← hl.computed ha, ← hr.computed hb, Value.toOption_arithmetic_getD]

/-- Operands joined by a sign are of the kind that arithmetic gives, or of the left kind. -/
theorem hasKind_binary :
    (Operand.term (.binary l sign r)).HasKind row ((Kind.arithmeticResult j k).getD j) where
  declared registry := by
    simp [Operand.kind, Term.kind, hl.declared, hr.declared, bind, Except.bind, pure, Except.pure]
  computed {registry v} h := by
    rw [Operand.evaluate, toOption_evaluate_binary sign hl hr] at h
    obtain ⟨a, ha, h⟩ := Option.bind_eq_some_iff.mp h
    obtain ⟨b, hb, h⟩ := Option.bind_eq_some_iff.mp h
    rw [Value.joined?, hl.computed ha, hr.computed hb] at h
    obtain ⟨kind, hkind, h⟩ := Option.bind_eq_some_iff.mp h
    rw [hkind, Option.getD_some]
    exact Value.kind_of_arithmetic (toOption_eq_some_iff.mp h)

end

/-! ### Text functions -/

/-- Values of terms over a row, if all have one. -/
def Term.evaluateAll? (registry : Registry) (row : Row) (ts : List Term) : Option (List Value) :=
  ts.mapM fun t => (t.evaluate registry row).toOption

@[simp]
theorem Term.evaluateAll?_cons (t : Term) (ts : List Term) :
    Term.evaluateAll? registry row (t :: ts) =
      (t.evaluate registry row).toOption.bind fun v =>
        (Term.evaluateAll? registry row ts).map (v :: ·) := by
  simp only [Term.evaluateAll?, List.mapM_cons, Option.map_eq_bind]
  rfl

/-- The terms of operands compute what the operands compute. -/
theorem Term.evaluateAll?_map_toTerm (os : List Operand) :
    Term.evaluateAll? registry row (os.map Operand.toTerm) =
      os.mapM fun o => (o.evaluate registry row).toOption := by
  rw [Term.evaluateAll?, List.mapM_map]
  exact congrArg (os.mapM ·) (funext fun o => by rw [Function.comp_apply, o.evaluate_toTerm])

/-- Arguments are computed, and their values are read as positions. -/
theorem toOption_evaluateArgs (shown : String) (ts : List Term) :
    (Term.evaluateArgs registry row shown ts).toOption =
      (Term.evaluateAll? registry row ts).bind fun vs => vs.mapM Value.index? := by
  induction ts with
  | nil => rfl
  | cons t ts ih =>
    rw [Term.evaluateArgs, toOption_bind, Term.evaluateAll?_cons]
    cases (t.evaluate registry row).toOption with
    | none => rfl
    | some v =>
      -- the position of the first value and the values of the rest are independent
      cases hv : v.index? with
      | none =>
        cases Term.evaluateAll? registry row ts <;> simp [hv, List.mapM_cons]
      | some n =>
        simp only [Option.bind_some, hv, toOption_bind, ih]
        cases Term.evaluateAll? registry row ts <;>
          simp [hv, List.mapM_cons, pure, Except.pure, Option.map_eq_bind]

/-- A text function computes what its sign makes of the values of its parts. -/
theorem toOption_evaluate_unary (sign : Sign) (t : Term) (args : List Term) :
    ((Term.unary sign t args).evaluate registry row).toOption =
      (t.evaluate registry row).toOption.bind fun v =>
        (Term.evaluateAll? registry row args).bind fun vs => Value.applied? sign v vs := by
  simp only [Term.evaluate, toOption_bind]
  refine Option.bind_congr fun v _ => ?_
  unfold Value.applied?
  cases hs : v.coalescedText? with
  | none => simp
  | some s =>
    simp only [toOption_bind, toOption_mapError, toOption_evaluateArgs, Option.bind_some,
      Option.bind_assoc]

/-- A text function is of kind integer or text. -/
theorem hasKind_unary (sign : Sign) (t : Term) (args : List Term) :
    (Operand.term (.unary sign t args)).HasKind row (if sign = .length then .int else .text) where
  declared _ := rfl
  computed {registry v} h := by
    rw [Operand.evaluate, toOption_evaluate_unary] at h
    obtain ⟨w, -, h⟩ := Option.bind_eq_some_iff.mp h
    obtain ⟨vs, -, h⟩ := Option.bind_eq_some_iff.mp h
    exact Value.kind_of_applied? h

end RowFilter
