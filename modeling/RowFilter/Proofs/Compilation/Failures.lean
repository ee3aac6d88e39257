import RowFilter.Proofs.Registry.Independence

/-!
# How a compilation fails

A compilation fails in its own ways only. Either an entity that the expression needs is in conflict
with another one under its path, which was registered before or is needed by the same expression; or
the error is one of the compilation itself, of one of four classes, and an unsupported shape is the
canonical text of the expression or of a part of it (`origin_of_compile_eq_error`).

Errors of the registry, of the making of comparisons and of the evaluation of constants are all
within reach of the operators. That none of them comes out is what `Compilation.Local` says of each
operator; here it is carried through the descent.
-/

namespace RowFilter

/-- An expression is the other one, or a part of it at some depth. -/
inductive Expr.Within : Expr → Expr → Prop
  | self (e : Expr) : Within e e
  | part {c d e : Expr} : d ∈ e.parts → Within c d → Within c e

/-! ### The errors of one level -/

namespace Error.ArisesIn

variable {err : Error} {shown : String}

/-- An error of a level arises in compilation. -/
theorem origin_eq (h : err.ArisesIn shown) : err.origin = .compile := by
  cases err with
  | unknownMember origin owner member => exact h
  | _ => first | rfl | exact h.elim

/-- An error of a level is of one of four classes. -/
theorem category_mem (h : err.ArisesIn shown) :
    err.category ∈ [.unsupportedShape, .invalidOperator, .outOfRange, .unknownMember] := by
  cases err <;> first | exact h.elim | simp [category]

/-- The only unsupported shape of a level is the one of its expression. -/
theorem eq_unsupportedShape (h : err.ArisesIn shown)
    (hcategory : err.category = .unsupportedShape) : err = .unsupportedShape shown := by
  cases err with
  | unsupportedShape s => exact congrArg unsupportedShape h
  | nestingTooDeep => exact h.elim
  | _ => cases hcategory

end Error.ArisesIn

/-! ### Confined computations -/

namespace Compilation

variable {α β : Type} {named : Entity → Prop} {P : Error → Prop} {config : Config}

/-- A computation binds named entities only. It fails by errors with a property, or by the conflict
of a named entity with another one that has its path. -/
structure Confined (named : Entity → Prop) (P : Error → Prop) (x : Compilation α) : Prop where
  /-- What is bound at the end was bound before or is named. -/
  bound : ∀ t path b, (x.run.run t).2.registry.find? path = some b →
    t.registry.find? path = some b ∨ named b
  /-- An error has the property or is a conflict. -/
  error : ∀ t err, (x.run.run t).1 = .error err → P err ∨ ∃ d, named d ∧
    err = .entityConflict d.path ∧ ∃ b, b ≠ d ∧ (x.run.run t).2.registry.find? d.path = some b

theorem Local.confined {x : Compilation α} (hx : Local P x) : Confined named P x where
  bound t path b hb := by
    rw [hx.registry] at hb
    exact .inl hb
  error t err herr := .inl (hx.error t err herr)

theorem confined_register {entity : Entity} (hentity : named entity) :
    Confined named P (register entity) where
  bound t path b hb := by
    rw [run_register] at hb
    cases hregister : t.registry.register entity with
    | error err =>
      rw [hregister] at hb
      exact .inl hb
    | ok registry =>
      rw [hregister] at hb
      rw [Registry.find?_of_register hregister] at hb
      split at hb
      next =>
        cases hb
        exact .inr hentity
      next => exact .inl hb
  error t err herr := by
    rw [run_register] at herr ⊢
    cases hregister : t.registry.register entity with
    | ok registry =>
      rw [hregister] at herr
      cases herr
    | error err' =>
      rw [hregister] at herr
      cases herr
      obtain ⟨⟨b, hb, hne⟩, rfl⟩ := Registry.register_eq_error_iff.mp hregister
      exact .inr ⟨entity, hentity, rfl, b, hne, hb⟩

theorem Confined.bind {x : Compilation α} {f : α → Compilation β} (hx : Confined named P x)
    (hf : ∀ a t, outcome? x t = some a → Confined named P (f a)) :
    Confined named P (x >>= f) := by
  constructor
  · intro t path b hb
    have hfirst := hx.bound t path b
    rw [run_bind] at hb
    rcases hrun : x.run.run t with ⟨err | a, s⟩ <;> rw [hrun] at hb hfirst
    · exact hfirst hb
    · -- what the second part finds bound, the first part found so or has bound
      have hsecond := (hf a t (by rw [outcome?, hrun]; rfl)).bound s path b hb
      exact hsecond.elim hfirst .inr
  · intro t err herr
    have hfirst := hx.error t err
    rw [run_bind] at herr ⊢
    rcases hrun : x.run.run t with ⟨err' | a, s⟩ <;> rw [hrun] at herr hfirst
    · cases herr
      exact hfirst rfl
    · exact (hf a t (by rw [outcome?, hrun]; rfl)).error s err herr

/-- Confined computations are kept in sequences, if the property is one of the errors of the
level. -/
theorem sequential_confined {shown : String} (hshown : ∀ err : Error, err.ArisesIn shown → P err) :
    Sequential shown named fun _ x _ => Confined named P x where
  own hx := (hx.mono hshown).confined
  register _ := confined_register
  bind := Confined.bind

/-- A compilation is confined to the entities that the expression names and to errors about it and
its parts. -/
theorem confined_lower : ∀ {n : Nat} {entity : Entity} {e : Expr}, (∀ d ∈ e.details, named d) →
    (∀ (c : Expr) err, c.Within e → Error.ArisesIn c.display err → P err) →
    (∀ c : Expr, c.Within e → P (.nestingTooDeep config.maxDepth c.display)) →
      Confined named P (lowerPredicate config n entity e) ∧
        Confined named P (lowerOperand config n entity e) := by
  intro n
  induction n with
  | zero =>
    -- without depth left there is one error, and nothing is bound
    intro entity e _ _ hnesting
    have hthrow : ∀ α, Confined named P
        (throw (.nestingTooDeep config.maxDepth e.display) : Compilation α) :=
      fun α => (local_throw (hnesting e (.self e))).confined
    exact ⟨hthrow _, hthrow _⟩
  | succ n ih =>
    intro entity e hnamed hlevel hnesting
    have hparts : ∀ c ∈ e.parts, ∀ entity, Confined named P (lowerPredicate config n entity c) ∧
        Confined named P (lowerOperand config n entity c) := by
      intro c hc entity
      apply ih
      · exact fun d hd => hnamed d (Expr.details_subset_of_mem_parts hc hd)
      · exact fun c' err hc' => hlevel c' err (.part hc hc')
      · exact fun c' hc' => hnesting c' (.part hc hc')
    -- a value as a condition, or a condition as a value, is compiled again with less depth
    have hself : Confined named P (lowerPredicate config n entity e) ∧
        Confined named P (lowerOperand config n entity e) := ih hnamed hlevel hnesting
    have hseq : Sequential e.display named fun _ x _ => Confined named P x :=
      sequential_confined fun err => hlevel e err (.self e)
    constructor
    · exact hseq.lowerPredicate (d := 0) (m := 0)
        (fun d hd => hnamed d (Expr.mem_details_of_detail? hd))
        (fun c hc entity => (hparts c hc entity).1) (fun c hc => (hparts c hc entity).2)
        fun _ => hself.2
    · exact hseq.lowerOperand (d := 0) (m := 0) (fun c hc => (hparts c hc entity).2)
        fun _ => hself.1

/-- A compilation over an entity is confined to the entity and those that the body is confined
to. -/
theorem Confined.cases_of_overEntity {entity : Entity} {x : Compilation α} {t t' : Trace}
    {err : Error} (hentity : named entity) (hx : Confined named P x)
    (h : (overEntity entity x).run t = (.error err, t')) :
    P err ∨ ∃ d, named d ∧ err = .entityConflict d.path ∧ ∃ b, b ≠ d ∧
      t'.registry.find? d.path = some b ∧ (t.registry.find? d.path = some b ∨ named b) := by
  have hbody : Confined named P (register entity >>= fun _ => x) :=
    (confined_register hentity).bind fun _ _ _ => hx
  rw [run_overEntity] at h
  obtain ⟨herr, rfl⟩ := Prod.ext_iff.mp h
  refine (hbody.error t err herr).imp_right ?_
  rintro ⟨d, hd, rfl, b, hne, hb⟩
  exact ⟨d, hd, rfl, b, hne, hb, hbody.bound t d.path b hb⟩

end Compilation

/-! ### The theorem -/

/-- A compilation of an expression over an entity, as a predicate or as an operand, that fails does
so in one of two ways. Either the entity or one that the expression names is in conflict with
another one, which has its path then and was registered before or is needed by the same compilation.
Or the error arises in compilation and is of one of four classes; one of an unsupported shape is
then about the expression or a part of it, by its canonical text, or reports the bound on nesting
there. -/
theorem origin_of_compile_eq_error {entity : Entity} {config : Config} {e : Expr} {t t' : Trace}
    {err : Error} (h : (compilePredicate entity config e).run t = (.error err, t') ∨
      (compileOperand entity config e).run t = (.error err, t')) :
    (err.origin = .model ∧ err.category = .invalidOperator ∧
        ∃ d ∈ entity :: e.details, ∃ b, b ≠ d ∧ b.path = d.path ∧ err = .entityConflict d.path ∧
          t'.registry.find? d.path = some b ∧
          (t.registry.find? d.path = some b ∨ b ∈ entity :: e.details)) ∨
      (err.origin = .compile ∧
        err.category ∈ [.unsupportedShape, .invalidOperator, .outOfRange, .unknownMember] ∧
        (err.category = .unsupportedShape → ∃ c : Expr, c.Within e ∧
          (err.message = "unsupported expression shape: " ++ c.display ∨
            err = .nestingTooDeep config.maxDepth c.display))) := by
  let named : Entity → Prop := (· ∈ entity :: e.details)
  let P : Error → Prop := fun err => ∃ c : Expr, c.Within e ∧
    (err.ArisesIn c.display ∨ err = .nestingTooDeep config.maxDepth c.display)
  have hentity : named entity := List.mem_cons_self
  have hlower : Compilation.Confined named P
        (Compilation.lowerPredicate config config.maxDepth entity e) ∧
      Compilation.Confined named P
        (Compilation.lowerOperand config config.maxDepth entity e) := by
    apply Compilation.confined_lower
    · exact fun d hd => List.mem_cons_of_mem entity hd
    · exact fun c _ hc herr => ⟨c, hc, .inl herr⟩
    · exact fun c hc => ⟨c, hc, .inr rfl⟩
  have hcases : P err ∨ ∃ d, named d ∧ err = .entityConflict d.path ∧ ∃ b, b ≠ d ∧
      t'.registry.find? d.path = some b ∧ (t.registry.find? d.path = some b ∨ named b) := by
    rcases h with h | h
    · exact hlower.1.cases_of_overEntity hentity h
    · exact hlower.2.cases_of_overEntity hentity h
  rcases hcases with ⟨c, hc, herr | rfl⟩ | ⟨d, hd, rfl, b, hne, hb, horigin⟩
  · refine .inr ⟨herr.origin_eq, herr.category_mem, fun hcategory => ⟨c, hc, .inl ?_⟩⟩
    rw [herr.eq_unsupportedShape hcategory]
    rfl
  · exact .inr ⟨rfl, List.mem_cons_self, fun _ => ⟨c, hc, .inr rfl⟩⟩
  · exact .inl ⟨rfl, rfl, d, hd, b, hne, Registry.path_of_find? hb, rfl, hb, horigin⟩

/-- A subquery over another entity with the path of the first one, and a method that filters do not
have below a negation. -/
theorem origin_of_compile_eq_error_subquery :
    let id : Field := ⟨"id", .int, false⟩
    let person : Entity := ⟨"Person", "person", [id]⟩
    let other : Entity := ⟨"Other", "person", []⟩
    let subquery : Expr := .existsIn (.field "id") other "id" false
    let call : Expr := .callWith "resembles" (.field "id") (.constant (.int 1))
    let t : Trace := ⟨.empty, []⟩
    (∃ t', (compilePredicate person .default subquery).run t =
        (.error (.entityConflict "person"), t') ∧
      ∃ d ∈ person :: subquery.details, ∃ b, b ≠ d ∧ t'.registry.find? d.path = some b) ∧
    ∃ t', (compilePredicate person .default (.unary .not call)).run t =
        (.error (.unsupportedShape call.display), t') ∧
      ∃ c : Expr, c.Within (.unary .not call) ∧
        (Error.unsupportedShape call.display).message =
          "unsupported expression shape: " ++ c.display := by
  intro id person other subquery call t
  constructor
  · obtain ⟨t', h⟩ : ∃ t', (compilePredicate person .default subquery).run t =
        (.error (.entityConflict "person"), t') := ⟨_, rfl⟩
    rcases origin_of_compile_eq_error (.inl h) with
      ⟨-, -, d, hd, b, hne, -, -, hb, -⟩ | ⟨horigin, -⟩
    · exact ⟨t', h, d, hd, b, hne, hb⟩
    · cases horigin
  · obtain ⟨t', h⟩ : ∃ t', (compilePredicate person .default (.unary .not call)).run t =
        (.error (.unsupportedShape call.display), t') := ⟨_, rfl⟩
    rcases origin_of_compile_eq_error (.inl h) with ⟨horigin, -⟩ | ⟨-, -, hshape⟩
    · cases horigin
    · obtain ⟨c, hc, hmessage | hnesting⟩ := hshape rfl
      · exact ⟨t', h, c, hc, hmessage⟩
      · cases hnesting

end RowFilter
