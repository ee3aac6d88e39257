import RowFilter.Compilation.Basic
import RowFilter.Proofs.Compilation.Congruence

/-!
# The bound on nesting

The bound only ever cuts a compilation off. What ends under a bound in any way but an error of
nesting ends in the same way under every larger bound, and leaves the same trace
(`compile_eq_of_le`). Twice the height of an expression is enough of a bound: a level of the
expression takes a level of depth, and a second one where a value stands in the place of a condition
or a condition in the place of a value.
-/

namespace RowFilter

/-! ### Height -/

mutual

/-- Height of an expression; what has no parts has height one. -/
def Expr.height : Expr → Nat
  | .row | .constant _ | .nonFinite _ => 1
  | .member target _ => target.height + 1
  | .unary _ operand => operand.height + 1
  | .binary _ left right => max left.height right.height + 1
  | .call target _ args => max target.height (Expr.maxHeight args) + 1
  | .staticCall _ args => Expr.maxHeight args + 1
  | .existsIn outer _ _ _ => outer.height + 1
  | .existsWhere outer _ _ filter _ => max outer.height filter.height + 1

/-- The largest height of a list of expressions. -/
def Expr.maxHeight : List Expr → Nat
  | [] => 0
  | e :: es => max e.height (Expr.maxHeight es)

end

namespace Expr

theorem height_pos (e : Expr) : 0 < e.height := by
  cases e <;> simp [height]

/-- An expression is higher than its parts. -/
theorem height_lt_of_mem_parts {c e : Expr} (h : c ∈ e.parts) : c.height < e.height := by
  have hparts : e.height = maxHeight e.parts + 1 := by
    cases e <;> simp [height, maxHeight, parts]
  have hc : c.height ≤ maxHeight e.parts := by
    refine le_of_mem_of_cons_eq_max (fun d ds => ?_) h
    rw [maxHeight]
  omega

end Expr

namespace Compilation

variable {α : Type} {config : Config} {d : Nat} {entity : Entity}

/-! ### More depth -/

/-- From every trace on, the first computation fails by nesting or the second does the same. -/
def DeepensTo (α : Type) (x y : Compilation α) : Prop :=
  ∀ t, (∀ limit shown, (x.run.run t).1 ≠ .error (.nestingTooDeep limit shown)) →
    y.run.run t = x.run.run t

theorem sequential_deepensTo (shown : String) :
    Sequential shown (fun _ => True) DeepensTo where
  own _ _ _ := rfl
  register _ _ _ _ := rfl
  bind {α β x y f g} hxy hfg := by
    intro t hnests
    rw [run_bind] at hnests
    rw [run_bind, run_bind]
    -- a failure of the first part is a failure of the whole
    have hx : ∀ limit shown, (x.run.run t).1 ≠ .error (.nestingTooDeep limit shown) := by
      intro limit shown hx
      rcases hrun : x.run.run t with ⟨err | a, t'⟩ <;> rw [hrun] at hx hnests <;> cases hx
      exact hnests limit shown rfl
    rw [hxy t hx]
    rcases hrun : x.run.run t with ⟨err | a, t'⟩
    · rfl
    · rw [hrun] at hnests
      exact hfg a t (by rw [outcome?, hrun]; rfl) t' hnests

/-- A compilation does the same with more depth, as a condition and as a value. -/
theorem deepensTo_of_le : ∀ {n m : Nat} {entity : Entity} {e : Expr}, n ≤ m →
    DeepensTo (Option Predicate) (lowerPredicate config n entity e)
        (lowerPredicate { config with maxDepth := d } m entity e) ∧
      DeepensTo Operand (lowerOperand config n entity e)
        (lowerOperand { config with maxDepth := d } m entity e) := by
  intro n
  -- on the smaller depth: a level of both compilations is the same but for the depth of its parts
  induction n with
  | zero =>
    -- without depth the first compilation fails by nesting, which leaves nothing to show
    intro m entity e hle
    exact ⟨fun t hnests => absurd rfl (hnests _ _), fun t hnests => absurd rfl (hnests _ _)⟩
  | succ n ih =>
    intro m entity e hle
    obtain ⟨k, rfl⟩ := Nat.exists_eq_add_of_le' hle
    have hk : n ≤ k + n := Nat.le_add_left n k
    constructor
    · exact (sequential_deepensTo _).lowerPredicate (fun _ _ => trivial)
        (fun c _ entity => (ih hk).1) (fun c _ => (ih hk).2) fun _ => (ih hk).2
    · exact (sequential_deepensTo _).lowerOperand (fun c _ => (ih hk).2) fun _ => (ih hk).1

/-! ### Enough depth -/

/-- No error of a computation is one of nesting. -/
def NeverNests (x : Compilation α) : Prop :=
  FailsAs (fun err => ∀ limit shown, err ≠ .nestingTooDeep limit shown) x

theorem sequential_neverNests (shown : String) :
    Sequential shown (fun _ => True) fun _ x _ => NeverNests x where
  own hx := by
    rintro t err herr limit shown' rfl
    exact hx.error t _ herr
  register entity _ := by
    rintro t err herr limit shown' rfl
    cases failsAs_register entity t _ herr
  bind := FailsAs.bind

/-- A compilation with two levels of depth for each level of the expression has enough, and one
level less is enough for a condition as a condition and for a value as a value. -/
theorem neverNests_of_height_le : ∀ {n : Nat} {entity : Entity} {e : Expr},
    (2 * e.height ≤ n + e.isPredicate.toNat → NeverNests (lowerPredicate config n entity e)) ∧
      (2 * e.height ≤ n + (!e.isPredicate).toNat →
        NeverNests (lowerOperand config n entity e)) := by
  intro n
  induction n with
  | zero =>
    intro entity e
    have hpos := e.height_pos
    have hbool := e.isPredicate.toNat_le
    have hbool' := (!e.isPredicate).toNat_le
    constructor <;> intro hle <;> omega
  | succ n ih =>
    intro entity e
    have hbool := e.isPredicate.toNat_le
    have hbool' := (!e.isPredicate).toNat_le
    -- a part is lower by one, so two levels less are enough for it, in whichever position
    have hparts : 2 * e.height ≤ n + 2 → ∀ c ∈ e.parts, 2 * c.height ≤ n := by
      intro hle c hc
      have hlt := Expr.height_lt_of_mem_parts hc
      omega
    constructor
    · intro hle
      have hparts := hparts (by omega)
      refine (sequential_neverNests _).lowerPredicate (d := 0) (m := 0) ?_ ?_ ?_ ?_
      · exact fun _ _ => trivial
      · exact fun c hc entity => ih.1 (Nat.le_add_right_of_le (hparts c hc))
      · exact fun c hc => ih.2 (Nat.le_add_right_of_le (hparts c hc))
      · -- a value as a condition is compiled once more, at one level less
        intro he
        refine ih.2 ?_
        rw [he] at hle ⊢
        exact hle
    · intro hle
      have hparts := hparts (by omega)
      refine (sequential_neverNests _).lowerOperand (d := 0) (m := 0) ?_ ?_
      · exact fun c hc => ih.2 (Nat.le_add_right_of_le (hparts c hc))
      · -- and so is a condition as a value
        intro he
        refine ih.1 ?_
        rw [he] at hle ⊢
        exact hle

/-! ### Whole compilations -/

/-- A compilation over an entity does what its body does once the entity is bound, and reports its
own event after it. -/
theorem run_overEntity (entity : Entity) (body : Compilation α) (t : Trace) :
    (overEntity entity body).run t =
      let outcome := (register entity >>= fun _ => body).run.run t
      (outcome.1, { outcome.2 with
        events := outcome.2.events ++ [.compile entity.path outcome.1.isOk] }) := rfl

/-- A compilation over an entity that succeeds has bound the entity, and its body succeeds from
there. -/
theorem exists_of_run_overEntity {x : Compilation α} {a : α} {t t' : Trace}
    (h : (overEntity entity x).run t = (.ok a, t')) :
    ∃ registry s, t.registry.register entity = .ok registry ∧
      x.run.run { t with registry } = (.ok a, s) ∧
      t' = { s with events := s.events ++ [.compile entity.path true] } := by
  rw [run_overEntity, run_bind, run_register] at h
  cases hregister : t.registry.register entity with
  | error err =>
    rw [hregister] at h
    cases h
  | ok registry =>
    rw [hregister] at h
    rcases hrun : x.run.run { t with registry } with ⟨outcome, s⟩
    dsimp only at h
    rw [hrun] at h
    cases h
    exact ⟨registry, s, rfl, hrun, rfl⟩

/-- What a body does with more depth, a compilation over an entity does with it. -/
theorem overEntity_deepensTo {x y : Compilation α} (hxy : DeepensTo α x y) {t : Trace}
    (hnests : ∀ limit shown,
      ((overEntity entity x).run t).1 ≠ .error (.nestingTooDeep limit shown)) :
    (overEntity entity y).run t = (overEntity entity x).run t := by
  have hseq := sequential_deepensTo entity.path
  have hbody := hseq.bind (hseq.register entity trivial) fun _ _ _ => hxy
  rw [run_overEntity, run_overEntity, hbody t hnests]

/-- What a body never fails by, a compilation over an entity never fails by. -/
theorem overEntity_ne_nestingTooDeep {x : Compilation α} (hx : NeverNests x) (t : Trace)
    (limit : Nat) (shown : String) :
    ((overEntity entity x).run t).1 ≠ .error (.nestingTooDeep limit shown) := by
  intro h
  have hregister : NeverNests (register entity) :=
    (sequential_neverNests entity.path).register entity trivial
  exact hregister.bind (fun _ _ _ => hx) t _ h limit shown rfl

end Compilation

/-- A compilation that does not fail by nesting does the same under every larger bound, and with a
bound of twice the height of the expression it never fails by nesting. -/
theorem compile_eq_of_le (entity : Entity) (config : Config) (e : Expr) {d d' : Nat} (hle : d ≤ d')
    (t : Trace) :
    ((∀ limit shown, ((compilePredicate entity { config with maxDepth := d } e).run t).1 ≠
          .error (.nestingTooDeep limit shown)) →
        (compilePredicate entity { config with maxDepth := d' } e).run t =
          (compilePredicate entity { config with maxDepth := d } e).run t) ∧
      ((∀ limit shown, ((compileOperand entity { config with maxDepth := d } e).run t).1 ≠
          .error (.nestingTooDeep limit shown)) →
        (compileOperand entity { config with maxDepth := d' } e).run t =
          (compileOperand entity { config with maxDepth := d } e).run t) ∧
      (2 * e.height ≤ d → ∀ limit shown,
        ((compilePredicate entity { config with maxDepth := d } e).run t).1 ≠
            .error (.nestingTooDeep limit shown) ∧
          ((compileOperand entity { config with maxDepth := d } e).run t).1 ≠
            .error (.nestingTooDeep limit shown)) := by
  refine ⟨Compilation.overEntity_deepensTo (Compilation.deepensTo_of_le hle).1,
    Compilation.overEntity_deepensTo (Compilation.deepensTo_of_le hle).2, ?_⟩
  intro hheight limit shown
  constructor
  · refine Compilation.overEntity_ne_nestingTooDeep ?_ t limit shown
    exact Compilation.neverNests_of_height_le.1 (Nat.le_add_right_of_le hheight)
  · refine Compilation.overEntity_ne_nestingTooDeep ?_ t limit shown
    exact Compilation.neverNests_of_height_le.2 (Nat.le_add_right_of_le hheight)

/-- A negated subquery with a filter, which needs a depth of five. -/
theorem compile_eq_of_le_subquery :
    let id : Field := ⟨"id", .int, false⟩
    let paid : Field := ⟨"paid", .bool, false⟩
    let personId : Field := ⟨"person_id", .int, false⟩
    let person : Entity := ⟨"Person", "person", [id]⟩
    let order : Entity := ⟨"Order", "order", [personId, paid]⟩
    let e : Expr := .unary .not (.existsWhere (.field "id") order "person_id"
      (.unary .not (.field "paid")) false)
    let bounded := fun maxDepth => (compilePredicate person { Config.default with maxDepth } e).run
      ⟨.empty, []⟩
    (bounded 4).1 = .error (.nestingTooDeep 4 "row.paid") ∧
      (bounded 5).1.isOk = true ∧ bounded 64 = bounded 5 ∧
      e.height = 5 ∧ ∀ limit shown, (bounded 64).1 ≠ .error (.nestingTooDeep limit shown) := by
  intro id paid personId person order e bounded
  refine ⟨rfl, rfl, ?_, rfl, ?_⟩
  · exact (compile_eq_of_le person .default e (by decide) ⟨.empty, []⟩).1 nofun
  · intro limit shown
    exact ((compile_eq_of_le person .default e (Nat.le_refl 64) ⟨.empty, []⟩).2.2 (by decide)
      limit shown).1

end RowFilter
