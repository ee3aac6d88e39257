import RowFilter.Compilation.Basic
import RowFilter.Proofs.Compilation.Steadiness
import RowFilter.Proofs.Meaning.Comparisons

/-!
# Comparisons read from right to left

A comparison and the same comparison read from right to left compile alike, unless both sides are
terms: a constant always ends up on the right of the term, and two constants fold to the same truth.
The one difference is in the events, as a constant on the left is reported to have changed sides.
-/

namespace RowFilter

/-- The operator that relates two operands as a comparison does, read from right to left. -/
def BinaryOp.reverse : BinaryOp → BinaryOp
  | .greater => .less
  | .greaterOrEqual => .lessOrEqual
  | .less => .greater
  | .lessOrEqual => .greaterOrEqual
  | op => op

/-- The comparator of a reversed operator is the reversed comparator. -/
theorem BinaryOp.comparator?_reverse (op : BinaryOp) :
    op.reverse.comparator? = op.comparator?.map Comparator.reverse := by
  cases op <;> rfl

namespace Compilation

variable {config : Config} {entity : Entity} {n : Nat} {op : BinaryOp} {c : Comparator}
  {a b : Expr} {l r : Operand}

/-- A constant on the right of a term stays there. -/
theorem outcome?_compareOperands_term_value {shown : String} {ignoreCase : Bool} (u : Term)
    (v : Value) (t : Trace) :
    outcome? (compareOperands config shown c ignoreCase (.term u) (.value v)) t =
      (Comparison.withValue u c v config.wildcard).toOption.map (asPredicate ignoreCase) := by
  rw [compareOperands, outcome?_map, outcome?_compared]
  rfl

/-- A constant on the left of a term changes sides, and the comparator is reversed. -/
theorem outcome?_compareOperands_value_term {shown : String} {ignoreCase : Bool} (v : Value)
    (u : Term) (t : Trace) :
    outcome? (compareOperands config shown c ignoreCase (.value v) (.term u)) t =
      (Comparison.withValue u c.reverse v config.wildcard).toOption.map
        (asPredicate ignoreCase) := by
  have hreport : ∀ {α : Type} (x : Compilation α) (event : Event) (s : Trace),
      outcome? (report event >>= fun _ => x) s =
        outcome? x { s with events := s.events ++ [event] } := fun _ _ _ => rfl
  rw [compareOperands, hreport, outcome?_map, outcome?_compared]

/-- Two operands of which one is a constant compare as they do from right to left. -/
theorem outcome?_compareOperands_reverse {shown shown' : String} {ignoreCase : Bool}
    (hsides : l.value?.isSome = true ∨ r.value?.isSome = true) (t t' : Trace) :
    outcome? (compareOperands config shown c ignoreCase l r) t =
      outcome? (compareOperands config shown' c.reverse ignoreCase r l) t' := by
  cases l with
  | term u =>
    cases r with
    | term w => simp [Operand.value?] at hsides
    | value v =>
      -- the reversed comparison brings the constant back by a second reversal
      rw [outcome?_compareOperands_term_value, outcome?_compareOperands_value_term,
        Comparator.reverse_reverse]
  | value v =>
    cases r with
    | term u => rw [outcome?_compareOperands_value_term, outcome?_compareOperands_term_value]
    | value w =>
      rw [outcome?_compareOperands_value, outcome?_compareOperands_value,
        Value.comparison?_reverse]

/-- A comparison of operands that compile at all has one outcome, from whatever trace. -/
theorem outcome?_lowerPredicate_comparison {t₁ t₂ : Trace} (hop : op.comparator? = some c)
    (ha : outcome? (lowerOperand config n entity a) t₁ = some l)
    (hb : outcome? (lowerOperand config n entity b) t₂ = some r) (t t' : Trace) :
    outcome? (lowerPredicate config (n + 1) entity (.binary op a b)) t =
      outcome? (compareOperands config (Expr.binary op a b).display c false l r) t' := by
  rw [lowerPredicate_comparison _ _ _ hop]
  refine ((steadyAt _ _).operand ha).outcome?_bind (fun s => ?_) t
  refine ((steadyAt _ _).operand hb).outcome?_bind (fun s => ?_) s
  exact (local_compareOperands (BinaryOp.isOrdering_of_comparator? hop) false l r).outcome?_eq s t'

/-- A comparison as a value is the truth value that it folds to as a condition. -/
theorem outcome?_lowerOperand_comparison (hop : op.comparator? = some c) (t : Trace) :
    outcome? (lowerOperand config (n + 1) entity (.binary op a b)) t =
      (outcome? (lowerPredicate config n entity (.binary op a b)) t).bind fun q =>
        (q.bind Predicate.truth?).map fun truth => .value (.bool truth) := by
  have hpredicate : (Expr.binary op a b).isPredicate = true := by
    rw [Expr.isPredicate, BinaryOp.isComparison, hop]
    rfl
  rw [lowerOperand_condition _ _ _ hpredicate]
  refine outcome?_bind Option.map_id'.symm fun q s => ?_
  unfold asOperand
  cases q.bind Predicate.truth? <;> rfl

/-- A comparison of operands, one of them a constant, compiles as it does from right to left: as a
condition with one level of depth more than its sides, and as a value with two. -/
theorem outcome?_lower_reverse {t₁ t₂ : Trace} (hop : op.comparator? = some c)
    (ha : outcome? (lowerOperand config n entity a) t₁ = some l)
    (hb : outcome? (lowerOperand config n entity b) t₂ = some r)
    (hsides : l.value?.isSome = true ∨ r.value?.isSome = true) (t : Trace) :
    outcome? (lowerPredicate config (n + 1) entity (.binary op a b)) t =
        outcome? (lowerPredicate config (n + 1) entity (.binary op.reverse b a)) t ∧
      outcome? (lowerOperand config (n + 2) entity (.binary op a b)) t =
        outcome? (lowerOperand config (n + 2) entity (.binary op.reverse b a)) t := by
  have hreverse : op.reverse.comparator? = some c.reverse := by
    rw [BinaryOp.comparator?_reverse, hop]
    rfl
  have hcondition : outcome? (lowerPredicate config (n + 1) entity (.binary op a b)) t =
      outcome? (lowerPredicate config (n + 1) entity (.binary op.reverse b a)) t := by
    rw [outcome?_lowerPredicate_comparison hop ha hb t t,
      outcome?_lowerPredicate_comparison hreverse hb ha t t]
    exact outcome?_compareOperands_reverse hsides t t
  refine ⟨hcondition, ?_⟩
  rw [outcome?_lowerOperand_comparison hop, outcome?_lowerOperand_comparison hreverse, hcondition]

end Compilation

/-- Whatever operands two expressions compile to, one of them a constant, a comparison of the two
compiles as the same comparison does from right to left, as a condition and as a value. -/
theorem compile_binary_reverse {entity : Entity} {config : Config} {op : BinaryOp} {a b : Expr}
    {n : Nat} {l r : Operand} {t₁ t₂ : Trace} (hop : op.isComparison = true)
    (ha : Compilation.outcome? (Compilation.lowerOperand config n entity a) t₁ = some l)
    (hb : Compilation.outcome? (Compilation.lowerOperand config n entity b) t₂ = some r)
    (hsides : l.value?.isSome = true ∨ r.value?.isSome = true) (t : Trace) :
    (config.maxDepth = n + 1 →
        ((compilePredicate entity config (.binary op a b)).run t).1.toOption =
          ((compilePredicate entity config (.binary op.reverse b a)).run t).1.toOption) ∧
      (config.maxDepth = n + 2 →
        ((compileOperand entity config (.binary op a b)).run t).1.toOption =
          ((compileOperand entity config (.binary op.reverse b a)).run t).1.toOption) := by
  obtain ⟨c, hc⟩ := Option.isSome_iff_exists.mp hop
  have hlower := Compilation.outcome?_lower_reverse hc ha hb hsides
  constructor <;> intro hdepth
  · rw [compilePredicate, compilePredicate, hdepth, Compilation.toOption_run_overEntity,
      Compilation.toOption_run_overEntity]
    cases t.registry.register entity with
    | error err => rfl
    | ok registry => exact (hlower _).1
  · rw [compileOperand, compileOperand, hdepth, Compilation.toOption_run_overEntity,
      Compilation.toOption_run_overEntity]
    cases t.registry.register entity with
    | error err => rfl
    | ok registry => exact (hlower _).2

/-- Null and a column under an ordering, which is a test of the column for null either way. -/
theorem compile_binary_reverse_null :
    let age : Field := ⟨"age", .int, true⟩
    let person : Entity := ⟨"Person", "person", [age]⟩
    let a : Expr := .constant .null
    let b : Expr := .field "age"
    let u : Term := .member ⟨"person", "age", some age⟩
    let t : Trace := ⟨.empty, []⟩
    BinaryOp.isComparison .less = true ∧
      Compilation.outcome? (Compilation.lowerOperand .default 63 person a) t =
        some (.value .null) ∧
      Compilation.outcome? (Compilation.lowerOperand .default 63 person b) t = some (.term u) ∧
      ((compilePredicate person .default (.binary .less a b)).run t).1.toOption =
        some (some (.comparison u .isNotNull .empty false)) ∧
      ((compilePredicate person .default (.binary .greater b a)).run t).1.toOption =
        some (some (.comparison u .isNotNull .empty false)) := by
  intro age person a b u t
  have ha : Compilation.outcome? (Compilation.lowerOperand .default 63 person a) t =
      some (.value .null) := rfl
  have hb : Compilation.outcome? (Compilation.lowerOperand .default 63 person b) t =
      some (.term u) := rfl
  have hless : ((compilePredicate person .default (.binary .less a b)).run t).1.toOption =
      some (some (.comparison u .isNotNull .empty false)) := rfl
  have hop : BinaryOp.isComparison .less = true := rfl
  have hreverse := compile_binary_reverse hop ha hb (.inl rfl) t
  exact ⟨hop, ha, hb, hless,
    (hreverse.1 rfl).symm.trans hless⟩

end RowFilter
