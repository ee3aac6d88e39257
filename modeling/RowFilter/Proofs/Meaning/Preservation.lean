import RowFilter.Proofs.Compilation.Conditions
import RowFilter.Proofs.Folding.Evaluation
import RowFilter.Proofs.Meaning.Comparisons

/-!
# Compilation preserves the meaning of filters

A filter is built from connectives, comparisons, members of kind boolean and truth values over
scalar expressions of plain constants. Compiling it and reading the predicate over a row, or putting
the row's values into it and compiling that, is the same truth: the second compilation folds to
truth values all the way down.
-/

namespace RowFilter

/-- A filter over scalar expressions of plain constants. -/
inductive Expr.PlainFilter : Expr → Prop
  | truth (b : Bool) : PlainFilter (.constant (.bool b))
  | field (name : String) : PlainFilter (.field name)
  | and {left right : Expr} (hleft : PlainFilter left) (hright : PlainFilter right) :
      PlainFilter (.binary .andAlso left right)
  | or {left right : Expr} (hleft : PlainFilter left) (hright : PlainFilter right) :
      PlainFilter (.binary .orElse left right)
  | not {operand : Expr} (h : PlainFilter operand) : PlainFilter (.unary .not operand)
  | comparison {op : BinaryOp} {comparator : Comparator} {left right : Expr}
      (hop : op.comparator? = some comparator) (hleft : left.Scalar Value.IsPlain)
      (hright : right.Scalar Value.IsPlain) : PlainFilter (.binary op left right)
  | equals {receiver arg : Expr} (hreceiver : receiver.Scalar Value.IsPlain)
      (harg : arg.Scalar Value.IsPlain) : PlainFilter (.callWith "equals" receiver arg)
  | equalsIgnoringCase {receiver arg : Expr} (hreceiver : receiver.Scalar Value.IsPlain)
      (harg : arg.Scalar Value.IsPlain) : PlainFilter (.callIgnoringCase "equals" receiver arg)

/-- Values of kind boolean are truth values. -/
theorem Value.exists_of_kind_eq_bool {v : Value} (h : v.kind = .bool) : ∃ b, v = .bool b := by
  cases v <;> first | exact ⟨_, rfl⟩ | cases h

/-- Two compiled conditions have the same truth on a row in every registry, and the second is
folded. -/
def SameTruth (row : Row) (q q' : Option Predicate) : Prop :=
  ∃ p p' truth, q = some p ∧ q' = some p' ∧ p'.IsFolded ∧
    ∀ registry, p.holds? registry row = some truth ∧ p'.holds? registry row = some truth

namespace SameTruth

variable {row : Row} {q q' r r' : Option Predicate}

theorem shortCircuit (row : Row) (b : Bool) :
    SameTruth row (some (.shortCircuit b)) (some (.shortCircuit b)) :=
  ⟨_, _, b, rfl, rfl, .shortCircuit b, fun _ => ⟨rfl, rfl⟩⟩

theorem and (h : SameTruth row q q') (hr : SameTruth row r r') :
    SameTruth row (Compilation.combine .and q r) (Compilation.combine .and q' r') := by
  obtain ⟨p, p', a, rfl, rfl, hp, ha⟩ := h
  obtain ⟨s, s', b, rfl, rfl, hs, hb⟩ := hr
  refine ⟨_, _, a && b, rfl, rfl, .joined .and hp hs, fun registry => ?_⟩
  simp [Predicate.holds?, ha registry, hb registry]

theorem or (h : SameTruth row q q') (hr : SameTruth row r r') :
    SameTruth row (Compilation.combine .or q r) (Compilation.combine .or q' r') := by
  obtain ⟨p, p', a, rfl, rfl, hp, ha⟩ := h
  obtain ⟨s, s', b, rfl, rfl, hs, hb⟩ := hr
  refine ⟨_, _, a || b, rfl, rfl, .joined .or hp hs, fun registry => ?_⟩
  simp [Predicate.holds?, ha registry, hb registry]

theorem negate (h : SameTruth row q q') :
    SameTruth row (q.map Predicate.negate) (q'.map Predicate.negate) := by
  obtain ⟨p, p', a, rfl, rfl, hp, ha⟩ := h
  refine ⟨_, _, !a, rfl, rfl, .solo .not hp, fun registry => ?_⟩
  simp [Predicate.negate, Predicate.holds?, ha registry]

end SameTruth

variable {config : Config} {entity : Entity} {row : Row}

namespace Compilation

variable {n : Nat} {t t' : Trace} {q q' : Option Predicate}

/-- A comparison of scalar expressions keeps its truth. -/
theorem sameTruth_of_compareOperands (hwildcard : config.wildcard = defaultWildcard)
    (hrow : row.Conforms entity) {c : Comparator} (hc : c.isOrdering = true) {ignoreCase : Bool}
    {shown shown' : String} {left right : Expr} (hleft : left.Scalar Value.IsPlain)
    (hright : right.Scalar Value.IsPlain)
    (h : outcome? (do
      let l ← lowerOperand config n entity left
      let r ← lowerOperand config n entity right
      compareOperands config shown c ignoreCase l r) t = some q)
    (h' : outcome? (do
      let l ← lowerOperand config n entity (left.atRow row)
      let r ← lowerOperand config n entity (right.atRow row)
      compareOperands config shown' c ignoreCase l r) t' = some q') :
    SameTruth row q q' := by
  obtain ⟨l, _, hl, h⟩ := exists_of_outcome?_bind h
  obtain ⟨r, _, hr, h⟩ := exists_of_outcome?_bind h
  -- once over the members, where the comparison is kept, and once over the values, where it folds
  obtain ⟨p, rfl, hp⟩ := holds?_of_compareOperands hwildcard hc (isSettled_of_lowerOperand hleft hl)
    (isSettled_of_lowerOperand hright hr) h
  obtain ⟨l', _, hl', h'⟩ := exists_of_outcome?_bind h'
  obtain ⟨r', _, hr', h'⟩ := exists_of_outcome?_bind h'
  obtain ⟨a, rfl, ha⟩ := (folds_of_lowerOperand hrow hleft hl).exists_of_outcome hl'
  obtain ⟨b, rfl, hb⟩ := (folds_of_lowerOperand hrow hright hr).exists_of_outcome hr'
  rw [outcome?_compareOperands_value] at h'
  obtain ⟨truth, htruth, rfl⟩ := Option.map_eq_some_iff.mp h'
  refine ⟨p, _, truth, rfl, rfl, .shortCircuit truth, fun registry => ⟨?_, rfl⟩⟩
  rw [hp registry row a b (ha registry) (hb registry), htruth]

/-- A member of kind boolean as a condition is the constant that the row has for it. -/
theorem sameTruth_of_field (hrow : row.Conforms entity) {name : String}
    (h : outcome? (lowerPredicate config (n + 1) entity (.field name)) t = some q)
    (h' : outcome? (lowerPredicate config (n + 1) entity ((Expr.field name).atRow row)) t' =
      some q') : SameTruth row q q' := by
  by_cases hname : name = "has_value"
  · -- the row is no operand, so there is nothing to ask for a value
    rw [hname, Expr.field, lowerPredicate_hasValue] at h
    obtain ⟨_, _, ho, -⟩ := exists_of_outcome?_bind h
    obtain ⟨n, rfl⟩ := exists_depth_of_lowerOperand ho
    rw [lowerOperand_row, outcome?_throw] at ho
    cases ho
  · rw [Expr.field, lowerPredicate_member _ _ _ hname] at h
    obtain ⟨o, _, ho, h⟩ := exists_of_outcome?_bind h
    obtain ⟨u, hu, rfl⟩ := exists_of_lowerOperand_field ho
    obtain ⟨v, hv, hvalue, hkind⟩ := Term.exists_of_ofEntity hrow hu
    rcases asCondition_cases h with ⟨_, ho, -⟩ | ⟨_, ho, hbool, rfl⟩
    · cases ho
    · cases ho
      -- the declared kind is boolean, so the row has a truth value for the member
      have hvkind : v.kind = .bool := Except.ok.inj ((hkind.declared _).symm.trans hbool)
      obtain ⟨b, rfl⟩ := Value.exists_of_kind_eq_bool hvkind
      rw [Expr.atRow_field hv, lowerPredicate_truth, outcome?_pure] at h'
      refine ⟨_, _, b, rfl, (Option.some.inj h').symm, .shortCircuit b, fun registry => ⟨?_, rfl⟩⟩
      rw [Predicate.holds?, hvalue registry]
      cases b <;> rfl

/-- A filter and the filter with the row's values in it have the same truth. -/
theorem sameTruth_of_lowerPredicate (hwildcard : config.wildcard = defaultWildcard)
    (hrow : row.Conforms entity) {e : Expr} (he : e.PlainFilter) :
    ∀ {n : Nat} {t t' : Trace} {q q' : Option Predicate},
      outcome? (lowerPredicate config n entity e) t = some q →
      outcome? (lowerPredicate config n entity (e.atRow row)) t' = some q' →
        SameTruth row q q' := by
  -- on the filter, with the depth free; both compilations take the same equation of each shape
  induction he with
  | truth b =>
    intro n t t' q q' h h'
    obtain ⟨n, rfl⟩ := exists_depth_of_lowerPredicate h
    rw [lowerPredicate_truth, outcome?_pure] at h
    rw [Expr.atRow, lowerPredicate_truth, outcome?_pure] at h'
    rw [← Option.some.inj h, ← Option.some.inj h']
    exact .shortCircuit row b
  | field name =>
    intro n t t' q q' h h'
    obtain ⟨n, rfl⟩ := exists_depth_of_lowerPredicate h
    exact sameTruth_of_field hrow h h'
  | and _ _ ihleft ihright =>
    intro n t t' q q' h h'
    rw [Expr.atRow] at h'
    obtain ⟨n, p, r, _, _, rfl, hp, hr, rfl⟩ :=
      exists_of_lowerPredicate_connected (.inl ⟨rfl, rfl⟩) h
    obtain ⟨_, p', r', _, _, hn, hp', hr', rfl⟩ :=
      exists_of_lowerPredicate_connected (.inl ⟨rfl, rfl⟩) h'
    cases hn
    exact (ihleft hp hp').and (ihright hr hr')
  | or _ _ ihleft ihright =>
    intro n t t' q q' h h'
    rw [Expr.atRow] at h'
    obtain ⟨n, p, r, _, _, rfl, hp, hr, rfl⟩ :=
      exists_of_lowerPredicate_connected (.inr ⟨rfl, rfl⟩) h
    obtain ⟨_, p', r', _, _, hn, hp', hr', rfl⟩ :=
      exists_of_lowerPredicate_connected (.inr ⟨rfl, rfl⟩) h'
    cases hn
    exact (ihleft hp hp').or (ihright hr hr')
  | not _ ih =>
    intro n t t' q q' h h'
    rw [Expr.atRow] at h'
    obtain ⟨n, p, _, rfl, hp, rfl⟩ := exists_of_lowerPredicate_not h
    obtain ⟨_, p', _, hn, hp', rfl⟩ := exists_of_lowerPredicate_not h'
    cases hn
    exact (ih hp hp').negate
  | comparison hop hleft hright =>
    intro n t t' q q' h h'
    obtain ⟨n, rfl⟩ := exists_depth_of_lowerPredicate h
    rw [lowerPredicate_comparison _ _ _ hop] at h
    rw [Expr.atRow, lowerPredicate_comparison _ _ _ hop] at h'
    exact sameTruth_of_compareOperands hwildcard hrow
      (BinaryOp.isOrdering_of_comparator? hop) hleft hright h h'
  | equals hreceiver harg =>
    intro n t t' q q' h h'
    obtain ⟨n, rfl⟩ := exists_depth_of_lowerPredicate h
    rw [Expr.callWith, lowerPredicate_equals _ _ _ rfl] at h
    rw [Expr.callWith, Expr.atRow, Expr.atRowAll_eq_map, List.map_singleton,
      lowerPredicate_equals _ _ _ rfl] at h'
    exact sameTruth_of_compareOperands hwildcard hrow rfl hreceiver harg h h'
  | equalsIgnoringCase hreceiver harg =>
    intro n t t' q q' h h'
    obtain ⟨n, rfl⟩ := exists_depth_of_lowerPredicate h
    rw [Expr.callIgnoringCase, lowerPredicate_equals _ _ _ rfl] at h
    rw [Expr.callIgnoringCase, Expr.atRow, Expr.atRowAll_eq_map, List.map_cons,
      List.map_singleton, Expr.atRow, lowerPredicate_equals _ _ _ rfl] at h'
    exact sameTruth_of_compareOperands hwildcard hrow rfl hreceiver harg h h'

end Compilation

/-! ### The theorem -/

/-- Under the default wildcard, wherever a filter over plain constants compiles to a predicate and
the filter with the row's values in it compiles too, the second is folded and the two have the same
truth on the row. -/
theorem holds?_eq_of_compilePredicate {e : Expr} {t t' : Trace} {p p' : Predicate}
    (hwildcard : config.wildcard = defaultWildcard) (he : e.PlainFilter)
    (hrow : row.Conforms entity)
    (h : ((compilePredicate entity config e).run t).1 = .ok (some p))
    (h' : ((compilePredicate entity config (e.atRow row)).run t').1 = .ok (some p'))
    (registry : Registry) :
    p'.IsFolded ∧ ∃ truth, p.holds? registry row = some truth ∧
      p'.holds? registry row = some truth := by
  rw [compilePredicate, ← toOption_eq_some_iff, Compilation.toOption_run_overEntity] at h h'
  obtain ⟨_, -, h⟩ := Option.bind_eq_some_iff.mp h
  obtain ⟨_, -, h'⟩ := Option.bind_eq_some_iff.mp h'
  obtain ⟨p, p', truth, hp, hp', hfolded, hholds⟩ :=
    Compilation.sameTruth_of_lowerPredicate hwildcard hrow he h h'
  cases hp
  cases hp'
  exact ⟨hfolded, truth, hholds registry⟩

/-- A constant that changes sides against a text function, on a row that passes the filter. -/
theorem holds?_eq_of_compilePredicate_swapped :
    let entity : Entity := ⟨"Person", "person", [⟨"name", .text, false⟩]⟩
    let row := Row.ofList [("name", .text "Ann")]
    let e : Expr := .binary .less (.constant (.text "all")) (.call (.field "name") "to_lower" [])
    let name : Term := .member ⟨"person", "name", some ⟨"name", .text, false⟩⟩
    let p : Predicate := .comparison (.unary .toLower name []) .greater (.value (.text "all")) false
    let t : Trace := ⟨.empty, []⟩
    e.PlainFilter ∧ row.Conforms entity ∧
      ((compilePredicate entity .default e).run t).1 = .ok (some p) ∧
      ((compilePredicate entity .default (e.atRow row)).run t).1 =
        .ok (some (.shortCircuit true)) ∧
      p.holds? .empty row = some true := by
  intro entity row e name p t
  have he : e.PlainFilter :=
    .comparison rfl (.constant ⟨rfl, rfl, rfl⟩) (.textFunction rfl (.field "name") nofun)
  have hrow : row.Conforms entity :=
    .of_fields (List.forall_mem_singleton.mpr ⟨.text "Ann", rfl, rfl⟩)
  have h : ((compilePredicate entity .default e).run t).1 = .ok (some p) := rfl
  have h' : ((compilePredicate entity .default (e.atRow row)).run t).1 =
      .ok (some (.shortCircuit true)) := rfl
  obtain ⟨-, truth, hp, hfolded⟩ := holds?_eq_of_compilePredicate rfl he hrow h h' .empty
  cases hfolded
  exact ⟨he, hrow, h, h', hp⟩

end RowFilter
