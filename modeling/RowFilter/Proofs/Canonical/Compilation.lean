import RowFilter.Proofs.Canonical.Construction
import RowFilter.Proofs.Compilation.Conditions
import RowFilter.Proofs.WellFormed.Operands

/-!
# Compiled comparisons are in normal form

Every comparison in a compiled predicate is made under the configured wildcard, so making it once
more from its own parts changes nothing. Some comparisons of the compilation are made under the
default wildcard instead; they compare with a truth value or with a term, which no wildcard touches.
-/

namespace RowFilter

namespace Comparison

variable {left : Term} {c : Comparator} {w : Char} {made : Comparison}

/-- What a value is assigned has no comparison in it. -/
theorem Assigned.comparisons_eq_nil {v : Value} {c' : Comparator} {right : RightSide}
    (h : Assigned w c v c' right) : right.comparisons = [] := by
  cases h <;> rfl

/-- A comparison whose right side has none in it is the only one of its predicate. -/
theorem forall_comparisons_toPredicate {P : Comparison → Prop} (h : P made)
    (hright : made.right.comparisons = []) : ∀ d ∈ made.toPredicate.comparisons, P d := by
  intro d hd
  rw [toPredicate, Predicate.comparisons, hright, List.mem_singleton] at hd
  rw [hd]
  exact h

/-- A comparison with a value is made under the wildcard that it was made under. -/
theorem allMade_of_withValue {v : Value} (ignoreCase : Bool)
    (h : withValue left c v w = .ok made) :
    ∀ d ∈ (made.ignoringCase ignoreCase).toPredicate.comparisons, d.MadeUnder w := by
  refine forall_comparisons_toPredicate (.value ignoreCase h) ?_
  obtain ⟨c', right, hassigned, rfl⟩ := withValue_eq_ok_iff.mp h
  exact hassigned.comparisons_eq_nil

/-- A comparison with a term that is no literal is made under any wildcard. -/
theorem allMade_of_withOperand_term {u : Term} {w' : Char} (ignoreCase : Bool)
    (hc : c.acceptsValue = true) (hu : u.isLiteral = false)
    (h : withOperand left c (.term u) w' = .ok made) :
    ∀ d ∈ (made.ignoringCase ignoreCase).toPredicate.comparisons, d.MadeUnder w := by
  rw [withOperand_of_not_isLiteral left hc hu] at h
  cases h
  exact forall_comparisons_toPredicate (madeUnder_iff_shape.mpr (.operand hc hu)) rfl

/-- A comparison with an operand has a value on the right, or a term that is no literal. -/
theorem allMade_of_withOperand {right : Operand} (ignoreCase : Bool)
    (h : withOperand left c right w = .ok made) :
    ∀ d ∈ (made.ignoringCase ignoreCase).toPredicate.comparisons, d.MadeUnder w := by
  refine forall_comparisons_toPredicate (.operand ignoreCase h) ?_
  unfold withOperand at h
  split at h
  next v =>
    obtain ⟨c', r, hassigned, rfl⟩ := withValue_eq_ok_iff.mp h
    exact hassigned.comparisons_eq_nil
  next v assigned =>
    obtain ⟨c', r, hassigned, rfl⟩ := withValue_eq_ok_iff.mp h
    exact hassigned.comparisons_eq_nil
  next u _ =>
    split at h
    next => cases h; rfl
    next => cases h

/-- A test that stands alone is made under any wildcard. -/
theorem allMade_of_unary (ignoreCase : Bool) (h : Comparison.unary left c = .ok made) :
    ∀ d ∈ (made.ignoringCase ignoreCase).toPredicate.comparisons, d.MadeUnder w := by
  refine forall_comparisons_toPredicate (.unary ignoreCase h) ?_
  obtain ⟨c', right, hassigned, rfl⟩ := withValue_eq_ok_iff.mp h
  exact hassigned.comparisons_eq_nil

end Comparison

namespace Compilation

variable {config : Config} {entity : Entity} {t : Trace} {shown : String} {q : Option Predicate}

/-- Every comparison of an optional predicate is made under a wildcard. -/
def AllMade (w : Char) (q : Option Predicate) : Prop :=
  ∀ p, q = some p → ∀ c ∈ p.comparisons, c.MadeUnder w

/-! ### The operators -/

/-- The test that makes a condition of an operand is made under any wildcard. -/
theorem allMade_of_asCondition {o : Operand} {w : Char}
    (h : outcome? (asCondition shown o) t = some q) : AllMade w q := by
  rcases asCondition_cases h with ⟨b, -, rfl⟩ | ⟨u, -, -, rfl⟩ <;> rintro p ⟨⟩
  · nofun
  · -- a truth value is assigned as it is
    have hmade : Comparison.MadeUnder w ⟨u, .equal, .value (.bool true), false⟩ :=
      Comparison.madeUnder_iff_shape.mpr (.assigned (.plain rfl rfl rfl rfl))
    exact Comparison.forall_comparisons_toPredicate hmade rfl

/-- The test of an operand for null is made under any wildcard. -/
theorem allMade_of_hasValue {o : Operand} {w : Char} (h : outcome? (hasValue o) t = some q) :
    AllMade w q := by
  rcases hasValue_cases h with ⟨b, rfl⟩ | ⟨u, made, -, hmade, rfl⟩ <;> rintro p ⟨⟩
  · nofun
  · exact Comparison.allMade_of_unary false hmade

/-- A comparison of two operands is made under the configured wildcard. -/
theorem allMade_of_compareOperands {c : Comparator} {ignoreCase : Bool} {l r : Operand}
    (h : outcome? (compareOperands config shown c ignoreCase l r) t = some q) :
    AllMade config.wildcard q := by
  rcases compareOperands_cases h with ⟨u, made, -, hmade, rfl⟩ |
    ⟨v, u, made, -, -, hmade, rfl⟩ | ⟨_, _, truth, -, -, -, rfl⟩ <;> rintro p ⟨⟩
  · exact Comparison.allMade_of_withOperand ignoreCase hmade
  · exact Comparison.allMade_of_withValue ignoreCase hmade
  · nofun

/-- A search is made under the configured wildcard. The one search under the default wildcard looks
in a term, which has to be no literal. -/
theorem allMade_of_searchOperands {kind : PatternKind} {ignoreCase : Bool}
    {receiver arg : Operand} (hreceiver : receiver.Compiled entity)
    (h : outcome? (searchOperands config shown kind ignoreCase receiver arg) t = some q) :
    AllMade config.wildcard q := by
  cases searched_of_outcome? h with
  | constantList _ hmade =>
    rintro p ⟨⟩
    exact Comparison.allMade_of_withValue ignoreCase hmade
  | termList _ _ hmade =>
    rintro p ⟨⟩
    exact Comparison.allMade_of_withOperand_term ignoreCase rfl hreceiver.notLiteral hmade
  | pattern _ hmade =>
    rintro p ⟨⟩
    exact Comparison.allMade_of_withValue ignoreCase hmade
  | computedPattern _ hmade =>
    rintro p ⟨⟩
    exact Comparison.allMade_of_withOperand ignoreCase hmade
  | constants _ =>
    rintro p ⟨⟩
    nofun

/-- The comparisons under a connective are those of its sides. -/
theorem allMade_of_combine {w : Char} {op : Connective} {r : Option Predicate}
    (hq : AllMade w q) (hr : AllMade w r) : AllMade w (combine op q r) := by
  intro p hp
  cases q with
  | none => exact hr p hp
  | some q =>
    cases r with
    | none => exact hq p hp
    | some r =>
      cases hp
      rw [Predicate.comparisons, List.forall_mem_append]
      exact ⟨hq q rfl, hr r rfl⟩

/-! ### The induction -/

/-- Every comparison that a condition compiles to is made under the configured wildcard. -/
theorem allMade_of_lowerPredicate : ∀ {n : Nat} {entity : Entity} {e : Expr} {t : Trace}
    {q : Option Predicate}, outcome? (lowerPredicate config n entity e) t = some q →
      AllMade config.wildcard q := by
  -- on the depth, with the entity free: a subquery compiles its filter over another one
  intro n
  induction n with
  | zero =>
    intro entity e t q h
    cases h
  | succ n ih =>
    intro entity e t q h
    cases loweredPredicate_of_outcome? h with
    | truth b =>
      rintro p ⟨⟩
      nofun
    | hasValue _ hq => exact allMade_of_hasValue hq
    | member _ hq => exact allMade_of_asCondition hq
    | connected _ hp hq => exact allMade_of_combine (ih hp) (ih hq)
    | not hp =>
      intro p' hp'
      obtain ⟨p, rfl, rfl⟩ := Option.map_eq_some_iff.mp hp'
      exact ih hp p rfl
    | comparison _ _ _ hq => exact allMade_of_compareOperands hq
    | equals _ _ _ _ hq => exact allMade_of_compareOperands hq
    | nullSearch => nofun
    | search _ _ _ _ hr hq =>
      exact allMade_of_searchOperands (compiledFrom_of_lowerOperand hr).compiled hq
    | keySubquery _ _ =>
      rintro p ⟨⟩
      nofun
    | @filterSubquery _ _ _ _ _ _ _ link _ _ condition _ _ hlink hcondition =>
      have hlink' : ∀ c ∈ link.toPredicate.comparisons, c.MadeUnder config.wildcard :=
        Comparison.allMade_of_withOperand link.ignoreCase hlink
      rintro p ⟨⟩
      -- the comparisons of the subquery are the link and those of the filter
      rw [Predicate.comparisons, Inner.comparisons]
      cases condition with
      | none => exact hlink'
      | some filter =>
        rw [Option.elim, Predicate.and, Predicate.comparisons, List.forall_mem_append]
        exact ⟨hlink', ih hcondition filter rfl⟩

end Compilation

/-! ### The theorem -/

/-- Comparisons reach their normal form in one pass, however the right side is spelled. A plain
value, an assigned literal of it and the value by itself give the same comparison, and an unset
literal counts as null; a comparison that was made under a wildcard is made again, unchanged, from
its own parts; and so is every comparison in a compiled predicate, under the configured wildcard. -/
theorem remake_eq_ok_self :
    (∀ (left : Term) (c : Comparator) (v : Value) (w : Char),
      Comparison.withOperand left c (.value v) w = Comparison.withValue left c v w ∧
      Comparison.withOperand left c (.term (.literal v true)) w =
        Comparison.withValue left c v w ∧
      Comparison.withOperand left c (.term (.literal v false)) w =
        Comparison.withValue left c .null w) ∧
    (∀ (w : Char) (made : Comparison), made.MadeUnder w → made.remake w = .ok made) ∧
    ∀ (entity : Entity) (config : Config) (e : Expr) (t : Trace) (p : Predicate),
      ((compilePredicate entity config e).run t).1 = .ok (some p) →
        ∀ c ∈ p.comparisons, c.remake config.wildcard = .ok c := by
  refine ⟨fun left c v w => ⟨rfl, rfl, rfl⟩, fun w made => Comparison.remake_of_madeUnder, ?_⟩
  intro entity config e t p h c hc
  rw [compilePredicate, ← toOption_eq_some_iff, Compilation.toOption_run_overEntity] at h
  obtain ⟨_, -, h⟩ := Option.bind_eq_some_iff.mp h
  exact Comparison.remake_of_madeUnder (Compilation.allMade_of_lowerPredicate h p rfl c hc)

/-- A text with the wildcard makes an inequality a pattern match, also in a filter inside a subquery
under a wildcard of its own; neither is changed by making it again. -/
theorem remake_eq_ok_self_unlike :
    let id : Field := ⟨"id", .int, false⟩
    let note : Field := ⟨"note", .text, true⟩
    let personId : Field := ⟨"person_id", .int, false⟩
    let person : Entity := ⟨"Person", "person", [id]⟩
    let order : Entity := ⟨"Order", "order", [personId, note]⟩
    let config : Config := ⟨'*', 64⟩
    let e : Expr := .existsWhere (.field "id") order "person_id"
      (.binary .notEqual (.field "note") (.constant (.text "a*"))) false
    let link : Comparison := ⟨.member ⟨"order", "person_id", some personId⟩, .equal,
      .operand (.member ⟨"person", "id", some id⟩), false⟩
    let pattern : Comparison :=
      ⟨.member ⟨"order", "note", some note⟩, .unlike, .value (.text "a*"), false⟩
    let p : Predicate := .subquery (.member ⟨"person", "id", some id⟩)
      (.predicate (link.toPredicate.and pattern.toPredicate)) false
    ((compilePredicate person config e).run ⟨.empty, []⟩).1 = .ok (some p) ∧
      (∀ c ∈ p.comparisons, c.remake '*' = .ok c) ∧
      Comparison.withValue pattern.left .unequal (.text "a*") '*' = .ok pattern ∧
      pattern.remake '*' = .ok pattern := by
  intro id note personId person order config e link pattern p
  have hp : ((compilePredicate person config e).run ⟨.empty, []⟩).1 = .ok (some p) := rfl
  have hmade : Comparison.withValue pattern.left .unequal (.text "a*") '*' = .ok pattern := rfl
  exact ⟨hp, remake_eq_ok_self.2.2 person config e _ p hp, hmade,
    remake_eq_ok_self.2.1 '*' pattern (.value false hmade)⟩

end RowFilter
