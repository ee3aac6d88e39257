import RowFilter.Compilation.Basic
import RowFilter.Proofs.Compilation.Conditions
import RowFilter.Proofs.WellFormed.Operands
import RowFilter.Proofs.WellFormed.Predicates

/-!
# Compiled predicates are well-formed

Whatever expression compiles to a predicate over an entity, the predicate is well-formed over it.
The induction is on the depth that is left; inside a subquery it goes on over the other entity.
-/

namespace RowFilter

mutual

/-- The entities that the subqueries of an expression name. -/
def Expr.details : Expr → List Entity
  | .row | .constant _ | .nonFinite _ => []
  | .member target _ => target.details
  | .unary _ e => e.details
  | .binary _ left right => left.details ++ right.details
  | .call target _ args => target.details ++ Expr.detailsOfAll args
  | .staticCall _ args => Expr.detailsOfAll args
  | .existsIn outer detail _ _ => detail :: outer.details
  | .existsWhere outer detail _ filter _ => detail :: (outer.details ++ filter.details)

/-- The entities that the subqueries of expressions name. -/
def Expr.detailsOfAll : List Expr → List Entity
  | [] => []
  | e :: es => e.details ++ Expr.detailsOfAll es

end

namespace Compilation

variable {config : Config} {named : Entity → Prop} {entity : Entity} {t : Trace} {shown : String}
  {q : Option Predicate}

/-- Every predicate of an optional one is well-formed. -/
def WellFormedIfAny (named : Entity → Prop) (entity : Entity) (q : Option Predicate) : Prop :=
  ∀ p, q = some p → p.WellFormed named entity

/-! ### The operators -/

/-- A condition that is a compiled operand is well-formed. -/
theorem wellFormed_of_asCondition {o : Operand} (ho : o.Compiled entity)
    (h : outcome? (asCondition shown o) t = some q) : WellFormedIfAny named entity q := by
  rcases asCondition_cases h with ⟨b, -, rfl⟩ | ⟨u, rfl, -, rfl⟩ <;> rintro p ⟨⟩
  · exact .shortCircuit b
  · exact .comparison ho (.value _)

/-- A test of a compiled operand for null is well-formed. -/
theorem wellFormed_of_hasValue {o : Operand} (ho : o.Compiled entity)
    (h : outcome? (hasValue o) t = some q) : WellFormedIfAny named entity q := by
  rcases hasValue_cases h with ⟨b, rfl⟩ | ⟨u, made, rfl, hmade, rfl⟩ <;> rintro p ⟨⟩
  · exact .shortCircuit b
  · exact Comparison.wellFormed_toPredicate ho (Comparison.withValue_sides (by decide) hmade) false

/-- A comparison of compiled operands by order is well-formed. -/
theorem wellFormed_of_compareOperands {c : Comparator} {ignoreCase : Bool} {l r : Operand}
    (hc : c.isOrdering = true) (hl : l.Compiled entity) (hr : r.Compiled entity)
    (h : outcome? (compareOperands config shown c ignoreCase l r) t = some q) :
    WellFormedIfAny named entity q := by
  have haccepts := Comparator.acceptsValue_of_isOrdering hc
  have habsent := Comparator.ne_absent_of_acceptsValue
    (Comparator.acceptsValue_of_isOrdering ((Comparator.isOrdering_reverse c).trans hc))
  rcases compareOperands_cases h with ⟨u, made, rfl, hmade, rfl⟩ |
    ⟨v, u, made, rfl, rfl, hmade, rfl⟩ | ⟨_, _, truth, -, -, -, rfl⟩ <;> rintro p ⟨⟩
  · exact Comparison.wellFormed_toPredicate hl (Comparison.withOperand_sides haccepts hr hmade)
      ignoreCase
  · exact Comparison.wellFormed_toPredicate hr (Comparison.withValue_sides habsent hmade) ignoreCase
  · exact .shortCircuit truth

/-- A search of compiled operands is well-formed. -/
theorem wellFormed_of_searchOperands {kind : PatternKind} {ignoreCase : Bool}
    {receiver arg : Operand} (hreceiver : receiver.Compiled entity) (harg : arg.Compiled entity)
    (h : outcome? (searchOperands config shown kind ignoreCase receiver arg) t = some q) :
    WellFormedIfAny named entity q := by
  have haccepts : kind.comparator.acceptsValue = true := by
    cases kind <;> rfl
  have habsent := Comparator.ne_absent_of_acceptsValue haccepts
  cases searched_of_outcome? h with
  | constantList _ hmade =>
    rintro p ⟨⟩
    exact Comparison.wellFormed_toPredicate harg (Comparison.withValue_sides (by decide) hmade)
      ignoreCase
  | termList _ hlist hmade =>
    rintro p ⟨⟩
    rw [Comparison.withOperand_of_not_isLiteral _ rfl hreceiver.notLiteral] at hmade
    cases hmade
    exact .membership _ hreceiver (hreceiver.wellFormed.kind_eq hlist)
  | pattern _ hmade =>
    rintro p ⟨⟩
    exact Comparison.wellFormed_toPredicate hreceiver (Comparison.withValue_sides habsent hmade)
      ignoreCase
  | computedPattern _ hmade =>
    rintro p ⟨⟩
    exact Comparison.wellFormed_toPredicate hreceiver
      (Comparison.withOperand_sides haccepts harg hmade) ignoreCase
  | constants _ =>
    rintro p ⟨⟩
    exact .shortCircuit _

/-- Well-formed sides make a well-formed whole under a connective that has two. -/
theorem wellFormed_of_combine {op : Connective} {r : Option Predicate} (hop : op = .and ∨ op = .or)
    (hq : WellFormedIfAny named entity q) (hr : WellFormedIfAny named entity r) :
    WellFormedIfAny named entity (combine op q r) := by
  intro p hp
  cases q with
  | none => exact hr p hp
  | some q =>
    cases r with
    | none => exact hq p hp
    | some r =>
      cases hp
      rcases hop with rfl | rfl
      · exact .and (hq q rfl) (hr r rfl)
      · exact .or (hq q rfl) (hr r rfl)

/-! ### The induction -/

/-- Every predicate that is compiled over an entity is well-formed. -/
theorem wellFormed_of_lowerPredicate : ∀ {n : Nat} {entity : Entity} {e : Expr} {t : Trace}
    {q : Option Predicate}, (∀ d ∈ e.details, named d) →
      outcome? (lowerPredicate config n entity e) t = some q → WellFormedIfAny named entity q := by
  -- on the depth, with the entity free: a subquery compiles its filter over another one
  intro n
  induction n with
  | zero =>
    intro entity e t q _ h
    cases h
  | succ n ih =>
    intro entity e t q hnamed h
    cases loweredPredicate_of_outcome? h with
    | truth b =>
      rintro p ⟨⟩
      exact .shortCircuit b
    | hasValue ho hq => exact wellFormed_of_hasValue (compiledFrom_of_lowerOperand ho).compiled hq
    | member ho hq => exact wellFormed_of_asCondition (compiledFrom_of_lowerOperand ho).compiled hq
    | connected hop hp hq =>
      rw [Expr.details, List.forall_mem_append] at hnamed
      exact wellFormed_of_combine (hop.imp And.right And.right) (ih hnamed.1 hp) (ih hnamed.2 hq)
    | not hp =>
      rw [Expr.details] at hnamed
      intro p' hp'
      obtain ⟨p, rfl, rfl⟩ := Option.map_eq_some_iff.mp hp'
      exact .not (ih hnamed hp p rfl)
    | comparison hop hl hr hq =>
      exact wellFormed_of_compareOperands (BinaryOp.isOrdering_of_comparator? hop)
        (compiledFrom_of_lowerOperand hl).compiled (compiledFrom_of_lowerOperand hr).compiled hq
    | equals _ _ hl hr hq =>
      exact wellFormed_of_compareOperands rfl (compiledFrom_of_lowerOperand hl).compiled
        (compiledFrom_of_lowerOperand hr).compiled hq
    | nullSearch => nofun
    | search _ _ _ ha hr hq =>
      exact wellFormed_of_searchOperands (compiledFrom_of_lowerOperand hr).compiled
        (compiledFrom_of_lowerOperand ha).compiled hq
    | keySubquery ho hkey =>
      rw [Expr.details, List.forall_mem_cons] at hnamed
      have houter := (compiledFrom_of_lowerOperand ho).compiled.outer_toTerm
      obtain ⟨field, hfield, rfl⟩ := Term.ofEntity_eq_ok_iff.mp hkey
      rintro p ⟨⟩
      exact .keySubquery houter hnamed.1 hfield
    | filterSubquery condition ho hkey hlink hcondition =>
      rw [Expr.details, List.forall_mem_cons, List.forall_mem_append] at hnamed
      have houter := (compiledFrom_of_lowerOperand ho).compiled.outer_toTerm
      obtain ⟨field, hfield, rfl⟩ := Term.ofEntity_eq_ok_iff.mp hkey
      obtain ⟨hleft, hright⟩ := Comparison.withOperand_sides_outer rfl houter hlink
      -- the filter is about the rows of the other entity
      have hfilter := ih hnamed.2.2 hcondition
      rintro p ⟨⟩
      rw [Comparison.toPredicate, hleft]
      cases condition with
      | none => exact .linkSubquery houter hnamed.1 hfield hright
      | some filter => exact .filterSubquery houter hnamed.1 hfield hright (hfilter filter rfl)

end Compilation

/-! ### The theorem -/

/-- What an expression compiles to over an entity is well-formed. An operand is a plain value, as it
always is where the expression does not mention the row, or a compiled term; a predicate is
well-formed, its subqueries name entities of the expression, and its owner is the entity unless no
member occurs in it outside the inner sides of subqueries. -/
theorem wellFormed_of_compile (entity : Entity) (config : Config) (e : Expr) (t : Trace) :
    (∀ u, ((compileOperand entity config e).run t).1 = .ok (.term u) → u.Compiled entity) ∧
    (∀ o, ((compileOperand entity config e).run t).1 = .ok o → e.mentionsRow = false →
      ∃ v, o = .value v) ∧
    ∀ p, ((compilePredicate entity config e).run t).1 = .ok (some p) →
      p.WellFormed (· ∈ e.details) entity ∧
        (p.HasMember ∧ p.owner? = some entity.path ∨ ¬p.HasMember ∧ p.owner? = none) := by
  have hoperand : ∀ o, ((compileOperand entity config e).run t).1 = .ok o →
      o.CompiledFrom entity e := by
    intro o h
    rw [compileOperand, ← toOption_eq_some_iff, Compilation.toOption_run_overEntity] at h
    obtain ⟨_, -, h⟩ := Option.bind_eq_some_iff.mp h
    exact Compilation.compiledFrom_of_lowerOperand h
  refine ⟨fun u h => (hoperand _ h).compiled, fun o h hrow => ?_, fun p h => ?_⟩
  · cases o with
    | value v => exact ⟨v, rfl⟩
    | term u =>
      rw [(hoperand _ h).mentionsRow rfl] at hrow
      cases hrow
  · rw [compilePredicate, ← toOption_eq_some_iff, Compilation.toOption_run_overEntity] at h
    obtain ⟨_, -, h⟩ := Option.bind_eq_some_iff.mp h
    have hp : p.WellFormed (· ∈ e.details) entity :=
      Compilation.wellFormed_of_lowerPredicate (fun _ hd => hd) h p rfl
    exact ⟨hp, hp.owner_cases⟩

/-- A membership test with the constant on the left, before a subquery by a foreign key. -/
theorem wellFormed_of_compile_membership :
    let tags : Field := ⟨"tags", .list .text, false⟩
    let id : Field := ⟨"id", .int, false⟩
    let personId : Field := ⟨"person_id", .int, false⟩
    let person : Entity := ⟨"Person", "person", [id, tags]⟩
    let order : Entity := ⟨"Order", "order", [personId]⟩
    let e : Expr := .binary .andAlso (.callWith "contains" (.field "tags") (.constant (.text "a")))
      (.existsIn (.field "id") order "person_id" false)
    let p : Predicate := .joined
      (.comparison (.ofValue (.text "a")) .isIn (.operand (.member ⟨"person", "tags", some tags⟩))
        false) .and
      (.subquery (.member ⟨"person", "id", some id⟩)
        (.foreignKey (.member ⟨"order", "person_id", some personId⟩)) false)
    let t : Trace := ⟨.empty, []⟩
    ((compilePredicate person .default e).run t).1 = .ok (some p) ∧
      p.WellFormed (· ∈ e.details) person ∧
      ((compileOperand person .default (.field "id")).run t).1 =
        .ok (.term (.member ⟨"person", "id", some id⟩)) ∧
      (Term.member ⟨"person", "id", some id⟩).Compiled person := by
  intro tags id personId person order e p t
  have hp : ((compilePredicate person .default e).run t).1 = .ok (some p) := rfl
  have hu : ((compileOperand person .default (.field "id")).run t).1 =
      .ok (.term (.member ⟨"person", "id", some id⟩)) := rfl
  exact ⟨hp, ((wellFormed_of_compile person .default e t).2.2 p hp).1, hu,
    (wellFormed_of_compile person .default (.field "id") t).1 _ hu⟩

end RowFilter
