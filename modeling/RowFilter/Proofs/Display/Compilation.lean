import RowFilter.Compilation.Basic
import RowFilter.Proofs.Canonical.Compilation
import RowFilter.Proofs.Display.Predicates
import RowFilter.Proofs.WellFormed.Compilation

/-!
# Canonical texts as keys

Whatever is compiled over entities whose names can be read back is legible: the references in it
take their names from the entities, a join has no literal as a side since constants are kept as
values, and connectives and signs stand where they belong. Legible trees with one canonical text
agree (`agrees_of_display_eq`), so the text can stand for the tree.
-/

namespace RowFilter

/-- The names that an entity declares can be read back. -/
structure Entity.Legible (e : Entity) : Prop where
  /-- The path of the entity is one of an owner. -/
  path : IsOwnerPath e.path
  /-- The fields have names of members. -/
  names : ∀ f ∈ e.fields, IsMemberName f.name

variable {entity : Entity}

/-! ### Terms and comparisons -/

namespace Term

/-- A declared member of a legible entity is legible. -/
theorem legible_of_ofEntity (he : entity.Legible) {name : String} {t : Term}
    (h : ofEntity entity name = .ok t) : t.Legible := by
  obtain ⟨f, hf, rfl⟩ := ofEntity_eq_ok_iff.mp h
  exact ⟨he.path, he.names f (List.mem_of_find?_eq_some hf)⟩

/-- The literal of a value is legible. -/
theorem legible_ofValue (v : Value) : (ofValue v).Legible := nofun

theorem allLegible_iff {ts : List Term} : AllLegible ts ↔ ∀ t ∈ ts, t.Legible := by
  induction ts with
  | nil => exact ⟨fun _ => List.forall_mem_nil _, fun _ => trivial⟩
  | cons t ts ih => rw [AllLegible, ih, List.forall_mem_cons]

/-- A sign that applies to legible terms gives a legible one. -/
theorem legible_of_apply {registry : Registry} {sign : Sign} {t w : Term} {args : List Term}
    (ht : t.Legible) (hargs : ∀ arg ∈ args, arg.Legible)
    (h : apply registry sign t args = .ok w) : w.Legible ∧ ∀ v, w ≠ .ofValue v := by
  obtain ⟨hsign, -, -, -, rfl⟩ := apply_eq_ok_iff.mp h
  exact ⟨⟨hsign, ht, allLegible_iff.mpr hargs⟩, nofun⟩

end Term

/-- A legible side is legible where it stands as a term. -/
theorem Operand.LegibleSide.toTerm {o : Operand} (h : o.LegibleSide) : o.toTerm.Legible := by
  cases o with
  | term t => exact h.2
  | value v => exact Term.legible_ofValue v

namespace Comparison

variable {left : Term} {c : Comparator} {w : Char} {made : Comparison}

/-- What a value is assigned is legible. -/
theorem Assigned.legible {v : Value} {c' : Comparator} {right : RightSide}
    (h : Assigned w c v c' right) : right.Legible := by
  cases h <;> trivial

/-- A comparison of a legible term with a value is legible. -/
theorem legible_of_withValue {v : Value} (hleft : left.Legible)
    (h : withValue left c v w = .ok made) : made.left.Legible ∧ made.right.Legible := by
  obtain ⟨c', right, hassigned, rfl⟩ := withValue_eq_ok_iff.mp h
  exact ⟨hleft, hassigned.legible⟩

/-- A comparison of legible terms is legible. -/
theorem legible_of_withOperand {right : Operand} (hleft : left.Legible)
    (hright : right.toTerm.Legible) (h : withOperand left c right w = .ok made) :
    made.left.Legible ∧ made.right.Legible := by
  unfold withOperand at h
  split at h
  next v => exact legible_of_withValue hleft h
  next v assigned => exact legible_of_withValue hleft h
  next t _ =>
    split at h
    next =>
      cases h
      exact ⟨hleft, hright⟩
    next => cases h

end Comparison

namespace Compilation

variable {config : Config} {t : Trace} {shown : String} {o : Operand} {q : Option Predicate}

/-! ### Operands -/

/-- Arithmetic on legible sides gives one. -/
theorem legible_of_arithmeticOf {l r : Operand} {sign : Sign} (hl : l.LegibleSide)
    (hr : r.LegibleSide) (h : outcome? (arithmeticOf shown l sign r) t = some o) :
    o.LegibleSide := by
  rcases arithmeticOf_cases h with ⟨_, _, v, -, -, -, rfl⟩ | ⟨-, hsign, rfl⟩
  · trivial
  · exact ⟨nofun, hsign, hl, hr⟩

/-- A text function on legible sides gives one. -/
theorem legible_of_textFunctionOf {target : Operand} {args : List Operand} {sign : Sign}
    (htarget : target.LegibleSide) (hargs : ∀ arg ∈ args, Operand.LegibleSide arg)
    (h : outcome? (textFunctionOf shown sign target args) t = some o) : o.LegibleSide := by
  rcases textFunctionOf_cases h with ⟨_, _, w, -, -, -, rfl⟩ | ⟨u, w, rfl, hw, rfl⟩
  · trivial
  · have hterms := List.forall_mem_map.mpr fun arg harg => (hargs arg harg).toTerm
    exact (Term.legible_of_apply htarget.2 hterms hw).symm

/-- A member of a legible side is one. -/
theorem legible_of_memberOf {target : Operand} {name : String} (htarget : target.LegibleSide)
    (h : outcome? (memberOf shown target name) t = some o) : o.LegibleSide := by
  rcases memberOf_cases h with ⟨_, w, -, rfl, -⟩ | ⟨u, w, sign, rfl, -, hw, rfl⟩
  · trivial
  · exact (Term.legible_of_apply htarget.2 (List.forall_mem_nil _) hw).symm

/-- Every operand that is compiled over a legible entity is legible as a side. -/
theorem legible_of_lowerOperand (he : entity.Legible) : ∀ {n : Nat} {e : Expr} {t : Trace}
    {o : Operand}, outcome? (lowerOperand config n entity e) t = some o → o.LegibleSide := by
  -- on the depth: a target and the arguments of a call have one level less than the call
  intro n
  induction n with
  | zero =>
    intro e t o h
    cases h
  | succ n ih =>
    intro e t o h
    cases loweredOperand_of_outcome? h with
    | constant v => trivial
    | field hu =>
      refine ⟨?_, Term.legible_of_ofEntity he hu⟩
      obtain ⟨f, -, rfl⟩ := Term.ofEntity_eq_ok_iff.mp hu
      nofun
    | member _ hu ho => exact legible_of_memberOf (ih hu) ho
    | unary _ ho =>
      obtain ⟨v, rfl⟩ := unaryOf_cases ho
      trivial
    | arithmetic _ hl hr ho => exact legible_of_arithmeticOf (ih hl) (ih hr) ho
    | item _ _ ho =>
      obtain ⟨v, rfl⟩ := itemOf_cases ho
      trivial
    | textFunction os _ hu hos ho =>
      refine legible_of_textFunctionOf (ih hu) (fun a ha => ?_) ho
      obtain ⟨arg, _, harg⟩ := exists_of_mem_outcome?_mapM hos ha
      exact ih harg
    | condition _ _ ho =>
      obtain ⟨b, rfl⟩ := asOperand_cases ho
      trivial

/-! ### Conditions -/

/-- Every predicate of an optional one is legible. -/
def LegibleIfAny (q : Option Predicate) : Prop := ∀ p, q = some p → p.Legible

theorem legible_shortCircuit (b : Bool) : LegibleIfAny (some (.shortCircuit b)) := by
  rintro p ⟨⟩
  trivial

/-- A comparison that is kept is legible if its sides are. -/
theorem legible_asPredicate {made : Comparison} (ignoreCase : Bool)
    (h : made.left.Legible ∧ made.right.Legible) :
    LegibleIfAny (asPredicate ignoreCase made) := by
  rintro p ⟨⟩
  exact h

/-- A condition that is a legible side is legible. -/
theorem legible_of_asCondition (ho : o.LegibleSide)
    (h : outcome? (asCondition shown o) t = some q) : LegibleIfAny q := by
  rcases asCondition_cases h with ⟨b, -, rfl⟩ | ⟨u, rfl, -, rfl⟩
  · exact legible_shortCircuit b
  · rintro p ⟨⟩
    exact ⟨ho.2, trivial⟩

/-- A test of a legible side for null is legible. -/
theorem legible_of_hasValue (ho : o.LegibleSide) (h : outcome? (hasValue o) t = some q) :
    LegibleIfAny q := by
  rcases hasValue_cases h with ⟨b, rfl⟩ | ⟨u, made, rfl, hmade, rfl⟩
  · exact legible_shortCircuit b
  · exact legible_asPredicate false (Comparison.legible_of_withValue ho.2 hmade)

/-- A comparison of legible sides is legible. -/
theorem legible_of_compareOperands {c : Comparator} {ignoreCase : Bool} {l r : Operand}
    (hl : l.LegibleSide) (hr : r.LegibleSide)
    (h : outcome? (compareOperands config shown c ignoreCase l r) t = some q) :
    LegibleIfAny q := by
  rcases compareOperands_cases h with ⟨u, made, rfl, hmade, rfl⟩ |
    ⟨v, u, made, rfl, rfl, hmade, rfl⟩ | ⟨_, _, truth, -, -, -, rfl⟩
  · exact legible_asPredicate ignoreCase (Comparison.legible_of_withOperand hl.2 hr.toTerm hmade)
  · exact legible_asPredicate ignoreCase (Comparison.legible_of_withValue hr.2 hmade)
  · exact legible_shortCircuit truth

/-- A search of legible sides is legible. -/
theorem legible_of_searchOperands {kind : PatternKind} {ignoreCase : Bool}
    {receiver arg : Operand} (hreceiver : receiver.LegibleSide) (harg : arg.LegibleSide)
    (h : outcome? (searchOperands config shown kind ignoreCase receiver arg) t = some q) :
    LegibleIfAny q := by
  cases searched_of_outcome? h with
  | constantList _ hmade =>
    exact legible_asPredicate ignoreCase (Comparison.legible_of_withValue harg.2 hmade)
  | termList _ _ hmade =>
    exact legible_asPredicate ignoreCase
      (Comparison.legible_of_withOperand (Term.legible_ofValue _) hreceiver.toTerm hmade)
  | pattern _ hmade =>
    exact legible_asPredicate ignoreCase (Comparison.legible_of_withValue hreceiver.2 hmade)
  | computedPattern _ hmade =>
    exact legible_asPredicate ignoreCase
      (Comparison.legible_of_withOperand hreceiver.2 harg.toTerm hmade)
  | constants _ => exact legible_shortCircuit _

/-- Legible sides make a legible whole under a connective that has two. -/
theorem legible_of_combine {op : Connective} {r : Option Predicate} (hop : op = .and ∨ op = .or)
    (hq : LegibleIfAny q) (hr : LegibleIfAny r) : LegibleIfAny (combine op q r) := by
  intro p hp
  cases q with
  | none => exact hr p hp
  | some q =>
    cases r with
    | none => exact hq p hp
    | some r =>
      cases hp
      exact ⟨hop, hq q rfl, hr r rfl⟩

/-- Every predicate that is compiled over a legible entity is legible, if the entities of its
subqueries are. -/
theorem legible_of_lowerPredicate : ∀ {n : Nat} {entity : Entity} {e : Expr} {t : Trace}
    {q : Option Predicate}, entity.Legible → (∀ d ∈ e.details, d.Legible) →
      outcome? (lowerPredicate config n entity e) t = some q → LegibleIfAny q := by
  -- on the depth, with the entity free: a subquery compiles its filter over another one
  intro n
  induction n with
  | zero =>
    intro entity e t q _ _ h
    cases h
  | succ n ih =>
    intro entity e t q he hdetails h
    cases loweredPredicate_of_outcome? h with
    | truth b => exact legible_shortCircuit b
    | hasValue ho hq => exact legible_of_hasValue (legible_of_lowerOperand he ho) hq
    | member ho hq => exact legible_of_asCondition (legible_of_lowerOperand he ho) hq
    | connected hop hp hq =>
      rw [Expr.details, List.forall_mem_append] at hdetails
      exact legible_of_combine (hop.imp And.right And.right) (ih he hdetails.1 hp)
        (ih he hdetails.2 hq)
    | not hp =>
      rw [Expr.details] at hdetails
      intro p' hp'
      obtain ⟨p, rfl, rfl⟩ := Option.map_eq_some_iff.mp hp'
      exact ⟨rfl, ih he hdetails hp p rfl⟩
    | comparison _ hl hr hq =>
      exact legible_of_compareOperands (legible_of_lowerOperand he hl)
        (legible_of_lowerOperand he hr) hq
    | equals _ _ hl hr hq =>
      exact legible_of_compareOperands (legible_of_lowerOperand he hl)
        (legible_of_lowerOperand he hr) hq
    | nullSearch =>
      intro p hp
      cases hp
    | search _ _ _ ha hr hq =>
      exact legible_of_searchOperands (legible_of_lowerOperand he hr)
        (legible_of_lowerOperand he ha) hq
    | keySubquery ho hkey =>
      rw [Expr.details, List.forall_mem_cons] at hdetails
      rintro p ⟨⟩
      exact ⟨(legible_of_lowerOperand he ho).toTerm, Term.legible_of_ofEntity hdetails.1 hkey⟩
    | @filterSubquery _ _ _ _ _ _ _ link _ _ condition ho hkey hlink hcondition =>
      rw [Expr.details, List.forall_mem_cons, List.forall_mem_append] at hdetails
      have houter := (legible_of_lowerOperand he ho).toTerm
      have hkey' := Term.legible_of_ofEntity hdetails.1 hkey
      have hlink' : link.left.Legible ∧ link.right.Legible := by
        refine Comparison.legible_of_withOperand hkey' ?_ hlink
        exact houter
      -- the filter is about the rows of the other entity
      have hfilter := ih hdetails.1 hdetails.2.2 hcondition
      rintro p ⟨⟩
      cases condition with
      | none => exact ⟨houter, hlink'⟩
      | some filter => exact ⟨houter, .inl rfl, hlink', hfilter filter rfl⟩

end Compilation

/-! ### The theorem -/

/-- A canonical text can stand for its tree. Two legible predicates whose comparisons can be made,
and two legible terms, agree if they have the same text; two values of any kind are equal then. What
is compiled over entities with legible names is legible, and its comparisons can be made. -/
theorem agrees_of_display_eq :
    (∀ p q : Predicate, p.Legible → q.Legible → (∀ c ∈ p.comparisons, c.Made) →
      (∀ c ∈ q.comparisons, c.Made) → p.display = q.display → p.agrees q = true) ∧
    (∀ t u : Term, t.Legible → u.Legible → t.display = u.display → t.agrees u = true) ∧
    (∀ v w : Value, v.display = w.display → v = w) ∧
    ∀ (entity : Entity) (config : Config) (e : Expr) (t : Trace), entity.Legible →
      (∀ d ∈ e.details, d.Legible) →
      (∀ p, ((compilePredicate entity config e).run t).1 = .ok (some p) →
        p.Legible ∧ ∀ c ∈ p.comparisons, c.Made) ∧
      ∀ u, ((compileOperand entity config e).run t).1 = .ok (.term u) → u.Legible := by
  refine ⟨fun p q hp hq hpc hqc h => ?_, fun t u ht hu h => ?_, fun v w => Value.display_inj,
    fun entity config e t he hdetails => ⟨fun p h => ?_, fun u h => ?_⟩⟩
  · rw [Predicate.agrees_iff]
    exact Predicate.unresolved_eq_of_display_eq hp hq (allCanonical_of_made hpc)
      (allCanonical_of_made hqc) h
  · rw [Term.agrees_iff]
    exact Term.unresolved_eq_of_display_eq ht hu h
  · rw [compilePredicate, ← toOption_eq_some_iff, Compilation.toOption_run_overEntity] at h
    obtain ⟨_, -, h⟩ := Option.bind_eq_some_iff.mp h
    refine ⟨Compilation.legible_of_lowerPredicate he hdetails h p rfl, fun c hc => ?_⟩
    exact ⟨config.wildcard, Compilation.allMade_of_lowerPredicate h p rfl c hc⟩
  · rw [compileOperand, ← toOption_eq_some_iff, Compilation.toOption_run_overEntity] at h
    obtain ⟨_, -, h⟩ := Option.bind_eq_some_iff.mp h
    exact (Compilation.legible_of_lowerOperand he h).2

/-- A compiled comparison of a member with a text that has an apostrophe and brackets in it, and the
same with a reference that carries no field. -/
theorem agrees_of_display_eq_quoted :
    let name : Field := ⟨"name", .text, true⟩
    let person : Entity := ⟨"Person", "app::Person", [name]⟩
    let e : Expr := .binary .equal (.field "name") (.constant (.text "O'Hara), (x"))
    let member (field? : Option Field) : Term := .member ⟨"app::Person", "name", field?⟩
    let compared (field? : Option Field) : Predicate :=
      .comparison (member field?) .equal (.value (.text "O'Hara), (x")) false
    let t : Trace := ⟨.empty, []⟩
    person.Legible ∧
      ((compilePredicate person .default e).run t).1 = .ok (some (compared (some name))) ∧
      (compared (some name)).display = "Compare(app::Person.name, Equal, Text('O''Hara), (x'))" ∧
      (compared (some name)).agrees (compared none) = true ∧
      (member (some name)).agrees (member none) = true := by
  intro name person e member compared t
  have hperson : person.Legible := ⟨by decide, List.forall_mem_singleton.mpr (by decide)⟩
  have hp : ((compilePredicate person .default e).run t).1 =
      .ok (some (compared (some name))) := rfl
  obtain ⟨hlegible, hmade⟩ :=
    (agrees_of_display_eq.2.2.2 person .default e t hperson nofun).1 _ hp
  have hnone : ∀ c ∈ (compared none).comparisons, c.Made := by
    intro c hc
    rw [List.mem_singleton.mp hc]
    have hmade : Comparison.withValue (member none) .equal (.text "O'Hara), (x") defaultWildcard =
        .ok ⟨member none, .equal, .value (.text "O'Hara), (x"), false⟩ := rfl
    exact ⟨defaultWildcard, .value false hmade⟩
  exact ⟨hperson, hp, rfl, agrees_of_display_eq.1 _ _ hlegible hlegible hmade hnone rfl,
    agrees_of_display_eq.2.1 _ _ hlegible.1 hlegible.1 rfl⟩

end RowFilter
