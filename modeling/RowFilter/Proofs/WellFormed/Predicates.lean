import RowFilter.Proofs.Compilation.Comparators
import RowFilter.Proofs.WellFormed.Terms

/-!
# Well-formed predicates

A predicate is well-formed over an entity, relative to the entities that subqueries may name, if its
connectives have the sides that they need, every term in it is compiled over the entity or is a
constant where one may stand, and the inner side of each subquery is about an entity that may be
named. The filter inside a subquery is well-formed over that other entity; the link in front of it
is the one place where a term of the outer entity stands among terms of the other.
-/

namespace RowFilter

/-- What may stand on the right of a comparison over an entity. -/
inductive RightSide.WellFormed (entity : Entity) : RightSide → Prop
  | empty : WellFormed entity .empty
  | value (v : Value) : WellFormed entity (.value v)
  | operand {u : Term} (hu : u.Compiled entity) : WellFormed entity (.operand u)

/-- The outer side of a subquery over an entity: a compiled term, or the literal of a constant. -/
inductive Term.Outer (entity : Entity) : Term → Prop
  | compiled {t : Term} (ht : t.Compiled entity) : Outer entity t
  | constant (v : Value) : Outer entity (.ofValue v)

/-- A compiled operand is an outer side, where it stands as a term. -/
theorem Operand.Compiled.outer_toTerm {entity : Entity} {o : Operand} (h : o.Compiled entity) :
    o.toTerm.Outer entity := by
  cases o with
  | value v => exact .constant v
  | term t => exact .compiled h

/-- No member occurs in the literal of a constant. -/
theorem Term.not_hasMember_ofValue (v : Value) : ¬(Term.ofValue v).HasMember := by
  rintro ⟨ref, href⟩
  cases List.mem_singleton.mp href

/-- The owner of an outer side is the entity, unless no member occurs in it. -/
theorem Term.Outer.owner_cases {entity : Entity} {t : Term} (h : t.Outer entity) :
    t.HasMember ∧ t.owner? = some entity.path ∨ ¬t.HasMember ∧ t.owner? = none := by
  cases h with
  | compiled ht => exact .inl ⟨ht.hasMember, ht.owner⟩
  | constant v => exact .inr ⟨not_hasMember_ofValue v, rfl⟩

namespace Predicate

/-- A predicate as the compilation over an entity makes it, where subqueries name entities of
`named` only. -/
inductive WellFormed (named : Entity → Prop) : Entity → Predicate → Prop
  | shortCircuit {entity : Entity} (b : Bool) : WellFormed named entity (.shortCircuit b)
  | and {entity : Entity} {p q : Predicate} (hp : WellFormed named entity p)
      (hq : WellFormed named entity q) : WellFormed named entity (.joined p .and q)
  | or {entity : Entity} {p q : Predicate} (hp : WellFormed named entity p)
      (hq : WellFormed named entity q) : WellFormed named entity (.joined p .or q)
  | not {entity : Entity} {p : Predicate} (hp : WellFormed named entity p) :
      WellFormed named entity (.solo .not p)
  /-- A compiled term is compared with what may stand on the right. -/
  | comparison {entity : Entity} {left : Term} {comparator : Comparator} {right : RightSide}
      {ignoreCase : Bool} (hleft : left.Compiled entity) (hright : right.WellFormed entity) :
      WellFormed named entity (.comparison left comparator right ignoreCase)
  /-- A constant is looked up in a compiled term of kind list. -/
  | membership {entity : Entity} {u : Term} {ignoreCase : Bool} (v : Value)
      (hu : u.Compiled entity) (hlist : ∀ registry, u.kind registry = .ok .list) :
      WellFormed named entity (.comparison (.ofValue v) .isIn (.operand u) ignoreCase)
  /-- A subquery asks for rows of another entity by a declared foreign key. -/
  | keySubquery {entity detail : Entity} {outer : Term} {field : Field} {name : String}
      {negated : Bool} (houter : outer.Outer entity) (hdetail : named detail)
      (hfield : detail.field? name = some field) :
      WellFormed named entity
        (.subquery outer (.foreignKey (.member ⟨detail.path, field.name, some field⟩)) negated)
  /-- A subquery asks for rows of another entity that a declared foreign key links to the outer
  term. -/
  | linkSubquery {entity detail : Entity} {outer : Term} {field : Field} {name : String}
      {comparator : Comparator} {right : RightSide} {ignoreCase negated : Bool}
      (houter : outer.Outer entity) (hdetail : named detail)
      (hfield : detail.field? name = some field) (hright : right.WellFormed entity) :
      WellFormed named entity
        (.subquery outer
          (.predicate (.comparison (.member ⟨detail.path, field.name, some field⟩) comparator right
            ignoreCase)) negated)
  /-- A subquery asks for linked rows of another entity that pass a filter over it. -/
  | filterSubquery {entity detail : Entity} {outer : Term} {field : Field} {name : String}
      {comparator : Comparator} {right : RightSide} {ignoreCase negated : Bool} {filter : Predicate}
      (houter : outer.Outer entity) (hdetail : named detail)
      (hfield : detail.field? name = some field) (hright : right.WellFormed entity)
      (hfilter : WellFormed named detail filter) :
      WellFormed named entity
        (.subquery outer
          (.predicate (.joined (.comparison (.member ⟨detail.path, field.name, some field⟩)
            comparator right ignoreCase) .and filter)) negated)

/-- A member occurs in the predicate, outside the inner sides of subqueries. -/
def HasMember : Predicate → Prop
  | .joined p _ q => p.HasMember ∨ q.HasMember
  | .solo _ p => p.HasMember
  | .comparison left _ (.operand right) _ => left.HasMember ∨ right.HasMember
  | .comparison left _ _ _ => left.HasMember
  | .subquery outer _ _ => outer.HasMember
  | .shortCircuit _ => False

variable {named : Entity → Prop} {entity : Entity}

/-- The owner of joined predicates is that of the first that has one. -/
theorem owner_cases_joined {p q : Predicate} {path : String} (op : Connective)
    (hp : p.HasMember ∧ p.owner? = some path ∨ ¬p.HasMember ∧ p.owner? = none)
    (hq : q.HasMember ∧ q.owner? = some path ∨ ¬q.HasMember ∧ q.owner? = none) :
    (joined p op q).HasMember ∧ (joined p op q).owner? = some path ∨
      ¬(joined p op q).HasMember ∧ (joined p op q).owner? = none := by
  rw [HasMember, owner?]
  rcases hp with ⟨hp, hpowner⟩ | ⟨hp, hpowner⟩
  · exact .inl ⟨.inl hp, by rw [hpowner, Option.some_or]⟩
  · rw [hpowner, Option.none_or]
    rcases hq with ⟨hq, hqowner⟩ | ⟨hq, hqowner⟩
    · exact .inl ⟨.inr hq, hqowner⟩
    · exact .inr ⟨not_or.mpr ⟨hp, hq⟩, hqowner⟩

/-- The owner of a comparison is that of its left side, if it has one. -/
theorem owner?_comparison {left : Term} {c : Comparator} {right : RightSide} {ignoreCase : Bool}
    {path : String} (h : left.owner? = some path) :
    (comparison left c right ignoreCase).owner? = some path := by
  cases right <;> rw [owner?, h, Option.some_or] <;> nofun

/-- The owner of a well-formed predicate is its entity if a member occurs in it outside the inner
sides of subqueries, and there is none otherwise. -/
theorem WellFormed.owner_cases {p : Predicate} (h : p.WellFormed named entity) :
    p.HasMember ∧ p.owner? = some entity.path ∨ ¬p.HasMember ∧ p.owner? = none := by
  induction h with
  | shortCircuit b => exact .inr ⟨id, rfl⟩
  | and _ _ ihp ihq => exact owner_cases_joined .and ihp ihq
  | or _ _ ihp ihq => exact owner_cases_joined .or ihp ihq
  | not _ ih => exact ih
  | comparison hleft hright =>
    refine .inl ⟨?_, owner?_comparison hleft.owner⟩
    cases hright with
    | empty => exact hleft.hasMember
    | value _ => exact hleft.hasMember
    | operand _ => exact .inl hleft.hasMember
  | membership v hu _ => exact .inl ⟨.inr hu.hasMember, hu.owner⟩
  | keySubquery houter _ _ => exact houter.owner_cases
  | linkSubquery houter _ _ _ => exact houter.owner_cases
  | filterSubquery houter _ _ _ _ _ => exact houter.owner_cases

end Predicate

/-! ### Comparisons -/

namespace Comparison

variable {named : Entity → Prop} {entity : Entity} {left : Term} {c : Comparator}
  {made : Comparison} {wildcard : Char}

/-- A comparison with a value keeps its left side, and has the value or nothing on the right. -/
theorem withValue_sides {v : Value} (hc : c ≠ .absent)
    (h : withValue left c v wildcard = .ok made) :
    made.left = left ∧ made.right.WellFormed entity := by
  cases hassign : assign c v wildcard with
  | error err =>
    rw [withValue, hassign] at h
    cases h
  | ok assigned =>
    rw [withValue, hassign] at h
    cases h
    refine ⟨rfl, ?_⟩
    -- null leaves the right side empty, and any other value is taken over as it is
    unfold assign at hassign
    split at hassign
    · cases hassign
      split
      · exact .empty
      · split
        · exact .empty
        · exact .empty
    · split at hassign
      · cases hassign
      · split at hassign
        · cases hassign
          exact .value v
        · split at hassign <;> cases hassign <;> exact .value v

/-- A comparison with a compiled operand keeps its left side, and has on the right what may stand
there. -/
theorem withOperand_sides {right : Operand} (hc : c.acceptsValue = true)
    (hright : right.Compiled entity) (h : withOperand left c right wildcard = .ok made) :
    made.left = left ∧ made.right.WellFormed entity := by
  cases right with
  | value v => exact withValue_sides (Comparator.ne_absent_of_acceptsValue hc) h
  | term u =>
    rw [withOperand_of_not_isLiteral left hc hright.notLiteral] at h
    cases h
    exact ⟨rfl, .operand hright⟩

/-- A comparison with the outer side of a subquery keeps its left side, and has on the right what
may stand there. -/
theorem withOperand_sides_outer {outer : Term} (hc : c.acceptsValue = true)
    (houter : outer.Outer entity) (h : withOperand left c (.term outer) wildcard = .ok made) :
    made.left = left ∧ made.right.WellFormed entity := by
  cases houter with
  | compiled ht =>
    have hright : (Operand.term outer).Compiled entity := ht
    exact withOperand_sides hc hright h
  | constant v => exact withValue_sides (Comparator.ne_absent_of_acceptsValue hc) h

/-- A comparison of a compiled term is well-formed if its right side is. -/
theorem wellFormed_toPredicate (hleft : left.Compiled entity)
    (hmade : made.left = left ∧ made.right.WellFormed entity) (ignoreCase : Bool) :
    (made.ignoringCase ignoreCase).toPredicate.WellFormed named entity := by
  obtain ⟨rfl, hright⟩ := hmade
  exact .comparison hleft hright

end Comparison

end RowFilter
