import RowFilter.Proofs.Evaluation.Construction
import RowFilter.Term.Kind

/-!
# Well-formed terms

`Term.nodes` lists a term and everything below it, and a term is well-formed over an entity if each
of its nodes obeys the rules of its shape and has a kind. The kind is asked for in every registry:
the members of a compiled term carry their fields, so no registry is consulted.

`Term.Compiled` is what the compilation says of a term that it returns. Each checked constructor
keeps it.
-/

namespace RowFilter

mutual

/-- The nodes of a term, itself first. -/
def Term.nodes : Term → List Term
  | .member ref => [.member ref]
  | .literal v assigned => [.literal v assigned]
  | .binary l sign r => .binary l sign r :: (l.nodes ++ r.nodes)
  | .unary sign t args => .unary sign t args :: (t.nodes ++ Term.nodesOfAll args)

/-- The nodes of an operand; a plain value has none. -/
def Operand.nodes : Operand → List Term
  | .term t => t.nodes
  | .value _ => []

/-- The nodes of terms. -/
def Term.nodesOfAll : List Term → List Term
  | [] => []
  | t :: ts => t.nodes ++ Term.nodesOfAll ts

end

namespace Term

/-- What a single node of a term over an entity obeys: a member is a declared one and carries its
field, a literal is assigned, two operands are joined by an arithmetic sign, and a sign for texts
applies to a term of kind text, of which only a substring has arguments, two integers at most. -/
def NodeRules (entity : Entity) : Term → Prop
  | .member ref =>
    ref.owner = entity.path ∧ ∃ f, entity.field? ref.name = some f ∧ ref.field? = some f
  | .literal _ assigned => assigned = true
  | .binary _ sign _ => sign.isArithmetic = true
  | .unary sign t args =>
    sign.isString = true ∧ (∀ registry, t.kind registry = .ok .text) ∧
      (args ≠ [] → sign = .substring) ∧ args.length ≤ 2 ∧
      ∀ arg ∈ args, ∃ kind, kind.isInteger = true ∧ ∀ registry, arg.kind registry = .ok kind

/-- Every node of a term obeys the rules and has a kind. -/
structure WellFormed (entity : Entity) (t : Term) : Prop where
  /-- Every node obeys the rules of its shape. -/
  rules : ∀ s ∈ t.nodes, s.NodeRules entity
  /-- Every node has a kind, whatever is registered. -/
  kinds : ∀ s ∈ t.nodes, ∃ kind, ∀ registry, s.kind registry = .ok kind

/-- A member occurs in the term. -/
def HasMember (t : Term) : Prop := ∃ ref, .member ref ∈ t.nodes

/-- What holds of a term that is compiled over an entity. -/
structure Compiled (entity : Entity) (t : Term) : Prop where
  /-- The term is no literal by itself. -/
  notLiteral : t.isLiteral = false
  /-- A member occurs in the term. -/
  hasMember : t.HasMember
  /-- The owner of the term is the entity. -/
  owner : t.owner? = some entity.path
  /-- Every node obeys the rules and has a kind. -/
  wellFormed : t.WellFormed entity

end Term

/-- What holds of an operand that is compiled over an entity. -/
def Operand.Compiled (entity : Entity) : Operand → Prop
  | .term t => t.Compiled entity
  | .value _ => True

variable {entity : Entity} {registry : Registry}

namespace Term

/-! ### Nodes -/

theorem nodes_binary (l : Operand) (sign : Sign) (r : Operand) :
    (binary l sign r).nodes = binary l sign r :: (l.nodes ++ r.nodes) := rfl

theorem nodes_unary (sign : Sign) (t : Term) (args : List Term) :
    (unary sign t args).nodes = unary sign t args :: (t.nodes ++ nodesOfAll args) := rfl

theorem mem_nodes_self (t : Term) : t ∈ t.nodes := by
  cases t <;> exact List.mem_cons_self

theorem mem_nodesOfAll {s : Term} {ts : List Term} (h : s ∈ nodesOfAll ts) :
    ∃ t ∈ ts, s ∈ t.nodes := by
  induction ts with
  | nil => cases h
  | cons t ts ih =>
    rw [nodesOfAll, List.mem_append] at h
    rcases h with h | h
    · exact ⟨t, List.mem_cons_self, h⟩
    · obtain ⟨u, hu, hs⟩ := ih h
      exact ⟨u, List.mem_cons_of_mem t hu, hs⟩

/-- The nodes of one of several terms are nodes of them all. -/
theorem nodes_subset_nodesOfAll {t : Term} {ts : List Term} (h : t ∈ ts) :
    t.nodes ⊆ nodesOfAll ts := by
  induction ts with
  | nil => cases h
  | cons u ts ih =>
    rw [nodesOfAll]
    rcases List.mem_cons.mp h with rfl | h
    · exact List.subset_append_left _ _
    · exact List.subset_append_of_subset_right _ (ih h)

/-- The kind of a well-formed term does not depend on the registry. -/
theorem WellFormed.kind_eq {t : Term} {kind : Kind} (h : t.WellFormed entity)
    (hkind : t.kind registry = .ok kind) (registry' : Registry) : t.kind registry' = .ok kind := by
  obtain ⟨k, hk⟩ := h.kinds t t.mem_nodes_self
  rw [hk registry] at hkind
  rw [hk registry', hkind]

/-! ### Well-formedness of each shape -/

/-- The nodes of a composed term obey the rules if the root and the parts do. -/
theorem WellFormed.of_parts {t : Term} {parts : List Term}
    (hnodes : t.nodes = t :: parts) (hrules : t.NodeRules entity)
    (hkind : ∃ kind, ∀ registry, t.kind registry = .ok kind)
    (hparts : ∀ s ∈ parts, s.NodeRules entity ∧ ∃ kind, ∀ registry, s.kind registry = .ok kind) :
    t.WellFormed entity := by
  constructor <;> intro s hs <;> rw [hnodes, List.mem_cons] at hs <;> rcases hs with rfl | hs
  · exact hrules
  · exact (hparts s hs).1
  · exact hkind
  · exact (hparts s hs).2

theorem WellFormed.ofValue (v : Value) : (Term.ofValue v).WellFormed entity :=
  .of_parts rfl rfl ⟨v.kind, fun _ => rfl⟩ nofun

/-- A declared member of the entity is compiled. -/
theorem Compiled.of_ofEntity {name : String} {t : Term} (h : ofEntity entity name = .ok t) :
    t.Compiled entity := by
  obtain ⟨f, hf, rfl⟩ := ofEntity_eq_ok_iff.mp h
  have hname := Entity.name_of_field? hf
  refine ⟨rfl, ⟨_, List.mem_singleton_self _⟩, rfl, .of_parts rfl ⟨rfl, f, ?_, rfl⟩ ?_ nofun⟩
  · rw [hname, hf]
  · exact ⟨f.kind, fun _ => rfl⟩

end Term

namespace Operand.Compiled

variable {o : Operand} (h : o.Compiled entity)

include h

/-- Every node of a compiled operand obeys the rules and has a kind. -/
theorem rules_nodes :
    ∀ s ∈ o.nodes, s.NodeRules entity ∧ ∃ kind, ∀ registry, s.kind registry = .ok kind := by
  cases o with
  | value v => nofun
  | term t => exact fun s hs => ⟨h.wellFormed.rules s hs, h.wellFormed.kinds s hs⟩

/-- A compiled operand has a kind. -/
theorem exists_kind : ∃ kind, ∀ registry, o.kind registry = .ok kind := by
  cases o with
  | value v => exact ⟨v.kind, fun _ => rfl⟩
  | term t => exact h.wellFormed.kinds t t.mem_nodes_self

/-- A compiled operand is a well-formed term, where it stands as one. -/
theorem wellFormed_toTerm : o.toTerm.WellFormed entity := by
  cases o with
  | value v => exact .ofValue v
  | term t => exact h.wellFormed

end Operand.Compiled

namespace Term

/-- Joining compiled operands of which one is a term gives a compiled term. -/
theorem Compiled.binary {l r : Operand} {sign : Sign} (hl : l.Compiled entity)
    (hr : r.Compiled entity) (hterm : l.value? = none ∨ r.value? = none)
    (hsign : sign.isArithmetic = true) : (Term.binary l sign r).Compiled entity := by
  obtain ⟨j, hj⟩ := hl.exists_kind
  obtain ⟨k, hk⟩ := hr.exists_kind
  refine ⟨rfl, ?_, ?_, .of_parts (nodes_binary l sign r) hsign
    ⟨(Kind.arithmeticResult j k).getD j, fun registry => ?_⟩ fun s hs => ?_⟩
  · -- the term among the two sides has the member
    have hmember : ∃ ref, .member ref ∈ l.nodes ++ r.nodes := by
      cases l with
      | term t =>
        obtain ⟨ref, href⟩ := hl.hasMember
        exact ⟨ref, List.mem_append_left _ href⟩
      | value v =>
        cases r with
        | term t =>
          obtain ⟨ref, href⟩ := hr.hasMember
          exact ⟨ref, List.mem_append_right _ href⟩
        | value w => simp [Operand.value?] at hterm
    obtain ⟨ref, href⟩ := hmember
    exact ⟨ref, nodes_binary l sign r ▸ List.mem_cons_of_mem _ href⟩
  · cases l with
    | term t => rw [owner?, Operand.owner?, hl.owner, Option.some_or]
    | value v =>
      cases r with
      | term t => rw [owner?, Operand.owner?, Operand.owner?, hr.owner, Option.none_or]
      | value w => simp [Operand.value?] at hterm
  · rw [Term.kind, hj registry, hk registry]
    rfl
  · rcases List.mem_append.mp hs with hs | hs
    · exact hl.rules_nodes s hs
    · exact hr.rules_nodes s hs

/-- A sign that applies to a compiled term and to well-formed arguments gives a compiled term. -/
theorem Compiled.apply {t w : Term} {sign : Sign} {args : List Term} (ht : t.Compiled entity)
    (hargs : ∀ arg ∈ args, arg.WellFormed entity)
    (h : Term.apply registry sign t args = .ok w) : w.Compiled entity := by
  obtain ⟨hsign, htext, hcount, hinteger, rfl⟩ := apply_eq_ok_iff.mp h
  have hcount' : (args ≠ [] → sign = .substring) ∧ args.length ≤ 2 := by
    rw [Sign.maxArguments] at hcount
    by_cases hsub : sign = .substring
    · rw [if_pos hsub] at hcount
      exact ⟨fun _ => hsub, hcount⟩
    · rw [if_neg hsub] at hcount
      have hnil : args = [] := List.eq_nil_of_length_eq_zero (by omega)
      exact ⟨fun hne => absurd hnil hne, by omega⟩
  refine ⟨rfl, ?_, ht.owner, .of_parts (nodes_unary sign t args) ?_
    ⟨if sign = .length then .int else .text, fun _ => rfl⟩ fun s hs => ?_⟩
  · obtain ⟨ref, href⟩ := ht.hasMember
    exact ⟨ref, nodes_unary sign t args ▸ List.mem_cons_of_mem _ (List.mem_append_left _ href)⟩
  · refine ⟨hsign, ht.wellFormed.kind_eq htext, hcount'.1, hcount'.2, fun arg harg => ?_⟩
    -- the kinds were checked in one registry, and are the same in any other
    obtain ⟨kind, hkind, hint⟩ := hinteger arg harg
    exact ⟨kind, hint, (hargs arg harg).kind_eq hkind⟩
  · rcases List.mem_append.mp hs with hs | hs
    · exact ⟨ht.wellFormed.rules s hs, ht.wellFormed.kinds s hs⟩
    · obtain ⟨arg, harg, hs⟩ := mem_nodesOfAll hs
      exact ⟨(hargs arg harg).rules s hs, (hargs arg harg).kinds s hs⟩

end Term

end RowFilter
