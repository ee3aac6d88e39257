import RowFilter.Proofs.WellFormed.Compilation

/-!
# Owners of terms

The nodes of a term are listed as the term is read: itself, then its parts from left to right, an
operand before the arguments. `Term.leftmost?` is the first member on the list. The owner of a term
passes the arguments of its calls over. It is the owner of the first member on the spine, which has
the nodes outside arguments, and so the owner of the leftmost member only where no call has its
first member among its arguments (`Term.owner?_eq_leftmost?_iff`).

A checked constructor does make such calls, of a substring of a literal from the position that a
member has; the compilation does not.
-/

namespace RowFilter

mutual

/-- The nodes of a term outside the arguments of calls, itself first. -/
def Term.spine : Term → List Term
  | .member ref => [.member ref]
  | .literal v assigned => [.literal v assigned]
  | .binary l sign r => .binary l sign r :: (l.spine ++ r.spine)
  | .unary sign t args => .unary sign t args :: t.spine

/-- The nodes of an operand outside the arguments of calls. -/
def Operand.spine : Operand → List Term
  | .term t => t.spine
  | .value _ => []

end

namespace Term

/-- The first member of a term, in reading order. -/
def leftmost? (t : Term) : Option MemberRef := t.nodes.findSome? member?

/-- Where an argument of a call has a member, the term that the sign is applied to has one. -/
def ArgumentsFollow : Term → Prop
  | .unary _ t args => (∃ arg ∈ args, arg.HasMember) → t.HasMember
  | _ => True

/-- The first member on a list of terms is one of them. -/
theorem mem_of_findSome?_member? {ts : List Term} {ref : MemberRef}
    (h : ts.findSome? member? = some ref) : .member ref ∈ ts := by
  obtain ⟨s, hs, href⟩ := List.exists_of_findSome?_eq_some h
  cases s <;> cases href
  exact hs

/-- A list of terms has no first member if no member is on it. -/
theorem findSome?_member?_eq_none_iff {ts : List Term} :
    ts.findSome? member? = none ↔ ∀ ref, .member ref ∉ ts := by
  rw [List.findSome?_eq_none_iff]
  constructor
  · intro h ref href
    cases h _ href
  · intro h s hs
    cases s with
    | member ref => exact absurd hs (h ref)
    | _ => rfl

/-- A term without a leftmost member has no member. -/
theorem leftmost?_eq_none_iff {t : Term} : t.leftmost? = none ↔ ¬t.HasMember := by
  rw [leftmost?, findSome?_member?_eq_none_iff, HasMember, not_exists]

end Term

/-! ### The spine -/

mutual

/-- The owner of a term is the one of the first member on the spine. -/
theorem Term.owner?_eq_spine : ∀ t : Term,
    t.owner? = (t.spine.findSome? Term.member?).map (·.owner)
  | .member _ => rfl
  | .literal _ _ => rfl
  | .binary l sign r => by
    rw [Term.owner?, l.owner?_eq_spine, r.owner?_eq_spine, ← Option.map_or, ← List.findSome?_append]
    rfl
  | .unary sign t args => by
    rw [Term.owner?, t.owner?_eq_spine]
    rfl

/-- The owner of an operand is the one of the first member on the spine. -/
theorem Operand.owner?_eq_spine : ∀ o : Operand,
    o.owner? = (o.spine.findSome? Term.member?).map (·.owner)
  | .term t => t.owner?_eq_spine
  | .value _ => rfl

end

mutual

/-- What is on the spine is a node. -/
theorem Term.spine_subset_nodes : ∀ t : Term, t.spine ⊆ t.nodes
  | .member _ => List.Subset.refl _
  | .literal _ _ => List.Subset.refl _
  | .binary l sign r => by
    refine List.cons_subset_cons _ (List.append_subset.mpr ⟨?_, ?_⟩)
    · exact List.subset_append_of_subset_left _ l.spine_subset_nodes
    · exact List.subset_append_of_subset_right _ r.spine_subset_nodes
  | .unary sign t args =>
    List.cons_subset_cons _ (List.subset_append_of_subset_left _ t.spine_subset_nodes)

/-- What is on the spine of an operand is a node. -/
theorem Operand.spine_subset_nodes : ∀ o : Operand, o.spine ⊆ o.nodes
  | .term t => t.spine_subset_nodes
  | .value _ => List.Subset.refl _

end

/-- A term that has an owner has a member. -/
theorem Term.hasMember_of_owner? {t : Term} {path : String} (h : t.owner? = some path) :
    t.HasMember := by
  rw [t.owner?_eq_spine] at h
  obtain ⟨ref, href, -⟩ := Option.map_eq_some_iff.mp h
  exact ⟨ref, t.spine_subset_nodes (mem_of_findSome?_member? href)⟩

/-! ### The leftmost member -/

mutual

/-- The owner of a term is the one of the leftmost member, if the arguments follow in every node. -/
theorem Term.owner?_eq_leftmost? : ∀ {t : Term}, (∀ s ∈ t.nodes, s.ArgumentsFollow) →
    t.owner? = t.leftmost?.map (·.owner)
  | .member _, _ => rfl
  | .literal _ _, _ => rfl
  | .binary l sign r, h => by
    have hl : ∀ s ∈ l.nodes, s.ArgumentsFollow := fun s hs =>
      h s (List.mem_cons_of_mem _ (List.mem_append_left _ hs))
    have hr : ∀ s ∈ r.nodes, s.ArgumentsFollow := fun s hs =>
      h s (List.mem_cons_of_mem _ (List.mem_append_right _ hs))
    rw [Term.owner?, Operand.owner?_eq_leftmost? hl, Operand.owner?_eq_leftmost? hr,
      ← Option.map_or, ← List.findSome?_append]
    rfl
  | .unary sign t args, h => by
    have ht : ∀ s ∈ t.nodes, s.ArgumentsFollow := fun s hs =>
      h s (List.mem_cons_of_mem _ (List.mem_append_left _ hs))
    have hfollow : (∃ arg ∈ args, arg.HasMember) → t.HasMember := h _ List.mem_cons_self
    have hleftmost : (Term.unary sign t args).leftmost? =
        t.leftmost?.or ((Term.nodesOfAll args).findSome? Term.member?) :=
      List.findSome?_append
    rw [Term.owner?, Term.owner?_eq_leftmost? ht, hleftmost]
    cases hfirst : t.leftmost? with
    | some ref => rfl
    | none =>
      -- no member in the operand, so none in an argument either
      have hnone : (Term.nodesOfAll args).findSome? Term.member? = none := by
        rw [Term.findSome?_member?_eq_none_iff]
        intro ref href
        obtain ⟨arg, harg, href⟩ := Term.mem_nodesOfAll href
        exact Term.leftmost?_eq_none_iff.mp hfirst (hfollow ⟨arg, harg, ref, href⟩)
      rw [hnone]
      rfl

/-- The owner of an operand is the one of its first member, if the arguments follow in every
node. -/
theorem Operand.owner?_eq_leftmost? : ∀ {o : Operand}, (∀ s ∈ o.nodes, s.ArgumentsFollow) →
    o.owner? = (o.nodes.findSome? Term.member?).map (·.owner)
  | .term _, h => Term.owner?_eq_leftmost? h
  | .value _, _ => rfl

end

mutual

/-- The nodes of a node are nodes. -/
theorem Term.nodes_subset_of_mem : ∀ {t s : Term}, s ∈ t.nodes → s.nodes ⊆ t.nodes
  | .member _, _, h => by
    rw [List.mem_singleton.mp h]
    exact List.Subset.refl _
  | .literal _ _, _, h => by
    rw [List.mem_singleton.mp h]
    exact List.Subset.refl _
  | .binary l sign r, s, h => by
    rcases List.mem_cons.mp h with rfl | h
    · exact List.Subset.refl _
    · refine List.subset_cons_of_subset _ ?_
      rcases List.mem_append.mp h with h | h
      · exact List.subset_append_of_subset_left _ (Operand.nodes_subset_of_mem h)
      · exact List.subset_append_of_subset_right _ (Operand.nodes_subset_of_mem h)
  | .unary sign t args, s, h => by
    rcases List.mem_cons.mp h with rfl | h
    · exact List.Subset.refl _
    · refine List.subset_cons_of_subset _ ?_
      rcases List.mem_append.mp h with h | h
      · exact List.subset_append_of_subset_left _ (Term.nodes_subset_of_mem h)
      · exact List.subset_append_of_subset_right _ (Term.nodesOfAll_subset_of_mem h)

/-- The nodes of a node of an operand are nodes of it. -/
theorem Operand.nodes_subset_of_mem : ∀ {o : Operand} {s : Term}, s ∈ o.nodes → s.nodes ⊆ o.nodes
  | .term _, _, h => Term.nodes_subset_of_mem h

/-- The nodes of a node of arguments are nodes of them. -/
theorem Term.nodesOfAll_subset_of_mem : ∀ {ts : List Term} {s : Term}, s ∈ Term.nodesOfAll ts →
    s.nodes ⊆ Term.nodesOfAll ts
  | t :: ts, s, h => by
    rw [Term.nodesOfAll]
    rcases List.mem_append.mp h with h | h
    · exact List.subset_append_of_subset_left _ (Term.nodes_subset_of_mem h)
    · exact List.subset_append_of_subset_right _ (Term.nodesOfAll_subset_of_mem h)

end

namespace Term

/-- The first member of a compiled term belongs to the entity, as the term does. -/
theorem Compiled.exists_leftmost {entity : Entity} {t : Term} (h : t.Compiled entity) :
    ∃ ref, t.leftmost? = some ref ∧ t.owner? = some ref.owner := by
  cases hfirst : t.leftmost? with
  | none => exact absurd h.hasMember (leftmost?_eq_none_iff.mp hfirst)
  | some ref =>
    have howner : ref.owner = entity.path :=
      (h.wellFormed.rules _ (mem_of_findSome?_member? hfirst)).1
    exact ⟨ref, rfl, howner ▸ h.owner⟩

/-- The owner of a term is the one of the first member on its spine. It is the one of the leftmost
member, and absent exactly if there is no member, throughout the nodes of a term if and only if in
every call with a member in an argument the sign is applied to a term with a member. A compiled term
has the owner of its leftmost member in any case. -/
theorem owner?_eq_leftmost?_iff (t : Term) :
    t.owner? = (t.spine.findSome? member?).map (·.owner) ∧
      ((∀ s ∈ t.nodes, s.owner? = s.leftmost?.map (·.owner) ∧ (s.owner? = none ↔ ¬s.HasMember)) ↔
        ∀ s ∈ t.nodes, s.ArgumentsFollow) ∧
      ∀ entity config e trace,
        ((compileOperand entity config e).run trace).1 = .ok (.term t) →
          ∃ ref, t.leftmost? = some ref ∧ t.owner? = some ref.owner := by
  refine ⟨t.owner?_eq_spine, ⟨fun h s hs => ?_, fun h s hs => ?_⟩, ?_⟩
  · cases s with
    | unary sign u args =>
      rintro ⟨arg, harg, ref, href⟩
      -- the call has a member, in the argument, and so it has an owner, that of its operand
      have hmember : (unary sign u args).HasMember :=
        ⟨ref, List.mem_cons_of_mem _ (List.mem_append_right _ (nodes_subset_nodesOfAll harg href))⟩
      have howner : u.owner? ≠ none := fun hnone => (h _ hs).2.mp hnone hmember
      obtain ⟨path, hpath⟩ := Option.ne_none_iff_exists'.mp howner
      exact hasMember_of_owner? hpath
    | _ => trivial
  · have hleftmost := owner?_eq_leftmost? fun u hu => h u (nodes_subset_of_mem hs hu)
    refine ⟨hleftmost, ?_⟩
    rw [hleftmost, Option.map_eq_none_iff, leftmost?_eq_none_iff]
  · intro entity config e trace h
    rw [compileOperand, ← toOption_eq_some_iff, Compilation.toOption_run_overEntity] at h
    obtain ⟨_, -, h⟩ := Option.bind_eq_some_iff.mp h
    exact (Compilation.compiledFrom_of_lowerOperand h).compiled.exists_leftmost

/-- A substring of a member, from the position that another member has. -/
theorem owner?_eq_leftmost?_iff_substring :
    let name : Field := ⟨"name", .text, false⟩
    let qty : Field := ⟨"qty", .int, false⟩
    let product : Entity := ⟨"Product", "product", [name, qty]⟩
    let e : Expr := .call (.field "name") "substring" [.field "qty"]
    let t : Term := .unary .substring (.member ⟨"product", "name", some name⟩)
      [.member ⟨"product", "qty", some qty⟩]
    ((compileOperand product .default e).run ⟨.empty, []⟩).1 = .ok (.term t) ∧
      (∃ ref, t.leftmost? = some ref ∧ t.owner? = some ref.owner) ∧
      ∀ s ∈ t.nodes, s.owner? = s.leftmost?.map (·.owner) := by
  intro name qty product e t
  have hcompile : ((compileOperand product .default e).run ⟨.empty, []⟩).1 = .ok (.term t) := rfl
  obtain ⟨-, hiff, hcompiled⟩ := owner?_eq_leftmost?_iff t
  refine ⟨hcompile, hcompiled product .default e _ hcompile, fun s hs => (hiff.mpr ?_ s hs).1⟩
  -- the only call is of a member
  intro u hu
  simp only [t, nodes, nodesOfAll, List.mem_cons, List.cons_append, List.nil_append,
    List.not_mem_nil, or_false] at hu
  rcases hu with rfl | rfl | rfl
  · exact fun _ => ⟨_, List.mem_singleton_self _⟩
  · trivial
  · trivial

/-- A substring of a literal from the position that a member has can be made, and has a member but
no owner. -/
theorem owner?_substring_of_literal :
    let qty : Field := ⟨"qty", .int, false⟩
    let product : Entity := ⟨"Product", "product", [qty]⟩
    ∃ arg t, ofEntity product "qty" = .ok arg ∧
      apply ⟨[product]⟩ .substring (ofValue (.text "abc")) [arg] = .ok t ∧
      t.leftmost? = some ⟨"product", "qty", some qty⟩ ∧ t.HasMember ∧ t.owner? = none := by
  intro qty product
  refine ⟨_, _, rfl, rfl, rfl, ⟨⟨"product", "qty", some qty⟩, ?_⟩, rfl⟩
  exact List.mem_cons_of_mem _ (List.mem_cons_of_mem _ List.mem_cons_self)

end Term

end RowFilter
