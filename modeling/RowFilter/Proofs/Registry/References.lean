import RowFilter.Proofs.Canonical.Decoding
import RowFilter.Proofs.Registry.Growth

/-!
# The references of a term

A member reference may carry a field, and the kind of a term follows the fields. What a reference
carries is known in a registry if the registry gives the same field under the owner and the name.
Where that holds of all references of a term, the fields are a memory of lookups: the term has the
kind and the values of its unresolved form.

The terms that are compiled over an entity carry fields that are known once the entity is bound, and
those that are decoded carry none.
-/

namespace RowFilter

/-! ### All references of a term -/

/-- Every member reference of a term has a property. -/
def Term.AllRefs (P : MemberRef → Prop) (t : Term) : Prop := ∀ ref, .member ref ∈ t.nodes → P ref

/-- Every member reference of an operand has a property. -/
def Operand.AllRefs (P : MemberRef → Prop) (o : Operand) : Prop :=
  ∀ ref, .member ref ∈ o.nodes → P ref

section

variable {P Q : MemberRef → Prop}

namespace Term

theorem allRefs_member {ref : MemberRef} : (member ref).AllRefs P ↔ P ref := by
  constructor
  · exact fun h => h ref List.mem_cons_self
  · intro h ref' href
    cases List.mem_singleton.mp href
    exact h

theorem allRefs_literal (v : Value) (assigned : Bool) : (literal v assigned).AllRefs P := by
  intro ref href
  cases List.mem_singleton.mp href

theorem allRefs_binary {l r : Operand} {sign : Sign} :
    (binary l sign r).AllRefs P ↔ l.AllRefs P ∧ r.AllRefs P := by
  simp [AllRefs, Operand.AllRefs, nodes_binary, or_imp, forall_and]

theorem allRefs_unary {t : Term} {sign : Sign} {args : List Term} :
    (unary sign t args).AllRefs P ↔ t.AllRefs P ∧ ∀ arg ∈ args, arg.AllRefs P := by
  have hargs : (∀ ref, .member ref ∈ nodesOfAll args → P ref) ↔ ∀ arg ∈ args, arg.AllRefs P := by
    constructor
    · exact fun h arg harg ref href => h ref (nodes_subset_nodesOfAll harg href)
    · intro h ref href
      obtain ⟨arg, harg, href⟩ := mem_nodesOfAll href
      exact h arg harg ref href
  rw [← hargs]
  simp [AllRefs, nodes_unary, or_imp, forall_and]

theorem AllRefs.mono {t : Term} (h : t.AllRefs P) (hPQ : ∀ ref, P ref → Q ref) : t.AllRefs Q :=
  fun ref href => hPQ ref (h ref href)

end Term

theorem Operand.AllRefs.mono {o : Operand} (h : o.AllRefs P) (hPQ : ∀ ref, P ref → Q ref) :
    o.AllRefs Q :=
  fun ref href => hPQ ref (h ref href)

end

/-! ### Known fields -/

namespace MemberRef

variable {registry registry' : Registry} {ref : MemberRef}

/-- The field that a reference carries, if any, is the one that the registry gives. -/
def KnownIn (registry : Registry) (ref : MemberRef) : Prop :=
  ∀ f, ref.field? = some f → registry.field ref.owner ref.name = .ok f

/-- A reference with a known field has the field that it would have without it. -/
theorem KnownIn.field_unresolved (h : ref.KnownIn registry) :
    ref.unresolved.field registry = ref.field registry := by
  obtain ⟨owner, name, field?⟩ := ref
  cases field? with
  | none => rfl
  | some f => exact h f rfl

/-- A field that is known stays known. -/
theorem KnownIn.of_extends (h : ref.KnownIn registry) (hextends : registry.Extends registry') :
    ref.KnownIn registry' :=
  fun f hf => hextends.field (h f hf)

/-- A field that a reference has taken from the registry is known. -/
theorem KnownIn.resolved (h : ref.KnownIn registry) : (ref.resolved registry).KnownIn registry := by
  rw [MemberRef.resolved]
  cases hfield : ref.field registry with
  | error err => exact h
  | ok f =>
    rintro f' ⟨⟩
    rw [← h.field_unresolved] at hfield
    exact hfield

theorem knownIn_of_field?_eq_none (h : ref.field? = none) : ref.KnownIn registry := by
  intro f hf
  rw [h] at hf
  cases hf

theorem unresolved_resolved (ref : MemberRef) (registry : Registry) :
    (ref.resolved registry).unresolved = ref.unresolved := by
  rw [MemberRef.resolved]
  cases ref.field registry <;> rfl

end MemberRef

section

variable {registry : Registry} {row : Row}

mutual

/-- Known fields do not show in the kind of a term. -/
theorem Term.kind_unresolved : ∀ {t : Term}, t.AllRefs (·.KnownIn registry) →
    t.unresolved.kind registry = t.kind registry
  | .member ref, h => by
    have hfield := (Term.allRefs_member.mp h).field_unresolved
    rw [Term.unresolved, Term.kind, Term.kind, MemberRef.kind, hfield, ← MemberRef.kind]
  | .literal _ _, _ => rfl
  | .binary l s r, h => by
    obtain ⟨hl, hr⟩ := Term.allRefs_binary.mp h
    rw [Term.unresolved, Term.kind, Term.kind, Operand.kind_unresolved hl,
      Operand.kind_unresolved hr]
  | .unary _ _ _, _ => rfl

/-- Known fields do not show in the kind of an operand. -/
theorem Operand.kind_unresolved : ∀ {o : Operand}, o.AllRefs (·.KnownIn registry) →
    o.unresolved.kind registry = o.kind registry
  | .term _, h => Term.kind_unresolved h
  | .value _, _ => rfl

end

mutual

/-- Known fields do not show in the value of a term. -/
theorem Term.evaluate_unresolved : ∀ {t : Term}, t.AllRefs (·.KnownIn registry) →
    t.unresolved.evaluate registry row = t.evaluate registry row
  | .member _, _ => rfl
  | .literal _ _, _ => rfl
  | .binary l s r, h => by
    have hkind := Term.kind_unresolved h
    have hdisplay := (Term.binary l s r).display_unresolved
    obtain ⟨hl, hr⟩ := Term.allRefs_binary.mp h
    rw [Term.unresolved] at hkind hdisplay
    rw [Term.unresolved, Term.evaluate, Term.evaluate, hkind, hdisplay,
      Operand.evaluate_unresolved hl, Operand.evaluate_unresolved hr]
  | .unary s t args, h => by
    have hdisplay := (Term.unary s t args).display_unresolved
    obtain ⟨ht, hargs⟩ := Term.allRefs_unary.mp h
    rw [Term.unresolved] at hdisplay
    simp only [Term.unresolved, Term.evaluate, hdisplay, Term.evaluate_unresolved ht,
      Term.evaluateArgs_unresolved hargs]

/-- Known fields do not show in the value of an operand. -/
theorem Operand.evaluate_unresolved : ∀ {o : Operand}, o.AllRefs (·.KnownIn registry) →
    o.unresolved.evaluate registry row = o.evaluate registry row
  | .term _, h => Term.evaluate_unresolved h
  | .value _, _ => rfl

/-- Known fields do not show in the positions that are arguments. -/
theorem Term.evaluateArgs_unresolved {shown : String} : ∀ {args : List Term},
    (∀ arg ∈ args, arg.AllRefs (·.KnownIn registry)) →
      Term.evaluateArgs registry row shown (Term.unresolvedAll args) =
        Term.evaluateArgs registry row shown args
  | [], _ => rfl
  | arg :: args, h => by
    obtain ⟨harg, hargs⟩ := List.forall_mem_cons.mp h
    simp only [Term.unresolvedAll, Term.evaluateArgs, Term.evaluate_unresolved harg,
      Term.evaluateArgs_unresolved hargs]

end

/-- Operands that agree have the same kind and the same value over every row, if their fields are
known. -/
theorem Operand.same_of_knownIn_of_agrees {o o' : Operand} (ho : o.AllRefs (·.KnownIn registry))
    (ho' : o'.AllRefs (·.KnownIn registry)) (h : o.agrees o' = true) :
    o.kind registry = o'.kind registry ∧
      ∀ row, o.evaluate registry row = o'.evaluate registry row := by
  rw [Operand.agrees_iff] at h
  constructor
  · rw [← Operand.kind_unresolved ho, ← Operand.kind_unresolved ho', h]
  · intro row
    rw [← Operand.evaluate_unresolved ho, ← Operand.evaluate_unresolved ho', h]

end

/-! ### Compiled and decoded terms -/

/-- The fields of a compiled operand are known where its entity is bound. -/
theorem Operand.Compiled.knownIn {registry : Registry} {entity : Entity} {o : Operand}
    (ho : o.Compiled entity) (hentity : registry.find? entity.path = some entity) :
    o.AllRefs (·.KnownIn registry) := by
  intro ref href f hf
  obtain ⟨⟨howner, g, hg, hcarried⟩, -⟩ := ho.rules_nodes _ href
  rw [hcarried] at hf
  cases hf
  rw [howner]
  exact Registry.field_eq_ok_iff.mpr ⟨entity, hentity, hg⟩

namespace Item

/-- The terms and operands that are read under a bound of nesting carry no fields. -/
structure ReadsNoFields (n : Nat) : Prop where
  term : ∀ {item t}, asTerm n item = .ok t → t.AllRefs (·.field? = none)
  operand : ∀ {item o}, asOperand n item = .ok o → o.AllRefs (·.field? = none)

/-- Each item of a list that is read was read by itself. -/
theorem exists_of_mem_mapM {α β ε : Type} {f : α → Except ε β} :
    ∀ {as : List α} {bs : List β} {b : β}, as.mapM f = .ok bs → b ∈ bs → ∃ a, f a = .ok b
  | [], bs, b, h, hb => by
    cases h
    cases hb
  | a :: as, bs, b, h, hb => by
    rw [List.mapM_cons] at h
    obtain ⟨c, hc, h⟩ := bind_eq_ok_iff.mp h
    obtain ⟨cs, hcs, h⟩ := bind_eq_ok_iff.mp h
    cases h
    rcases List.mem_cons.mp hb with rfl | hb
    · exact ⟨a, hc⟩
    · exact exists_of_mem_mapM hcs hb

section

variable {n : Nat} {item : Item}

theorem ReadsNoFields.term_succ (ih : ReadsNoFields n) {t : Term}
    (h : asTerm (n + 1) item = .ok t) : t.AllRefs (·.field? = none) := by
  rw [asTerm] at h
  obtain ⟨e, he, hread⟩ := exists_of_asVariant h
  simp only [List.mem_cons, List.not_mem_nil, or_false] at he
  rcases he with rfl | rfl | rfl | rfl
  · -- a reference is read by its owner and its name
    obtain ⟨i, hi⟩ := hread
    obtain ⟨ref, href, rfl⟩ := map_eq_ok_iff.mp hi
    obtain ⟨⟨owner, name⟩, -, href⟩ := bind_eq_ok_iff.mp href
    cases href
    exact Term.allRefs_member.mpr rfl
  · obtain ⟨i, hi⟩ := hread
    obtain ⟨⟨v, assigned⟩, -, hi⟩ := bind_eq_ok_iff.mp hi
    cases hi
    exact Term.allRefs_literal v assigned
  · obtain ⟨i, hi⟩ := hread
    obtain ⟨⟨l, sign, r⟩, hparts, hi⟩ := bind_eq_ok_iff.mp hi
    obtain ⟨⟨j, hj⟩, -, ⟨k, hk⟩⟩ := parts_of_record3 hparts
    cases hi
    exact Term.allRefs_binary.mpr ⟨ih.operand hj, ih.operand hk⟩
  · obtain ⟨i, hi⟩ := hread
    obtain ⟨⟨sign, u, args⟩, hparts, hi⟩ := bind_eq_ok_iff.mp hi
    obtain ⟨-, ⟨j, hj⟩, ⟨k, hk⟩⟩ := parts_of_record3 hparts
    cases hi
    obtain ⟨items, -, hargs⟩ := bind_eq_ok_iff.mp hk
    refine Term.allRefs_unary.mpr ⟨ih.term hj, fun arg harg => ?_⟩
    obtain ⟨_, harg⟩ := exists_of_mem_mapM hargs harg
    exact ih.term harg

theorem ReadsNoFields.operand_succ (ih : ReadsNoFields n) {o : Operand}
    (h : asOperand (n + 1) item = .ok o) : o.AllRefs (·.field? = none) := by
  rw [asOperand] at h
  obtain ⟨e, he, hread⟩ := exists_of_asVariant h
  simp only [List.mem_cons, List.not_mem_nil, or_false] at he
  rcases he with rfl | rfl
  · obtain ⟨i, hi⟩ := hread
    obtain ⟨t, ht, rfl⟩ := map_eq_ok_iff.mp hi
    exact ih.term ht
  · obtain ⟨i, hi⟩ := hread
    obtain ⟨v, -, rfl⟩ := map_eq_ok_iff.mp hi
    nofun

end

/-- Whatever the bound of nesting, no field is read. -/
theorem readsNoFields (n : Nat) : ReadsNoFields n := by
  induction n with
  | zero => exact ⟨nofun, nofun⟩
  | succ n ih => exact ⟨ih.term_succ, ih.operand_succ⟩

end Item

/-- A decoded term carries no fields. -/
theorem Term.allRefs_of_decode {limit : Nat} {bytes : List UInt8} {t : Term}
    (h : Term.decode limit bytes = .ok t) : t.AllRefs (·.field? = none) := by
  obtain ⟨item, hitem⟩ := exists_of_decodeBytes h
  exact (Item.readsNoFields _).term hitem

/-- A decoded operand carries no fields. -/
theorem Operand.allRefs_of_decode {limit : Nat} {bytes : List UInt8} {o : Operand}
    (h : Operand.decode limit bytes = .ok o) : o.AllRefs (·.field? = none) := by
  obtain ⟨item, hitem⟩ := exists_of_decodeBytes h
  exact (Item.readsNoFields _).operand hitem

end RowFilter
