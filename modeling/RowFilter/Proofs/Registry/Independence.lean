import RowFilter.Proofs.Registry.Growth
import RowFilter.Proofs.WellFormed.Compilation

/-!
# Compilations do not depend on the history

What is registered before a compilation matters only where it is in the way of an entity that the
compilation binds itself. Two compilations of one expression, of which the first starts with more
entities registered, have the same outcome as long as those that share a path with an entity of the
expression are this entity (`compile_eq_of_free`).

The entities of one expression may be in each other's way. They are so in both compilations, since
under a path that two of them share nothing can have been registered before.
-/

namespace RowFilter

/-! ### Parts of an expression -/

namespace Expr

/-- The entity of a subquery is one that the expression names. -/
theorem mem_details_of_detail? {e : Expr} {d : Entity} (h : d ∈ e.detail?) : d ∈ e.details := by
  cases e <;> cases h <;> exact List.mem_cons_self

theorem details_subset_of_mem {e : Expr} {es : List Expr} (he : e ∈ es) :
    e.details ⊆ detailsOfAll es := by
  induction es with
  | nil => cases he
  | cons e' es ih =>
    rw [detailsOfAll]
    rcases List.mem_cons.mp he with rfl | he
    · exact List.subset_append_left _ _
    · exact List.subset_append_of_subset_right _ (ih he)

/-- What a part names the whole names. -/
theorem details_subset_of_mem_parts {c e : Expr} (hc : c ∈ e.parts) : c.details ⊆ e.details := by
  have hparts : detailsOfAll e.parts ⊆ e.details := by
    cases e with
    | call | staticCall => exact List.Subset.refl _
    | _ => simp [parts, details, detailsOfAll]
  exact List.Subset.trans (details_subset_of_mem hc) hparts

end Expr

/-! ### Registries of which one is ahead -/

/-- The first registry binds what the second does. Where it binds the path of a named entity and the
second does not, it is to this entity. -/
structure Registry.Ahead (named : Entity → Prop) (registry registry' : Registry) : Prop where
  /-- What the second registry binds, the first one does. -/
  binds : registry'.Extends registry
  /-- What the first one binds beyond is not in the way of a named entity. -/
  free : ∀ d, named d → ∀ bound, registry.find? d.path = some bound →
    registry'.find? d.path = some bound ∨ bound = d

namespace Registry.Ahead

variable {named : Entity → Prop} {registry registry' : Registry} {e : Entity}

/-- A registry in which nothing is in the way of a named entity is ahead of the empty one. -/
theorem of_free (h : ∀ d, named d → ∀ bound, registry.find? d.path = some bound → bound = d) :
    registry.Ahead named .empty where
  binds _ _ h := nomatch h
  free d hd bound hbound := .inr (h d hd bound hbound)

/-- A named entity is bound in both registries or in none, and the first one stays ahead. -/
theorem register (h : registry.Ahead named registry') (he : named e) :
    (∃ bound bound', registry.register e = .ok bound ∧ registry'.register e = .ok bound' ∧
        bound.Ahead named bound') ∨
      ∃ err, registry.register e = .error err ∧ registry'.register e = .error err := by
  by_cases hclash : ∃ bound, registry.find? e.path = some bound ∧ bound ≠ e
  · -- the entity in the way is not one that the first registry has beyond the second
    obtain ⟨bound, hbound, hne⟩ := hclash
    have hbound' := (h.free e he bound hbound).resolve_right hne
    exact .inr ⟨.entityConflict e.path, register_eq_error_iff.mpr ⟨⟨bound, hbound, hne⟩, rfl⟩,
      register_eq_error_iff.mpr ⟨⟨bound, hbound', hne⟩, rfl⟩⟩
  · cases hok : registry.register e with
    | error err => exact absurd (register_eq_error_iff.mp hok).1 hclash
    | ok bound =>
      cases hok' : registry'.register e with
      | error err =>
        obtain ⟨⟨other, hother, hne⟩, -⟩ := register_eq_error_iff.mp hok'
        exact absurd ⟨other, h.binds _ _ hother, hne⟩ hclash
      | ok bound' =>
        refine .inl ⟨bound, bound', rfl, rfl, fun path d hd => ?_, fun d hd other hother => ?_⟩
        · rw [find?_of_register hok'] at hd
          rw [find?_of_register hok]
          split at hd
          next hpath => rw [if_pos hpath, hd]
          next hpath => rw [if_neg hpath, h.binds path d hd]
        · rw [find?_of_register hok] at hother
          rw [find?_of_register hok']
          split at hother
          next hpath =>
            rw [if_pos hpath]
            exact .inl hother
          next hpath =>
            rw [if_neg hpath]
            exact h.free d hd other hother

end Registry.Ahead

/-! ### Compilations -/

namespace Compilation

variable {α : Type} {named : Entity → Prop} {config : Config}

/-- From registries of which the first is ahead, both computations have the same outcome and leave
registries of which the first is ahead. -/
def Agree (named : Entity → Prop) (α : Type) (x y : Compilation α) : Prop :=
  ∀ t t' : Trace, t.registry.Ahead named t'.registry →
    (x.run.run t).1 = (y.run.run t').1 ∧
      (x.run.run t).2.registry.Ahead named (y.run.run t').2.registry

theorem agree_register {entity : Entity} (hentity : named entity) :
    Agree named Unit (register entity) (register entity) := by
  intro t t' h
  rw [run_register, run_register]
  rcases h.register hentity with ⟨bound, bound', hok, hok', hahead⟩ | ⟨err, herr, herr'⟩
  · rw [hok, hok']
    exact ⟨rfl, hahead⟩
  · rw [herr, herr']
    exact ⟨rfl, h⟩

theorem Agree.bind {β : Type} {x y : Compilation α} {f g : α → Compilation β}
    (hxy : Agree named α x y) (hfg : ∀ a t, outcome? x t = some a → Agree named β (f a) (g a)) :
    Agree named β (x >>= f) (y >>= g) := by
  intro t t' h
  obtain ⟨hsame, hahead⟩ := hxy t t' h
  rw [run_bind, run_bind]
  rcases hx : x.run.run t with ⟨err | a, s⟩ <;> rcases hy : y.run.run t' with ⟨err' | a', s'⟩
    <;> rw [hx, hy] at hsame hahead <;> cases hsame
  · exact ⟨rfl, hahead⟩
  · exact hfg a t (by rw [outcome?, hx]; rfl) s s' hahead

theorem sequential_agree (shown : String) : Sequential shown named (Agree named) where
  own hx t t' h := by
    rw [hx.registry, hx.registry]
    exact ⟨hx.outcome t t', h⟩
  register _ := agree_register
  bind := Agree.bind

/-- Compilations of an expression about named entities agree. -/
theorem agree_lower : ∀ {n : Nat} {entity : Entity} {e : Expr}, (∀ d ∈ e.details, named d) →
    Agree named (Option Predicate) (lowerPredicate config n entity e)
        (lowerPredicate config n entity e) ∧
      Agree named Operand (lowerOperand config n entity e) (lowerOperand config n entity e) := by
  intro n
  induction n with
  | zero => exact fun _ => ⟨fun t t' h => ⟨rfl, h⟩, fun t t' h => ⟨rfl, h⟩⟩
  | succ n ih =>
    intro entity e hnamed
    have hparts : ∀ c ∈ e.parts, ∀ d ∈ c.details, named d := fun c hc d hd =>
      hnamed d (Expr.details_subset_of_mem_parts hc hd)
    constructor
    · exact (sequential_agree _).lowerPredicate (d := config.maxDepth)
        (fun d hd => hnamed d (Expr.mem_details_of_detail? hd))
        (fun c hc entity => (ih (hparts c hc)).1) (fun c hc => (ih (hparts c hc)).2)
        fun _ => (ih hnamed).2
    · exact (sequential_agree _).lowerOperand (d := config.maxDepth)
        (fun c hc => (ih (hparts c hc)).2) fun _ => (ih hnamed).1

/-- The outcome of a compilation over an entity is the one from the empty registry, where nothing is
in the way. -/
theorem run_overEntity_eq_of_free {entity : Entity} {x : Compilation α} (hentity : named entity)
    (hx : Agree named α x x) {t : Trace}
    (hfree : ∀ d, named d → ∀ bound, t.registry.find? d.path = some bound → bound = d) :
    ((overEntity entity x).run t).1 = ((overEntity entity x).run ⟨.empty, []⟩).1 :=
  ((agree_register hentity).bind (fun _ _ _ => hx) t ⟨.empty, []⟩ (.of_free hfree)).1

end Compilation

/-- A compilation has the outcome that it has from the empty registry, if nothing that is registered
is in the way of its entity or of an entity of its subqueries. -/
theorem compile_eq_of_free (entity : Entity) (config : Config) (e : Expr) {t : Trace}
    (hfree : ∀ d, d = entity ∨ d ∈ e.details →
      ∀ bound, t.registry.find? d.path = some bound → bound = d) :
    ((compilePredicate entity config e).run t).1 =
        ((compilePredicate entity config e).run ⟨.empty, []⟩).1 ∧
      ((compileOperand entity config e).run t).1 =
        ((compileOperand entity config e).run ⟨.empty, []⟩).1 := by
  have hnamed : ∀ d ∈ e.details, d = entity ∨ d ∈ e.details := fun _ hd => Or.inr hd
  constructor
  · exact Compilation.run_overEntity_eq_of_free (.inl rfl) (Compilation.agree_lower hnamed).1 hfree
  · exact Compilation.run_overEntity_eq_of_free (.inl rfl) (Compilation.agree_lower hnamed).2 hfree

end RowFilter
