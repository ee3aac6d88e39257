import RowFilter.Proofs.Compilation.Depth

/-!
# Registries only grow

A registry extends another if it binds every path that the other binds, to the same entity. Binding
an entity extends the registry, and fails exactly if another entity has the path. What is looked up
with success is found again in every extension, so a member reference that has a field keeps it.

A compilation only ever extends the registry, whether it succeeds or not (`grows_lower`).
-/

namespace RowFilter

namespace Registry

/-- The second registry binds what the first one binds, to the same entities. -/
def Extends (registry registry' : Registry) : Prop :=
  ∀ path e, registry.find? path = some e → registry'.find? path = some e

variable {registry registry' registry'' : Registry} {e : Entity} {err : Error} {path name : String}
  {f : Field}

theorem Extends.refl (registry : Registry) : registry.Extends registry := fun _ _ h => h

theorem Extends.trans (h : registry.Extends registry') (h' : registry'.Extends registry'') :
    registry.Extends registry'' :=
  fun path e he => h' path e (h path e he)

/-- An entity cannot be bound exactly if its path has another one. -/
theorem register_eq_error_iff :
    registry.register e = .error err ↔
      (∃ bound, registry.find? e.path = some bound ∧ bound ≠ e) ∧
        err = .entityConflict e.path := by
  rw [register]
  cases registry.find? e.path with
  | none => simp
  | some bound =>
    by_cases hbound : bound = e
    · simp [hbound]
    · simpa [hbound] using eq_comm

/-- The path of an entity that can be bound has no other entity. -/
theorem eq_of_register {bound : Entity} (h : registry.register e = .ok registry')
    (hbound : registry.find? e.path = some bound) : bound = e := by
  by_contra hne
  rw [register_eq_error_iff.mpr ⟨⟨bound, hbound, hne⟩, rfl⟩] at h
  cases h

/-- Binding an entity leaves the other paths as they are. -/
theorem find?_of_register (h : registry.register e = .ok registry') (path : String) :
    registry'.find? path = if path = e.path then some e else registry.find? path := by
  cases hbound : registry.find? e.path with
  | none =>
    rw [register, hbound] at h
    cases h
    rw [find?_append]
    by_cases hpath : path = e.path
    · rw [if_pos hpath, if_pos hpath.symm, hpath, hbound, Option.none_or]
    · rw [if_neg hpath, if_neg (Ne.symm hpath), Option.or_none]
  | some bound =>
    -- the entity is bound already, and the registry stays as it is
    have hsame := eq_of_register h hbound
    rw [register, hbound, hsame] at h
    dsimp only at h
    rw [if_pos rfl] at h
    cases h
    split
    next hpath => rw [hpath, hbound, hsame]
    next => rfl

/-- Binding an entity extends the registry and binds its path to it. -/
theorem extends_of_register (h : registry.register e = .ok registry') :
    registry.Extends registry' ∧ registry'.find? e.path = some e := by
  have hfind := find?_of_register h
  constructor
  · intro path e' he'
    rw [hfind]
    split
    next hpath =>
      rw [hpath] at he'
      rw [eq_of_register h he']
    next => exact he'
  · rw [hfind, if_pos rfl]

theorem entity_eq_ok_iff : registry.entity path = .ok e ↔ registry.find? path = some e := by
  rw [entity]
  cases registry.find? path <;> simp

/-- A lookup finds the first field of the name in the entity of the path. -/
theorem field_eq_ok_iff :
    registry.field path name = .ok f ↔
      ∃ e, registry.find? path = some e ∧ e.field? name = some f := by
  rw [field, bind_eq_ok_iff]
  simp only [entity_eq_ok_iff]
  refine exists_congr fun e => and_congr_right fun _ => ?_
  cases e.field? name <;> simp

/-- A field that is found is found in every extension. -/
theorem Extends.field (h : registry.Extends registry') (hf : registry.field path name = .ok f) :
    registry'.field path name = .ok f := by
  obtain ⟨e, he, hfield⟩ := field_eq_ok_iff.mp hf
  exact field_eq_ok_iff.mpr ⟨e, h path e he, hfield⟩

end Registry

namespace MemberRef

variable {registry registry' : Registry} {m : MemberRef} {f : Field}

/-- A reference that has a field has the same one in every extension of the registry. -/
theorem field_of_extends (h : registry.Extends registry') (hf : m.field registry = .ok f) :
    m.field registry' = .ok f := by
  obtain ⟨owner, name, field?⟩ := m
  cases field? with
  | some g => exact hf
  | none => exact h.field hf

/-- Once it is resolved, a reference has its field whatever the registry. -/
theorem field_resolved (hf : m.field registry = .ok f) (registry' : Registry) :
    (m.resolved registry).field registry' = .ok f := by
  rw [resolved, hf]
  rfl

end MemberRef

/-! ### Compilations -/

namespace Compilation

variable {α β : Type} {config : Config}

/-- From every trace on, a computation extends the registry. -/
def Grows (x : Compilation α) : Prop :=
  ∀ t : Trace, t.registry.Extends (x.run.run t).2.registry

theorem grows_pure (a : α) : Grows (pure a) := fun _ => .refl _

theorem grows_ofExcept (a : Except Error α) : Grows (ofExcept a) := by
  intro t
  cases a <;> exact .refl _

theorem Grows.bind {x : Compilation α} {f : α → Compilation β} (hx : Grows x)
    (hf : ∀ a t, outcome? x t = some a → Grows (f a)) : Grows (x >>= f) := by
  intro t
  have hfirst := hx t
  rw [run_bind]
  rcases hrun : x.run.run t with ⟨err | a, t'⟩ <;> rw [hrun] at hfirst
  · exact hfirst
  · exact hfirst.trans (hf a t (by rw [outcome?, hrun]; rfl) t')

/-- What succeeds leaves an extension of the registry. -/
theorem Grows.extends {x : Compilation α} {t t' : Trace} {a : α} (hx : Grows x)
    (h : x.run.run t = (.ok a, t')) : t.registry.Extends t'.registry := by
  have hgrows := hx t
  rw [h] at hgrows
  exact hgrows

theorem grows_mapM {f : α → Compilation β} (hf : ∀ a, Grows (f a)) (as : List α) :
    Grows (as.mapM f) := by
  induction as with
  | nil => exact grows_pure []
  | cons a as ih =>
    rw [List.mapM_cons]
    exact (hf a).bind fun _ _ _ => ih.bind fun _ _ _ => grows_pure _

theorem Local.grows {P : Error → Prop} {x : Compilation α} (hx : Local P x) : Grows x := by
  intro t
  rw [hx.registry]
  exact .refl _

theorem grows_compared (c : Comparator) (made : Except Error Comparison) :
    Grows (compared c made) := by
  rw [compared]
  split
  next event hchange =>
    have hreport : Grows (report event) :=
      (local_report (P := fun _ => True) event (Comparison.isRewriting_of_change? hchange)).grows
    exact hreport.bind fun _ _ _ => grows_ofExcept made
  next => exact grows_ofExcept made

theorem grows_register (entity : Entity) : Grows (register entity) := by
  intro t
  rw [run_register]
  cases hregister : t.registry.register entity with
  | ok registry => exact (Registry.extends_of_register hregister).1
  | error err => exact .refl _

theorem sequential_grows (shown : String) :
    Sequential shown (fun _ => True) fun _ x _ => Grows x where
  own hx := hx.grows
  register entity _ := grows_register entity
  bind := Grows.bind

/-- A compilation extends the registry, as a condition and as a value. -/
theorem grows_lower : ∀ {n : Nat} {entity : Entity} {e : Expr},
    Grows (lowerPredicate config n entity e) ∧ Grows (lowerOperand config n entity e) := by
  intro n
  induction n with
  | zero => exact ⟨fun t => .refl _, fun t => .refl _⟩
  | succ n ih =>
    intro entity e
    constructor
    · exact (sequential_grows _).lowerPredicate (d := 0) (m := 0) (fun _ _ => trivial)
        (fun c _ entity => ih.1) (fun c _ => ih.2) fun _ => ih.2
    · exact (sequential_grows _).lowerOperand (d := 0) (m := 0) (fun c _ => ih.2) fun _ => ih.1

end Compilation

end RowFilter
