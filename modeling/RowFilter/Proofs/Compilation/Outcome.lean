import Mathlib.Data.List.Forall2
import RowFilter.Compilation.Basic
import RowFilter.Proofs.Result

/-!
# Outcomes of compilations

`Compilation.outcome? x t` is what the computation `x` returns from the trace `t`, if it returns
anything. The lemmas of this module open the primitives of the compilation in two ways: a statement
`outcome? x t = some a` is taken apart into statements about the parts of `x`, and the outcome of a
sequence is computed where the outcomes of its parts do not depend on the trace.

Errors are forgotten: the statements that rest on these lemmas ask whether something compiles and
to what, never with which error it fails.
-/

namespace RowFilter

namespace Compilation

variable {α β : Type}

/-- What a computation returns from a trace, if it returns. -/
def outcome? (x : Compilation α) (t : Trace) : Option α := (x.run.run t).1.toOption

section

variable {x : Compilation α} {f : α → Compilation β} {t : Trace} {a : α} {b : β}

@[simp]
theorem outcome?_pure : outcome? (pure a) t = some a := rfl

@[simp]
theorem outcome?_throw (e : Error) : outcome? (throw e : Compilation α) t = none := rfl

@[simp]
theorem outcome?_ofExcept (r : Except Error α) : outcome? (ofExcept r) t = r.toOption := by
  cases r <;> rfl

/-- A sequence goes on from the trace that its first part leaves, unless that part fails. -/
theorem run_bind (x : Compilation α) (f : α → Compilation β) (t : Trace) :
    (x >>= f).run.run t =
      match x.run.run t with
      | (.ok a, t') => (f a).run.run t'
      | (.error e, t') => (.error e, t') := by
  rw [ExceptT.run_bind, StateT.run_bind]
  rcases hx : x.run.run t with ⟨_ | a, t'⟩ <;> rfl

/-- A sequence that succeeds has parts that succeed, one after the other. -/
theorem exists_of_run_bind {t t' : Trace} (h : (x >>= f).run.run t = (.ok b, t')) :
    ∃ a s, x.run.run t = (.ok a, s) ∧ (f a).run.run s = (.ok b, t') := by
  rw [run_bind] at h
  rcases hrun : x.run.run t with ⟨err | a, s⟩ <;> rw [hrun] at h
  · cases h
  · exact ⟨a, s, rfl, h⟩

theorem eq_of_run_pure {a b : α} {t t' : Trace}
    (h : (pure a : Compilation α).run.run t = (.ok b, t')) : a = b ∧ t = t' := by
  cases h
  exact ⟨rfl, rfl⟩

@[simp]
theorem outcome?_map (g : α → β) : outcome? (g <$> x) t = (outcome? x t).map g := by
  rw [map_eq_pure_bind, outcome?, outcome?, run_bind]
  rcases x.run.run t with ⟨_ | a, t'⟩ <;> rfl

/-- A sequence that returns has a first part that returns, and a rest that returns from some trace
on. -/
theorem exists_of_outcome?_bind (h : outcome? (x >>= f) t = some b) :
    ∃ a t', outcome? x t = some a ∧ outcome? (f a) t' = some b := by
  rw [outcome?, run_bind] at h
  rcases hx : x.run.run t with ⟨_ | a, t'⟩
  · rw [hx] at h
    cases h
  · rw [hx] at h
    exact ⟨a, t', by rw [outcome?, hx]; rfl, h⟩

/-- The outcome of a sequence whose rest does not depend on the trace. The first part need only be
known up to a rendering `h` of what it returns. -/
theorem outcome?_bind {γ : Type} {h : γ → α} {r : Option γ} {g : γ → Option β}
    (hx : outcome? x t = r.map h) (hf : ∀ c t, outcome? (f (h c)) t = g c) :
    outcome? (x >>= f) t = r.bind g := by
  rw [outcome?] at hx
  rw [outcome?, run_bind]
  rcases hrun : x.run.run t with ⟨_ | a, t'⟩ <;> rw [hrun] at hx
  · rw [Option.map_eq_none_iff.mp hx.symm]
    rfl
  · -- the first part leaves some trace `t'`, which the rest does not depend on
    obtain ⟨c, hc, rfl⟩ := Option.map_eq_some_iff.mp hx.symm
    rw [hc]
    exact hf c t'

/-- Reading the trace does not change it. -/
@[simp]
theorem outcome?_get_bind (f : Trace → Compilation α) :
    outcome? (get >>= f) t = outcome? (f t) t := rfl

/-- A result that does not touch the trace leaves it as it is. -/
@[simp]
theorem outcome?_ofExcept_bind (r : Except Error α) :
    outcome? (ofExcept r >>= f) t = r.toOption.bind fun a => outcome? (f a) t := by
  cases r <;> rfl

@[simp]
theorem outcome?_compared (requested : Comparator) (made : Except Error Comparison) :
    outcome? (compared requested made) t = made.toOption := by
  rw [compared]
  cases Comparison.change? requested made <;> cases made <;> rfl

end

/-- A list of computations that returns has returned from each of them, in order. -/
theorem forall₂_of_outcome?_mapM {f : α → Compilation β} :
    ∀ {as : List α} {bs : List β} {t : Trace}, outcome? (as.mapM f) t = some bs →
      List.Forall₂ (fun a b => ∃ t, outcome? (f a) t = some b) as bs
  | [], bs, t, h => by
    rw [List.mapM_nil, outcome?_pure] at h
    cases h
    exact .nil
  | a :: as, bs, t, h => by
    rw [List.mapM_cons] at h
    obtain ⟨b, t₁, hb, h⟩ := exists_of_outcome?_bind h
    obtain ⟨bs, t₂, hbs, h⟩ := exists_of_outcome?_bind h
    cases h
    exact .cons ⟨t, hb⟩ (forall₂_of_outcome?_mapM hbs)

/-- Each result of a list of computations is the outcome of one of them. -/
theorem exists_mem_of_mem_outcome?_mapM {f : α → Compilation β} {as : List α} {bs : List β}
    {t : Trace} {b : β} (h : outcome? (as.mapM f) t = some bs) (hb : b ∈ bs) :
    ∃ a ∈ as, ∃ t, outcome? (f a) t = some b := by
  have hpairs := forall₂_of_outcome?_mapM h
  clear h
  induction hpairs with
  | nil => cases hb
  | @cons a c as bs hac _ ih =>
    rcases List.mem_cons.mp hb with rfl | hb
    · exact ⟨a, List.mem_cons_self, hac⟩
    · obtain ⟨a', ha', hout⟩ := ih hb
      exact ⟨a', List.mem_cons_of_mem a ha', hout⟩

theorem exists_of_mem_outcome?_mapM {f : α → Compilation β} {as : List α} {bs : List β} {t : Trace}
    {b : β} (h : outcome? (as.mapM f) t = some bs) (hb : b ∈ bs) :
    ∃ a t, outcome? (f a) t = some b := by
  obtain ⟨a, -, hout⟩ := exists_mem_of_mem_outcome?_mapM h hb
  exact ⟨a, hout⟩

/-- The outcome of a list of computations of which none depends on the trace. -/
theorem outcome?_mapM {γ δ : Type} {f : α → Compilation β} {r : γ → Option δ} {h : δ → β}
    {as : List α} {cs : List γ}
    (hac : List.Forall₂ (fun a c => ∀ t, outcome? (f a) t = (r c).map h) as cs) (t : Trace) :
    outcome? (as.mapM f) t = (cs.mapM r).map (List.map h) := by
  induction hac generalizing t with
  | nil => rfl
  | @cons a c as cs ha _ ih =>
    rw [List.mapM_cons, List.mapM_cons]
    -- the rest of the list is known from any trace, also from the one that the first part leaves
    have hrest : ∀ d t, outcome? (as.mapM f >>= fun bs => pure (h d :: bs)) t =
        (cs.mapM r).bind fun ds => some (h d :: ds.map h) := fun d t =>
      outcome?_bind (ih t) fun ds t => rfl
    rw [outcome?_bind (ha t) hrest]
    cases r c <;> cases cs.mapM r <;> rfl

/-! ### Binding an entity -/

/-- Binding an entity changes the registry if the entity is accepted, and nothing if it is not. -/
theorem run_register (entity : Entity) (t : Trace) :
    (register entity).run.run t =
      match t.registry.register entity with
      | .ok registry => (.ok (), { t with registry })
      | .error err => (.error err, t) := by
  have hrun : (register entity).run.run t =
      (match t.registry.register entity with
        | .ok registry => modify fun t => { t with registry }
        | .error err => throw err : Compilation Unit).run.run t := rfl
  rw [hrun]
  cases t.registry.register entity <;> rfl

/-- A sequence that binds an entity first goes on under the registry that knows it. -/
theorem outcome?_register_bind (entity : Entity) (f : Unit → Compilation β) (t : Trace) :
    outcome? (register entity >>= f) t =
      (t.registry.register entity).toOption.bind fun registry =>
        outcome? (f ()) { t with registry } := by
  rw [register, bind_assoc, outcome?_get_bind]
  cases t.registry.register entity <;> rfl

/-- A compilation over an entity returns what its body returns once the entity is bound. -/
theorem toOption_run_overEntity (entity : Entity) (body : Compilation α) (t : Trace) :
    ((overEntity entity body).run t).1.toOption =
      (t.registry.register entity).toOption.bind fun registry =>
        outcome? body { t with registry } :=
  outcome?_register_bind entity (fun _ => body) t

end Compilation

end RowFilter
