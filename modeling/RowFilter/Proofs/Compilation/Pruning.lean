import RowFilter.Proofs.Compilation.Conditions
import RowFilter.Proofs.Compilation.Steadiness
import RowFilter.Proofs.Registry.Subqueries

/-!
# Absent conditions vanish

A search for null is no condition, and the connectives carry on without it. What a compilation then
returns is what it returns for the expression in which such searches have been cut out together with
the connectives that joined them (`compile_prune`): nothing, if nothing is left of the expression,
and the same predicate otherwise.

What is left stands at a smaller depth than before, and it binds fewer entities. A compilation that
succeeds does so again with more depth, from any registry that has no more bindings than the first
run left behind (`Attains`).
-/

namespace RowFilter

/-! ### Pruned expressions -/

namespace Expr

/-- What a search looks for, with a target or without. -/
def searchArgument? (e : Expr) : Option Expr := do
  let (_, method, args) ← Compilation.receiver? e
  let _ ← PatternKind.ofMethod? method
  let (arg, _) ← Compilation.soleArgument? args
  return arg

/-- The expression is a search for an argument that compiles to null. -/
def isVacuous (entity : Entity) (config : Config) (t : Trace) (e : Expr) : Bool :=
  match e.searchArgument? with
  | some arg =>
    decide (((compileOperand entity config arg).run t).1.toOption.bind Operand.value? = some .null)
  | none => false

/-- A connective between what is left of its sides. -/
def connect (op : BinaryOp) : Option Expr → Option Expr → Option Expr
  | some l, some r => some (.binary op l r)
  | some l, none => some l
  | none, r => r

/-- What is left of an expression when the vacuous parts of its connectives are cut out. -/
def prune (vacuous : Expr → Bool) : Expr → Option Expr
  | .binary .andAlso left right => connect .andAlso (left.prune vacuous) (right.prune vacuous)
  | .binary .orElse left right => connect .orElse (left.prune vacuous) (right.prune vacuous)
  | .unary .not operand => (operand.prune vacuous).map (.unary .not)
  | e => if vacuous e then none else some e

end Expr

namespace Compilation

variable {α β : Type} {x y : Compilation α} {a : α} {b : β} {registry registry' : Registry}
  {config : Config} {n m d : Nat} {entity : Entity} {e : Expr} {t : Trace}

/-! ### Success repeated -/

/-- From every registry within one that extends the given one, the computation returns a result and
leaves a registry within it. -/
def Attains (registry : Registry) (x : Compilation α) (a : α) : Prop :=
  ∀ (bound : Registry) (t : Trace), registry.Extends bound → t.registry.Extends bound →
    (x.run.run t).1 = .ok a ∧ (x.run.run t).2.registry.Extends bound

theorem attains_pure (a : α) : Attains registry (pure a) a := fun _ _ _ h => ⟨rfl, h⟩

theorem Attains.mono (h : Attains registry x a) (hle : registry.Extends registry') :
    Attains registry' x a :=
  fun bound t hbound => h bound t (hle.trans hbound)

theorem Attains.bind {f : α → Compilation β} (hx : Attains registry x a)
    (hf : Attains registry (f a) b) : Attains registry (x >>= f) b := by
  intro bound t hbound ht
  obtain ⟨hok, hleft⟩ := hx bound t hbound ht
  rw [run_bind]
  rcases hrun : x.run.run t with ⟨err | a', t'⟩ <;> rw [hrun] at hok hleft <;> cases hok
  exact hf bound t' hbound hleft

/-- Binding an entity is possible where it is bound already. -/
theorem attains_register (h : registry.find? entity.path = some entity) :
    Attains registry (register entity) () := by
  intro bound t hbound ht
  have hentity : bound.find? entity.path = some entity := hbound _ _ h
  rw [run_register]
  cases hregister : t.registry.register entity with
  | error err =>
    -- what is in the way would be bound in the larger registry as well
    obtain ⟨⟨other, hother, hne⟩, -⟩ := Registry.register_eq_error_iff.mp hregister
    exact absurd (Option.some.inj ((ht _ _ hother).symm.trans hentity)) hne
  | ok registry' =>
    refine ⟨rfl, fun path e he => ?_⟩
    rw [Registry.find?_of_register hregister] at he
    split at he
    next hpath =>
      cases he
      rw [hpath]
      exact hentity
    next => exact ht _ _ he

/-- The first computation extends the registry, and what it returns the second attains. -/
structure Repeats (α : Type) (x y : Compilation α) : Prop where
  /-- The first computation extends the registry. -/
  grows : Grows x
  /-- The second computation attains what the first returns. -/
  attains : ∀ {t t' a}, x.run.run t = (.ok a, t') → Attains t'.registry y a

theorem Repeats.bind {f g : α → Compilation β} (hxy : Repeats α x y)
    (hfg : ∀ a t, outcome? x t = some a → Repeats β (f a) (g a)) :
    Repeats β (x >>= f) (y >>= g) := by
  refine ⟨hxy.grows.bind fun a t h => (hfg a t h).grows, fun {t t' b} h => ?_⟩
  obtain ⟨a, s, hfirst, h⟩ := exists_of_run_bind h
  have hrest := hfg a t (by rw [outcome?, hfirst]; rfl)
  -- what the first part leaves is within what the whole leaves, as the rest only extends it
  exact ((hxy.attains hfirst).mono (hrest.grows.extends h)).bind (hrest.attains h)

theorem sequential_repeats (shown : String) : Sequential shown (fun _ => True) Repeats where
  own {α x} hx := by
    refine ⟨hx.grows, fun {t _ a} h bound t' _ ht' => ?_⟩
    rw [hx.outcome t' t, hx.registry, h]
    exact ⟨rfl, ht'⟩
  register entity _ := by
    refine ⟨grows_register entity, fun {t t' a} h => attains_register ?_⟩
    have hbound := binds_register entity t a (by rw [outcome?, h]; rfl)
    rw [h] at hbound
    exact hbound
  bind := Repeats.bind

/-- A compilation that succeeds does so again with more depth. -/
theorem repeats_of_le : ∀ {n m : Nat} {entity : Entity} {e : Expr}, n ≤ m →
    Repeats (Option Predicate) (lowerPredicate config n entity e)
        (lowerPredicate { config with maxDepth := d } m entity e) ∧
      Repeats Operand (lowerOperand config n entity e)
        (lowerOperand { config with maxDepth := d } m entity e) := by
  intro n
  -- on the smaller depth; without any nothing succeeds, and a level is the same but for its parts
  induction n with
  | zero =>
    intro m entity e hle
    exact ⟨⟨grows_lower.1, nofun⟩, ⟨grows_lower.2, nofun⟩⟩
  | succ n ih =>
    intro m entity e hle
    obtain ⟨k, rfl⟩ := Nat.exists_eq_add_of_le' hle
    have hk : n ≤ k + n := Nat.le_add_left n k
    constructor
    · exact (sequential_repeats _).lowerPredicate (fun _ _ => trivial)
        (fun c _ entity => (ih hk).1) (fun c _ => (ih hk).2) fun _ => (ih hk).2
    · exact (sequential_repeats _).lowerOperand (fun c _ => (ih hk).2) fun _ => (ih hk).1

/-- What attains a result still does so with more depth. -/
theorem Attains.of_le (hle : n ≤ m) {q : Option Predicate}
    (h : Attains registry (lowerPredicate config n entity e) q) :
    Attains registry (lowerPredicate config m entity e) q := by
  intro bound t hbound ht
  obtain ⟨hok, hleft⟩ := h bound t hbound ht
  rcases hrun : (lowerPredicate config n entity e).run.run t with ⟨outcome, t'⟩
  rw [hrun] at hok hleft
  cases hok
  exact (repeats_of_le (d := config.maxDepth) hle).1.attains hrun bound t hleft ht

/-! ### Conditions that are absent -/

/-- What compiles to an operand at some depth does so where the entity can be bound. -/
theorem compileOperand_of_lowerOperand {arg : Expr} {o : Operand} {t t' : Trace}
    (h : outcome? (lowerOperand config n entity arg) t' = some o) (hle : n ≤ config.maxDepth)
    (hentity : t.registry.register entity = .ok registry) :
    ((compileOperand entity config arg).run t).1.toOption = some o := by
  rw [compileOperand, toOption_run_overEntity, hentity, toOption_ok, Option.bind_some]
  have hok := toOption_eq_some_iff.mp ((steadyAt _ _).operand h { t with registry })
  rcases hrun : (lowerOperand config n entity arg).run.run { t with registry } with ⟨outcome, s⟩
  rw [hrun] at hok
  cases hok
  obtain ⟨hdeeper, -⟩ := (repeats_of_le (d := config.maxDepth) hle).2.attains hrun s.registry
    { t with registry } (.refl _) (grows_lower.2.extends hrun)
  rw [outcome?, hdeeper]
  rfl

/-- A search compiles to no condition exactly if it is vacuous. -/
theorem isNone_eq_isVacuous_of_search {t t' : Trace} {receiver arg : Expr} {method : String}
    {args : List Expr} {ignoreCase : Bool} {kind : PatternKind} {q : Option Predicate}
    (hcall : receiver? e = some (receiver, method, args))
    (hargs : soleArgument? args = some (arg, ignoreCase))
    (hkind : PatternKind.ofMethod? method = some kind) (hle : n ≤ config.maxDepth)
    (hentity : t.registry.register entity = .ok registry)
    (h : outcome? (lowerPredicate config (n + 1) entity e) t' = some q) :
    q.isNone = e.isVacuous entity config t := by
  rw [lowerPredicate_of_search _ _ _ hcall hargs hkind] at h
  obtain ⟨a, t₁, ha, h⟩ := exists_of_outcome?_bind h
  have harg : e.searchArgument? = some arg := by
    simp [Expr.searchArgument?, hcall, hargs, hkind]
  have hvacuous : e.isVacuous entity config t = decide (a.value? = some .null) := by
    simp only [Expr.isVacuous, harg, compileOperand_of_lowerOperand ha hle hentity,
      Option.bind_some]
  rw [hvacuous]
  split at h
  next hnull =>
    cases h
    exact (decide_eq_true hnull).symm
  next hnull =>
    obtain ⟨r, t₂, -, h⟩ := exists_of_outcome?_bind h
    rw [decide_eq_false hnull]
    cases searched_of_outcome? h <;> rfl

/-- A comparison of operands is never absent. -/
theorem isNone_of_compareOperands {shown : String} {comparator : Comparator} {ignoreCase : Bool}
    {l r : Operand} {t : Trace} {q : Option Predicate}
    (h : outcome? (compareOperands config shown comparator ignoreCase l r) t = some q) :
    q.isNone = false := by
  rcases compareOperands_cases h with ⟨_, _, -, -, rfl⟩ | ⟨_, _, _, -, -, -, rfl⟩ |
    ⟨_, _, _, -, -, -, rfl⟩ <;> rfl

/-- What is left of an expression, and the predicate that it attains. -/
inductive Pruned (config : Config) (n : Nat) (entity : Entity) (registry : Registry) :
    Option Expr → Option Predicate → Prop
  /-- Nothing is left of an absent condition. -/
  | absent : Pruned config n entity registry none none
  /-- What is left attains the predicate. -/
  | present {e : Expr} {p : Predicate}
      (h : Attains registry (lowerPredicate config n entity e) (some p)) :
      Pruned config n entity registry (some e) (some p)

theorem Pruned.mono {left : Option Expr} {q : Option Predicate}
    (h : Pruned config n entity registry left q) (hle : registry.Extends registry') :
    Pruned config n entity registry' left q := by
  cases h with
  | absent => exact .absent
  | present h => exact .present (h.mono hle)

/-- A connective joins what is left of its sides. -/
theorem Pruned.connect {op : BinaryOp} {connective : Connective} {left right : Option Expr}
    {p q : Option Predicate}
    (hop : op = .andAlso ∧ connective = .and ∨ op = .orElse ∧ connective = .or)
    (hl : Pruned config n entity registry left p) (hr : Pruned config n entity registry right q) :
    Pruned config (n + 1) entity registry (Expr.connect op left right)
      (combine connective p q) := by
  -- a side that is left alone takes the place of the connective, one level of depth above its own
  cases hl with
  | absent =>
    cases hr with
    | absent => exact .absent
    | present hr => exact .present (hr.of_le (Nat.le_succ n))
  | present hl =>
    cases hr with
    | absent => exact .present (hl.of_le (Nat.le_succ n))
    | present hr =>
      refine .present ?_
      rw [lowerPredicate_connected _ _ _ hop]
      exact hl.bind (hr.bind (attains_pure _))

/-- A negation negates what is left. -/
theorem Pruned.not {left : Option Expr} {q : Option Predicate}
    (h : Pruned config n entity registry left q) :
    Pruned config (n + 1) entity registry (left.map (.unary .not)) (q.map Predicate.negate) := by
  cases h with
  | absent => exact .absent
  | present h =>
    refine .present ?_
    rw [lowerPredicate_not]
    exact h.bind (attains_pure _)

theorem prune_of_receiver? {call : Expr × String × List Expr} (h : receiver? e = some call)
    (vacuous : Expr → Bool) : e.prune vacuous = if vacuous e then none else some e := by
  cases e <;> first | rfl | cases h

/-- What is no connective is left as it is, or vanishes as a whole. -/
theorem pruned_of_prune_eq {t t' : Trace} {vacuous : Expr → Bool} {q : Option Predicate}
    (h : (lowerPredicate config n entity e).run.run t = (.ok q, t'))
    (hprune : e.prune vacuous = if vacuous e then none else some e)
    (hq : q.isNone = vacuous e) :
    Pruned config n entity t'.registry (e.prune vacuous) q := by
  rw [hprune, ← hq]
  cases q with
  | none => exact .absent
  | some p =>
    exact .present ((repeats_of_le (d := config.maxDepth) (Nat.le_refl n)).1.attains h)

/-- What a compilation returns, what is left of the expression attains. -/
theorem pruned_of_lowerPredicate {t₀ : Trace}
    (hentity : t₀.registry.register entity = .ok registry) :
    ∀ {n : Nat} {e : Expr} {t t' : Trace} {q : Option Predicate}, n ≤ config.maxDepth →
      (lowerPredicate config n entity e).run.run t = (.ok q, t') →
        Pruned config n entity t'.registry (e.prune (Expr.isVacuous entity config t₀)) q := by
  intro n
  induction n with
  | zero =>
    intro e t t' q _ h
    cases h
  | succ n ih =>
    intro e t t' q hle h
    have hn : n ≤ config.maxDepth := Nat.le_of_succ_le hle
    have hreturns : outcome? (lowerPredicate config (n + 1) entity e) t = some q := by
      rw [outcome?, h]
      rfl
    -- a search may be absent, a connective is treated by its sides, and nothing else is absent
    cases loweredPredicate_of_outcome? hreturns with
    | @connected _ _ left right _ _ _ _ hop _ _ =>
      rw [lowerPredicate_connected _ _ _ hop] at h
      obtain ⟨p, s, hp, h⟩ := exists_of_run_bind h
      obtain ⟨r, s', hr, h⟩ := exists_of_run_bind h
      have hgrows : Grows (lowerPredicate config n entity right) := grows_lower.1
      have hextends := hgrows.extends hr
      have hleft := (ih hn hp).mono hextends
      have hright := ih hn hr
      obtain ⟨hq, rfl⟩ := eq_of_run_pure h
      rw [← hq]
      rcases hop with ⟨rfl, rfl⟩ | ⟨rfl, rfl⟩
      · exact hleft.connect (.inl ⟨rfl, rfl⟩) hright
      · exact hleft.connect (.inr ⟨rfl, rfl⟩) hright
    | not _ =>
      rw [lowerPredicate_not] at h
      obtain ⟨p, s, hp, h⟩ := exists_of_run_bind h
      obtain ⟨hq, rfl⟩ := eq_of_run_pure h
      rw [← hq]
      exact (ih hn hp).not
    | nullSearch hcall hargs hkind _ =>
      exact pruned_of_prune_eq h (prune_of_receiver? hcall _)
        (isNone_eq_isVacuous_of_search hcall hargs hkind hn hentity hreturns)
    | search hcall hargs hkind _ _ _ =>
      exact pruned_of_prune_eq h (prune_of_receiver? hcall _)
        (isNone_eq_isVacuous_of_search hcall hargs hkind hn hentity hreturns)
    | truth b => exact pruned_of_prune_eq h rfl rfl
    | hasValue _ hq =>
      refine pruned_of_prune_eq h rfl ?_
      rcases hasValue_cases hq with ⟨b, rfl⟩ | ⟨u, comparison, -, -, rfl⟩ <;> rfl
    | member _ hq =>
      refine pruned_of_prune_eq h rfl ?_
      rcases asCondition_cases hq with ⟨b, -, rfl⟩ | ⟨u, -, -, rfl⟩ <;> rfl
    | @comparison op _ _ _ _ _ _ _ _ _ hop _ _ hq =>
      refine pruned_of_prune_eq h ?_ (isNone_of_compareOperands hq)
      cases op <;> cases hop <;> rfl
    | equals hcall _ _ _ hq =>
      -- an equality is no search
      have hvacuous : e.isVacuous entity config t₀ = false := by
        simp [Expr.isVacuous, Expr.searchArgument?, hcall, PatternKind.ofMethod?]
      exact pruned_of_prune_eq h (prune_of_receiver? hcall _)
        ((isNone_of_compareOperands hq).trans hvacuous.symm)
    | keySubquery _ _ => exact pruned_of_prune_eq h rfl rfl
    | filterSubquery _ _ _ _ _ => exact pruned_of_prune_eq h rfl rfl

/-- A compilation over an entity that succeeds has bound the entity, and its body succeeds. -/
theorem exists_of_overEntity {t : Trace} (h : ((overEntity entity x).run t).1 = .ok a) :
    ∃ s t', t.registry.register entity = .ok s.registry ∧ x.run.run s = (.ok a, t') ∧
      ((overEntity entity x).run t).2.registry = t'.registry := by
  rw [run_overEntity] at h ⊢
  rw [run_bind, run_register] at h ⊢
  cases hregister : t.registry.register entity with
  | error err =>
    rw [hregister] at h
    cases h
  | ok registry =>
    rw [hregister] at h
    exact ⟨{ t with registry }, (x.run.run { t with registry }).2, rfl, Prod.ext h rfl, rfl⟩

/-- What a body attains, a compilation over a bound entity attains. -/
theorem Attains.overEntity (hx : Attains registry x a)
    (hentity : registry.find? entity.path = some entity) {t : Trace}
    (ht : t.registry.Extends registry) : ((overEntity entity x).run t).1 = .ok a := by
  rw [run_overEntity]
  exact (((attains_register hentity).bind hx) registry t (.refl _) ht).1

end Compilation

/-- A compilation that succeeds returns no condition exactly if nothing is left of the expression
once its vacuous searches are cut out. What is left compiles to the same result, from what was
registered before and from what is registered now. -/
theorem compile_prune {entity : Entity} {config : Config} {e : Expr} {t : Trace}
    {q : Option Predicate} (h : ((compilePredicate entity config e).run t).1 = .ok q) :
    let left := e.prune (Expr.isVacuous entity config t)
    let after := ((compilePredicate entity config e).run t).2.registry
    (q = none ↔ left = none) ∧ t.registry.Extends after ∧
      ∀ e', left = some e' → ∀ t', t'.registry.Extends after →
        ((compilePredicate entity config e').run t').1 = .ok q := by
  intro left after
  obtain ⟨s, t₁, hentity, hbody, hafter⟩ := Compilation.exists_of_overEntity h
  have hbound := Registry.extends_of_register hentity
  have hgrows : Compilation.Grows (Compilation.lowerPredicate config config.maxDepth entity e) :=
    Compilation.grows_lower.1
  have hextends := hgrows.extends hbody
  have hpruned := Compilation.pruned_of_lowerPredicate hentity (Nat.le_refl _) hbody
  change after = _ at hafter
  change Compilation.Pruned _ _ _ _ left q at hpruned
  clear_value left
  rw [hafter]
  refine ⟨?_, hbound.1.trans hextends, fun e' he' t' ht' => ?_⟩
  · cases hpruned with
    | absent => exact iff_of_true rfl rfl
    | present _ => exact iff_of_false nofun nofun
  · rw [he'] at hpruned
    cases hpruned with
    | present hattains => exact hattains.overEntity (hextends _ _ hbound.2) ht'

/-- A disjunction and a negation of searches for null, next to a condition that stays. -/
theorem compile_prune_conjunction :
    let person : Entity := ⟨"Person", "person", [⟨"name", .text, false⟩, ⟨"paid", .bool, false⟩]⟩
    let absent : Expr := .callWith "contains" (.field "name") (.constant .null)
    let e : Expr := .binary .andAlso (.binary .orElse absent (.unary .not absent))
      (.unary .not (.field "paid"))
    e.prune (Expr.isVacuous person .default ⟨.empty, []⟩) =
        some (.unary .not (.field "paid")) ∧
      ∃ p, ((compilePredicate person .default e).run ⟨.empty, []⟩).1 = .ok (some p) ∧
        ((compilePredicate person .default (.unary .not (.field "paid"))).run ⟨.empty, []⟩).1 =
          .ok (some p) := by
  intro person absent e
  have h : ((compilePredicate person .default e).run ⟨.empty, []⟩).1 = .ok (some _) := rfl
  have hleft : e.prune (Expr.isVacuous person .default ⟨.empty, []⟩) =
      some (.unary .not (.field "paid")) := rfl
  obtain ⟨-, hextends, hsame⟩ := compile_prune h
  exact ⟨hleft, _, h, hsame _ hleft _ hextends⟩

end RowFilter
