import RowFilter.Proofs.Compilation.Comparators
import RowFilter.Proofs.Compilation.Outcome
import RowFilter.Proofs.WellFormed.Terms
import RowFilter.Compilation.Lowering

/-!
# Operators are local

What an operator of the compilation makes of compiled operands is decided by the operands alone. It
does not depend on the trace, since compiled terms carry the fields of their members; it binds no
entity; what it reports are rewritings; and its errors are about the expression at hand, by one of
the causes that `Error.ArisesIn` lists. `Compilation.Local` is all four, and is kept in sequences.

Binding an entity and the descent into a part are the only steps of a compilation that are not
local.
-/

namespace RowFilter

/-- The errors of compiling an expression at its own level, given its canonical text. -/
def Error.ArisesIn (shown : String) : Error → Prop
  | .unsupportedShape s => s = shown
  | .nonFiniteConstant _ | .signJoinsNothing _ | .signAppliesToNothing _ | .operandNotText _ _ _
  | .argumentNotInteger _ _ _ | .tooManyArguments _ _ | .constantOutOfRange _
  | .indexOutOfRange _ _ _ => True
  | .unknownMember origin _ _ => origin = .compile
  | _ => False

/-- The events of rewriting an expression on its way into a tree. -/
def Event.IsRewriting : Event → Prop
  | .constantFold | .comparatorReversal | .canonicalized _ _ => True
  | .compile _ _ | .evaluate _ => False

/-- Making a comparison reports a rewriting, if anything. -/
theorem Comparison.isRewriting_of_change? {requested : Comparator}
    {made : Except Error Comparison} {event : Event} (h : change? requested made = some event) :
    event.IsRewriting := by
  obtain ⟨c, -, -, rfl⟩ := change?_eq_some_iff.mp h
  trivial

/-! ### Constructors -/

section

variable {entity : Entity} {registry : Registry} {shown : String} {err : Error}

/-- The kind of a well-formed term is the same in every registry. -/
theorem Term.WellFormed.kind_congr {u : Term} (h : u.WellFormed entity)
    (registry registry' : Registry) : u.kind registry = u.kind registry' := by
  obtain ⟨kind, hkind⟩ := h.kinds u u.mem_nodes_self
  rw [hkind registry, hkind registry']

/-- The kind of a well-formed term is found. -/
theorem Term.WellFormed.kind_ne_error {u : Term} (h : u.WellFormed entity) :
    u.kind registry ≠ .error err := by
  obtain ⟨kind, hkind⟩ := h.kinds u u.mem_nodes_self
  rw [hkind registry]
  nofun

/-- A member that an entity does not declare is found missing at compilation. -/
theorem Term.arisesIn_of_ofEntity {name : String} (h : ofEntity entity name = .error err) :
    err.ArisesIn shown := by
  rw [ofEntity, MemberRef.ofEntity] at h
  cases hfield : entity.field? name <;> rw [hfield] at h <;> cases h
  rfl

/-- A join fails by its sign. -/
theorem Term.arisesIn_of_join {l r : Operand} {sign : Sign} (h : join l sign r = .error err) :
    err.ArisesIn shown := by
  rw [join] at h
  split at h <;> cases h
  trivial

/-- The check of well-formed arguments is the same in every registry. -/
theorem Term.checkArguments_congr {sign : Sign} {args : List Term}
    (hargs : ∀ arg ∈ args, arg.WellFormed entity) (registry registry' : Registry) :
    checkArguments registry sign args = checkArguments registry' sign args := by
  induction args with
  | nil => rfl
  | cons arg args ih =>
    obtain ⟨harg, hargs⟩ := List.forall_mem_cons.mp hargs
    rw [checkArguments, checkArguments, harg.kind_congr registry registry', ih hargs]

/-- Well-formed arguments fail the check by a kind that is not of integers. -/
theorem Term.arisesIn_of_checkArguments {sign : Sign} {args : List Term}
    (hargs : ∀ arg ∈ args, arg.WellFormed entity)
    (h : checkArguments registry sign args = .error err) : err.ArisesIn shown := by
  induction args with
  | nil => cases h
  | cons arg args ih =>
    obtain ⟨harg, hargs⟩ := List.forall_mem_cons.mp hargs
    rw [checkArguments] at h
    rcases bind_eq_error_iff.mp h with h | ⟨kind, -, h⟩
    · exact absurd h harg.kind_ne_error
    · split at h
      next => exact ih hargs h
      next =>
        cases h
        trivial

/-- Applying a sign to well-formed terms is the same in every registry. -/
theorem Term.apply_congr {sign : Sign} {u : Term} {args : List Term} (hu : u.WellFormed entity)
    (hargs : ∀ arg ∈ args, arg.WellFormed entity) (registry registry' : Registry) :
    apply registry sign u args = apply registry' sign u args := by
  rw [apply, apply, hu.kind_congr registry registry',
    checkArguments_congr hargs registry registry']

/-- A sign fails to apply to well-formed terms by its name, by a kind or by their number. -/
theorem Term.arisesIn_of_apply {sign : Sign} {u : Term} {args : List Term}
    (hu : u.WellFormed entity) (hargs : ∀ arg ∈ args, arg.WellFormed entity)
    (h : apply registry sign u args = .error err) : err.ArisesIn shown := by
  simp only [apply] at h
  split at h
  next =>
    cases h
    trivial
  next =>
    rcases bind_eq_error_iff.mp h with h | ⟨kind, -, h⟩
    · exact absurd h hu.kind_ne_error
    · split at h
      next =>
        cases h
        trivial
      next =>
        split at h
        next =>
          cases h
          trivial
        next =>
          rcases bind_eq_error_iff.mp h with h | ⟨_, -, h⟩
          · exact arisesIn_of_checkArguments hargs h
          · cases h

/-- A comparator that takes a right side can be given any value. -/
theorem Comparison.exists_withValue (left : Term) {c : Comparator} (hc : c.acceptsValue = true)
    (v : Value) (wildcard : Char) : ∃ made, withValue left c v wildcard = .ok made := by
  have hassign : ∃ pair, assign c v wildcard = .ok pair := by
    simp only [assign, hc, Bool.not_true, Bool.false_eq_true, if_false]
    repeat' split
    all_goals exact ⟨_, rfl⟩
  obtain ⟨pair, hpair⟩ := hassign
  exact ⟨_, by rw [withValue, hpair]; rfl⟩

/-- A comparator that takes a right side can be given any operand. -/
theorem Comparison.exists_withOperand (left : Term) {c : Comparator} (hc : c.acceptsValue = true)
    (o : Operand) (wildcard : Char) : ∃ made, withOperand left c o wildcard = .ok made := by
  cases o with
  | value v => exact exists_withValue left hc v wildcard
  | term u =>
    cases hu : u.isLiteral with
    | false => exact ⟨_, withOperand_of_not_isLiteral left hc hu wildcard⟩
    | true =>
      cases u <;> cases hu
      exact exists_withValue left hc _ wildcard

/-- A test for null can always be made. -/
theorem Comparison.exists_unary (left : Term) (c : Comparator) :
    ∃ made, unary left c = .ok made :=
  ⟨_, rfl⟩

end

/-! ### Local computations -/

namespace Compilation

variable {α β : Type} {P : Error → Prop}

/-- Every error of a computation, from whatever trace, has a property. -/
def FailsAs (P : Error → Prop) (x : Compilation α) : Prop :=
  ∀ t err, (x.run.run t).1 = .error err → P err

/-- A computation adds events to those of the trace, and what it adds are rewritings. -/
def Rewrites (x : Compilation α) : Prop :=
  ∀ t, ∃ events, (x.run.run t).2.events = t.events ++ events ∧ ∀ e ∈ events, e.IsRewriting

/-- The outcome of a computation does not depend on the trace, the computation binds no entity, it
reports rewritings only, and its errors have a property. -/
structure Local (P : Error → Prop) (x : Compilation α) : Prop where
  /-- The outcome is the same from every trace. -/
  outcome : ∀ t t', (x.run.run t).1 = (x.run.run t').1
  /-- The registry stays as it is. -/
  registry : ∀ t, (x.run.run t).2.registry = t.registry
  /-- Every event that is reported is a rewriting. -/
  rewrites : Rewrites x
  /-- Errors have the property. -/
  error : FailsAs P x

/-- What a local computation returns from one trace, it returns from every trace. -/
theorem Local.outcome?_eq {x : Compilation α} (hx : Local P x) (t t' : Trace) :
    outcome? x t = outcome? x t' := by
  rw [outcome?, outcome?, hx.outcome t t']

/-- A local computation stays one under a weaker property of errors. -/
theorem Local.mono {Q : Error → Prop} {x : Compilation α} (hx : Local P x)
    (hPQ : ∀ err, P err → Q err) : Local Q x where
  outcome := hx.outcome
  registry := hx.registry
  rewrites := hx.rewrites
  error t err herr := hPQ err (hx.error t err herr)

/-- A computation that always returns has no errors. -/
theorem FailsAs.of_returns {x : Compilation α} (h : ∀ t, ∃ a, (x.run.run t).1 = .ok a) :
    FailsAs P x := by
  intro t err herr
  obtain ⟨a, ha⟩ := h t
  rw [ha] at herr
  cases herr

/-- A computation that leaves the events as they are reports nothing. -/
theorem Rewrites.of_events_eq {x : Compilation α} (h : ∀ t, (x.run.run t).2.events = t.events) :
    Rewrites x :=
  fun t => ⟨[], by rw [h, List.append_nil], nofun⟩

theorem local_pure (a : α) : Local P (pure a) :=
  ⟨fun _ _ => rfl, fun _ => rfl, .of_events_eq fun _ => rfl, .of_returns fun _ => ⟨a, rfl⟩⟩

theorem local_throw {err : Error} (h : P err) : Local P (throw err : Compilation α) := by
  refine ⟨fun _ _ => rfl, fun _ => rfl, .of_events_eq fun _ => rfl, ?_⟩
  intro t err' herr
  cases herr
  exact h

theorem local_ofExcept {r : Except Error α} (h : ∀ err, r = .error err → P err) :
    Local P (ofExcept r) := by
  cases r with
  | ok a => exact local_pure a
  | error err => exact local_throw (h err rfl)

theorem local_report (event : Event) (h : event.IsRewriting) : Local P (report event) := by
  refine ⟨fun _ _ => rfl, fun _ => rfl, fun t => ⟨[event], rfl, ?_⟩, .of_returns fun _ => ⟨(), rfl⟩⟩
  exact List.forall_mem_singleton.mpr h

/-- A sequence adds what its parts add. -/
theorem Rewrites.bind {x : Compilation α} {f : α → Compilation β} (hx : Rewrites x)
    (hf : ∀ a t, outcome? x t = some a → Rewrites (f a)) : Rewrites (x >>= f) := by
  intro t
  obtain ⟨first, hfirst, hrewriting⟩ := hx t
  rw [run_bind]
  rcases hrun : x.run.run t with ⟨err | a, s⟩ <;> rw [hrun] at hfirst
  · exact ⟨first, hfirst, hrewriting⟩
  · obtain ⟨rest, hrest, hrewriting'⟩ := hf a t (by rw [outcome?, hrun]; rfl) s
    refine ⟨first ++ rest, ?_, List.forall_mem_append.mpr ⟨hrewriting, hrewriting'⟩⟩
    rw [hrest, hfirst, List.append_assoc]

/-- A sequence fails as its parts do. -/
theorem FailsAs.bind {x : Compilation α} {f : α → Compilation β} (hx : FailsAs P x)
    (hf : ∀ a t, outcome? x t = some a → FailsAs P (f a)) : FailsAs P (x >>= f) := by
  intro t err herr
  rw [run_bind] at herr
  rcases hrun : x.run.run t with ⟨err' | a, t'⟩ <;> rw [hrun] at herr
  · cases herr
    exact hx t err (by rw [hrun])
  · exact hf a t (by rw [outcome?, hrun]; rfl) t' err herr

/-- A sequence of local computations is local. -/
theorem Local.bind {x : Compilation α} {f : α → Compilation β} (hx : Local P x)
    (hf : ∀ a, Local P (f a)) : Local P (x >>= f) := by
  refine ⟨fun t t' => ?_, fun t => ?_, hx.rewrites.bind fun a _ _ => (hf a).rewrites,
    hx.error.bind fun a _ _ => (hf a).error⟩
  · have hsame := hx.outcome t t'
    rw [run_bind, run_bind]
    rcases hrun : x.run.run t with ⟨err | a, s⟩ <;> rcases hrun' : x.run.run t' with ⟨err' | a', s'⟩
      <;> rw [hrun, hrun'] at hsame <;> cases hsame
    · rfl
    · exact (hf a).outcome s s'
  · have hkept := hx.registry t
    rw [run_bind]
    rcases hrun : x.run.run t with ⟨err | a, s⟩ <;> rw [hrun] at hkept
    · exact hkept
    · exact ((hf a).registry s).trans hkept

theorem Local.map {x : Compilation α} (hx : Local P x) (g : α → β) : Local P (g <$> x) := by
  rw [map_eq_pure_bind]
  exact hx.bind fun a => local_pure (g a)

/-- A choice between local computations, with one way to go on from both, is local. -/
theorem local_bind_ite {c : Prop} [Decidable c] {x y : Compilation α} {f : α → Compilation β}
    (hx : Local P x) (hy : Local P y) (hf : ∀ a, Local P (f a)) :
    Local P (if c then x >>= f else y >>= f) := by
  split
  next => exact hx.bind hf
  next => exact hy.bind hf

/-- Asking the registry is local where every registry gives the same answer. -/
theorem local_lookup {answer : Registry → Except Error α} {f : α → Compilation β}
    (hsame : ∀ r r', answer r = answer r') (herror : ∀ r err, answer r = .error err → P err)
    (hf : ∀ a, Local P (f a)) : Local P (get >>= fun t => ofExcept (answer t.registry) >>= f) := by
  have hlocal : Local P (ofExcept (answer .empty) >>= f) := (local_ofExcept (herror _)).bind hf
  have hrun : ∀ t, (get >>= fun t => ofExcept (answer t.registry) >>= f).run.run t =
      (ofExcept (answer .empty) >>= f).run.run t := by
    intro t
    rw [← hsame t.registry .empty]
    rfl
  refine ⟨fun t t' => ?_, fun t => ?_, fun t => ?_, fun t err herr => ?_⟩
  · rw [hrun, hrun, hlocal.outcome t t']
  · rw [hrun, hlocal.registry]
  · rw [hrun]
    exact hlocal.rewrites t
  · rw [hrun] at herr
    exact hlocal.error t err herr

theorem local_folded (v : Value) : Local P (folded v) :=
  (local_report .constantFold trivial).bind fun _ => local_pure _

theorem local_foldedTo (b : Bool) : Local P (foldedTo b) :=
  (local_report .constantFold trivial).bind fun _ => local_pure _

/-- A comparison that can be made is kept. -/
theorem local_compared {c : Comparator} {made : Except Error Comparison}
    (hmade : ∃ comparison, made = .ok comparison) : Local P (compared c made) := by
  obtain ⟨comparison, rfl⟩ := hmade
  rw [compared]
  split
  next event hchange =>
    refine (local_report event ?_).bind fun _ => local_pure comparison
    exact Comparison.isRewriting_of_change? hchange
  next => exact (local_pure ()).bind fun _ => local_pure comparison

theorem local_compared_map {c : Comparator} {ignoreCase : Bool} {made : Except Error Comparison}
    (hmade : ∃ comparison, made = .ok comparison) :
    Local P (asPredicate ignoreCase <$> compared c made) :=
  (local_compared hmade).map _

/-- Binding an entity fails by a conflict only. -/
theorem failsAs_register (entity : Entity) :
    FailsAs (fun err => err = .entityConflict entity.path) (register entity) := by
  have hget : FailsAs (fun err => err = .entityConflict entity.path) (get : Compilation Trace) :=
    .of_returns fun t => ⟨t, rfl⟩
  refine hget.bind fun t _ _ => ?_
  cases hregister : t.registry.register entity with
  | ok registry => exact .of_returns fun _ => ⟨(), rfl⟩
  | error err =>
    refine (local_throw ?_).error
    rw [Registry.register] at hregister
    split at hregister
    next => cases hregister
    next =>
      split at hregister <;> cases hregister
      rfl

/-! ### Operators -/

section

variable {shown : String}

theorem local_unsupported :
    Local (Error.ArisesIn shown) (throw (.unsupportedShape shown) : Compilation α) :=
  local_throw rfl

theorem local_foldedOr (r : Except Fault Value) :
    Local (Error.ArisesIn shown) (foldedOr shown r) := by
  rcases r with (_ | _) | v
  · exact local_unsupported
  · exact local_throw trivial
  · exact local_folded v

theorem local_foldedLength (n : Nat) : Local (Error.ArisesIn shown) (foldedLength shown n) := by
  rw [foldedLength]
  split
  next => exact local_folded _
  next => exact local_throw trivial

theorem local_unaryOf (op : UnaryOp) (operand : Operand) :
    Local (Error.ArisesIn shown) (unaryOf shown op operand) := by
  cases operand with
  | term u => exact local_unsupported
  | value v =>
    simp only [unaryOf]
    split
    next =>
      split
      next => exact local_pure _
      next => exact local_unsupported
    next =>
      split
      next =>
        split
        next => exact local_folded _
        next => exact local_throw trivial
      next => exact local_unsupported
    next => exact local_foldedLength _
    next => exact local_unsupported

theorem local_arithmeticOf (left : Operand) (sign : Sign) (right : Operand) :
    Local (Error.ArisesIn shown) (arithmeticOf shown left sign right) := by
  simp only [arithmeticOf]
  split
  next =>
    split
    next => exact local_unsupported
    next => exact local_foldedOr _
  next => exact (local_ofExcept fun _ => Term.arisesIn_of_join).bind fun _ => local_pure _

theorem local_itemOf (list index : Operand) :
    Local (Error.ArisesIn shown) (itemOf shown list index) := by
  simp only [itemOf]
  split
  next =>
    split
    next => exact local_unsupported
    next =>
      split
      next => exact local_folded _
      next => exact local_throw trivial
  next => exact local_unsupported

theorem local_asOperand (condition : Option Predicate) :
    Local (Error.ArisesIn shown) (asOperand shown condition) := by
  rw [asOperand]
  split
  next => exact local_pure _
  next => exact local_unsupported

theorem local_compareOperands {config : Config} {comparator : Comparator}
    (hcomparator : comparator.isOrdering = true) (ignoreCase : Bool) (left right : Operand) :
    Local (Error.ArisesIn shown)
      (compareOperands config shown comparator ignoreCase left right) := by
  have haccepts := Comparator.acceptsValue_of_isOrdering hcomparator
  have hreverse := Comparator.acceptsValue_of_isOrdering
    ((Comparator.isOrdering_reverse comparator).trans hcomparator)
  unfold compareOperands
  split
  next => exact local_compared_map (Comparison.exists_withOperand _ haccepts _ _)
  next v r =>
    refine (local_report .comparatorReversal trivial).bind fun _ => ?_
    exact local_compared_map (Comparison.exists_withValue r hreverse v _)
  next =>
    split
    next => exact local_foldedTo _
    next => exact local_unsupported

/-! ### Operators that ask for kinds -/

variable {entity : Entity}

theorem local_kindOf {u : Term} (hu : u.WellFormed entity) : Local P (kindOf u) := by
  have hlookup : Local P (get >>= fun t => ofExcept (u.kind t.registry) >>= pure) :=
    local_lookup hu.kind_congr (fun _ _ h => absurd h hu.kind_ne_error) local_pure
  rw [bind_congr fun _ => bind_pure _] at hlookup
  exact hlookup

theorem local_apply {sign : Sign} {u : Term} {args : List Term} (hu : u.WellFormed entity)
    (hargs : ∀ arg ∈ args, arg.WellFormed entity) :
    Local (Error.ArisesIn shown)
      (do return Operand.term (← ofExcept (Term.apply (← get).registry sign u args))) :=
  local_lookup (Term.apply_congr hu hargs) (fun _ _ => Term.arisesIn_of_apply hu hargs)
    fun _ => local_pure _

theorem local_memberOf {target : Operand} (htarget : target.Compiled entity) (name : String) :
    Local (Error.ArisesIn shown) (memberOf shown target name) := by
  cases target with
  | term u =>
    simp only [memberOf]
    split
    next => exact local_apply htarget.wellFormed (List.forall_mem_nil _)
    next => exact local_unsupported
  | value v =>
    simp only [memberOf]
    split
    next =>
      cases v with
      | text s => exact local_foldedLength _
      | list items => exact local_foldedLength _
      | _ => exact local_unsupported
    next =>
      split
      next => exact local_folded _
      next => exact local_unsupported

theorem local_textFunctionOf {sign : Sign} {target : Operand} {args : List Operand}
    (htarget : target.Compiled entity) (hargs : ∀ arg ∈ args, Operand.Compiled entity arg) :
    Local (Error.ArisesIn shown) (textFunctionOf shown sign target args) := by
  cases target with
  | term u =>
    refine local_apply htarget.wellFormed (List.forall_mem_map.mpr fun arg harg => ?_)
    exact (hargs arg harg).wellFormed_toTerm
  | value v =>
    simp only [textFunctionOf]
    split
    next => exact local_throw trivial
    next =>
      split
      next => exact local_unsupported
      next => exact local_foldedOr _

theorem local_asCondition {operand : Operand} (hoperand : operand.Compiled entity) :
    Local (Error.ArisesIn shown) (asCondition shown operand) := by
  cases operand with
  | term u =>
    simp only [asCondition]
    refine (local_kindOf hoperand.wellFormed).bind fun kind => ?_
    split
    next => exact local_compared_map (Comparison.exists_withValue u rfl _ _)
    next => exact local_unsupported
  | value v =>
    cases v with
    | bool b => exact local_foldedTo b
    | _ => exact local_unsupported

/-- The field of a member of a compiled term is the one that the reference carries. -/
theorem local_hasValue {operand : Operand} (hoperand : operand.Compiled entity) :
    Local P (hasValue operand) := by
  cases operand with
  | value v => exact local_foldedTo _
  | term u =>
    -- whether the term is nullable is found in two ways, and decides the rest in the same way
    have htest : ∀ nullable : Bool, Local P (
        if nullable then asPredicate false <$> compared .isNotNull (Comparison.unary u .isNotNull)
        else foldedTo true) := by
      intro nullable
      cases nullable with
      | true => exact local_compared_map (Comparison.exists_unary u .isNotNull)
      | false => exact local_foldedTo true
    simp only [hasValue]
    split
    next ref href =>
      have hfield : ∃ field, ref.field? = some field := by
        cases u <;> cases href
        obtain ⟨-, field, -, hfield⟩ := hoperand.wellFormed.rules _ List.mem_cons_self
        exact ⟨field, hfield⟩
      obtain ⟨field, hfield⟩ := hfield
      have hknown : ∀ registry, ref.field registry = .ok field := by
        intro registry
        rw [MemberRef.field, hfield]
      refine local_lookup (fun r r' => by rw [hknown r, hknown r']) ?_
        fun field => htest field.nullable
      intro registry err herr
      rw [hknown] at herr
      cases herr
    next => exact htest true

theorem local_searchOperands {config : Config} {kind : PatternKind} {ignoreCase : Bool}
    {receiver arg : Operand} (hreceiver : receiver.Compiled entity) :
    Local (Error.ArisesIn shown) (searchOperands config shown kind ignoreCase receiver arg) := by
  have haccepts : kind.comparator.acceptsValue = true := by
    cases kind <;> rfl
  unfold searchOperands
  split
  next items u =>
    split
    next => exact local_compared_map (Comparison.exists_withValue u rfl _ _)
    next => exact local_unsupported
  next => exact local_unsupported
  next u v =>
    have hkind := local_kindOf (P := Error.ArisesIn shown) hreceiver.wellFormed
    dsimp only
    refine local_bind_ite (hkind.map _) (local_pure false) fun listed => ?_
    split
    next => exact local_compared_map (Comparison.exists_withOperand _ rfl _ _)
    next =>
      split
      next =>
        refine hkind.bind fun receiverKind => ?_
        split
        next => exact local_compared_map (Comparison.exists_withValue u haccepts _ _)
        next => exact local_unsupported
      next => exact local_unsupported
  next u a =>
    refine (local_kindOf hreceiver.wellFormed).bind fun receiverKind => ?_
    split
    next => exact local_compared_map (Comparison.exists_withOperand u haccepts _ _)
    next => exact local_unsupported
  next =>
    split
    next => exact local_foldedTo _
    next => exact local_unsupported

end

end Compilation

end RowFilter
