import RowFilter.Proofs.Registry.Independence
import RowFilter.Proofs.Registry.References
import RowFilter.Proofs.Registry.Subqueries
import RowFilter.Session

/-!
# The registry of a session

The calls of a session register entities, compile expressions with success or without, and keep,
resolve and evaluate what comes out. Whatever the calls, the registry only grows: a path that is
bound stays bound to its entity, and a member reference that has found its field keeps it
(`Session.registry_after`).
-/

namespace RowFilter

namespace Session

/-! ### Calls -/

/-- A call that a session can be asked for. -/
inductive Call where
  /-- Bind an entity to its path. -/
  | register (e : Entity)
  /-- Compile an expression into a predicate. -/
  | compilePredicate (entity : Entity) (config : Config) (e : Expr)
  /-- Compile an expression into an operand. -/
  | compileOperand (entity : Entity) (config : Config) (e : Expr)
  /-- Keep the reference to a member by name alone. -/
  | keep (name owner member : String)
  /-- Resolve a kept reference. -/
  | resolve (name : String)
  /-- Evaluate a term over a row. -/
  | compute (t : Term) (row : Row)

/-- What a call leaves of a session. -/
def Call.run : Call → Session → Session
  | .register e, s => ((Session.register e).run s).2
  | .compilePredicate entity config e, s => ((Session.compilePredicate entity config e).run s).2
  | .compileOperand entity config e, s => ((Session.compileOperand entity config e).run s).2
  | .keep name owner member, s => ((Session.keep name (.named owner member)).run s).2
  | .resolve name, s => ((resolveKept name).run s).2
  | .compute t row, s => ((Session.compute t row).run s).2

/-- The name under which a call keeps a new reference. -/
def Call.keeps? : Call → Option String
  | .keep name _ _ => some name
  | _ => none

/-- A session after a list of calls. -/
def after (s : Session) (calls : List Call) : Session := calls.foldl (fun s call => call.run s) s

variable {s : Session} {e : Entity} {name : String} {ref : MemberRef} {f : Field}

/-! ### What a call does -/

theorem registry_recorded (s : Session) (event : Event) :
    (s.recorded event).registry = s.registry := by
  rw [recorded]
  split <;> rfl

theorem kept_recorded (s : Session) (event : Event) : (s.recorded event).kept = s.kept := by
  rw [recorded]
  split <;> rfl

/-- Recording events touches neither the registry nor the kept references. -/
theorem foldl_recorded (events : List Event) (s : Session) :
    (events.foldl recorded s).registry = s.registry ∧ (events.foldl recorded s).kept = s.kept := by
  induction events generalizing s with
  | nil => exact ⟨rfl, rfl⟩
  | cons event events ih =>
    rw [List.foldl_cons, (ih _).1, (ih _).2]
    exact ⟨registry_recorded s event, kept_recorded s event⟩

/-- A registration binds the entity, or fails and leaves the session as it is. -/
theorem run_register (e : Entity) (s : Session) :
    (register e).run s =
      match s.registry.register e with
      | .ok registry => (.ok (), { s with registry })
      | .error err => (.error err, s) := by
  have hrun : (register e).run s =
      (match s.registry.register e with
        | .ok registry => do set { s with registry }; return .ok ()
        | .error err => return .error err : SessionM (Except Error Unit)).run s := rfl
  rw [hrun]
  cases s.registry.register e <;> rfl

/-- A compilation runs over the registry of the session, and leaves the kept references. -/
theorem run_compile {α : Type} (body : StateM Trace α) (s : Session) :
    ((compile body).run s).1 = (body.run ⟨s.registry, []⟩).1 ∧
      ((compile body).run s).2.registry = (body.run ⟨s.registry, []⟩).2.registry ∧
      ((compile body).run s).2.kept = s.kept := by
  have hrecorded := foldl_recorded (body.run ⟨s.registry, []⟩).2.events
    { s with registry := (body.run ⟨s.registry, []⟩).2.registry }
  exact ⟨rfl, hrecorded.1, hrecorded.2⟩

/-- A compilation over an entity extends the registry. -/
theorem extends_overEntity {α : Type} {entity : Entity} {x : Compilation α}
    (hx : Compilation.Grows x) (t : Trace) :
    t.registry.Extends ((Compilation.overEntity entity x).run t).2.registry :=
  (Compilation.grows_register entity).bind (fun _ _ _ => hx) t

/-- Resolving a reference replaces it by itself with its field, if it is kept at all. -/
theorem run_resolveKept (name : String) (s : Session) :
    ((resolveKept name).run s).2 =
      match s.kept.lookup name with
      | none => s
      | some ref => { s with kept := (name, ref.resolved s.registry) :: s.kept } := by
  have hkept : (kept? name).run s = (s.kept.lookup name, s) := rfl
  rw [resolveKept, StateT.run_bind, hkept]
  cases s.kept.lookup name <;> rfl

/-- A call extends the registry. -/
theorem Call.extends_run (call : Call) (s : Session) :
    s.registry.Extends (call.run s).registry := by
  cases call with
  | register e =>
    rw [run, run_register]
    cases hregister : s.registry.register e with
    | ok registry => exact (Registry.extends_of_register hregister).1
    | error err => exact .refl _
  | compilePredicate entity config e =>
    rw [run, Session.compilePredicate, (run_compile _ s).2.1]
    exact extends_overEntity Compilation.grows_lower.1 ⟨s.registry, []⟩
  | compileOperand entity config e =>
    rw [run, Session.compileOperand, (run_compile _ s).2.1]
    exact extends_overEntity Compilation.grows_lower.2 ⟨s.registry, []⟩
  | keep name owner member => exact .refl _
  | resolve name =>
    rw [run, run_resolveKept]
    cases s.kept.lookup name <;> exact .refl _
  | compute t row =>
    have hrecorded : ((Session.compute t row).run s).2.registry = s.registry :=
      registry_recorded s _
    rw [run, hrecorded]
    exact .refl _

theorem lookup_cons_of_ne {name' : String} {kept : List (String × MemberRef)}
    (h : name ≠ name') : List.lookup name ((name', ref) :: kept) = List.lookup name kept := by
  rw [List.lookup_cons, beq_eq_false_iff_ne.mpr h]

/-- A call leaves a kept reference as it is, or resolves it, unless it keeps another one under the
name. -/
theorem Call.lookup_run {call : Call} (hcall : call.keeps? ≠ some name)
    (hkept : s.kept.lookup name = some ref) :
    (call.run s).kept.lookup name = some ref ∨
      (call.run s).kept.lookup name = some (ref.resolved s.registry) := by
  cases call with
  | register e =>
    left
    rw [run, run_register]
    cases s.registry.register e <;> exact hkept
  | compilePredicate entity config e =>
    left
    rw [run, Session.compilePredicate, (run_compile _ s).2.2, hkept]
  | compileOperand entity config e =>
    left
    rw [run, Session.compileOperand, (run_compile _ s).2.2, hkept]
  | keep name' owner member =>
    left
    have hname : name ≠ name' := by
      rintro rfl
      exact hcall rfl
    exact (lookup_cons_of_ne hname).trans hkept
  | resolve name' =>
    rw [run, run_resolveKept]
    cases hkept' : s.kept.lookup name' with
    | none => exact .inl hkept
    | some ref' =>
      by_cases hname : name = name'
      · right
        rw [← hname, hkept] at hkept'
        cases hkept'
        rw [hname]
        exact List.lookup_cons_self
      · exact .inl ((lookup_cons_of_ne hname).trans hkept)
  | compute t row =>
    left
    have hrecorded : ((Session.compute t row).run s).2.kept = s.kept := kept_recorded s _
    rw [run, hrecorded, hkept]

/-! ### Runs -/

/-- Any calls extend the registry. -/
theorem extends_after (calls : List Call) (s : Session) :
    s.registry.Extends (s.after calls).registry := by
  induction calls generalizing s with
  | nil => exact .refl _
  | cons call calls ih => exact (call.extends_run s).trans (ih (call.run s))

/-- A kept reference that has a field has the same field after any calls, unless one of them keeps
another reference under its name. -/
theorem field_lookup_after {calls : List Call} (hcalls : ∀ call ∈ calls, call.keeps? ≠ some name)
    (hkept : s.kept.lookup name = some ref) (hfield : ref.field s.registry = .ok f) :
    ∃ ref', (s.after calls).kept.lookup name = some ref' ∧ ref'.agrees ref = true ∧
      ref'.field (s.after calls).registry = .ok f := by
  induction calls generalizing s ref with
  | nil => exact ⟨ref, hkept, by simp [MemberRef.agrees], hfield⟩
  | cons call calls ih =>
    obtain ⟨hcall, hcalls⟩ := List.forall_mem_cons.mp hcalls
    rcases Call.lookup_run hcall hkept with hkept' | hkept'
    · exact ih hcalls hkept' (MemberRef.field_of_extends (call.extends_run s) hfield)
    · obtain ⟨ref', hlookup, hagrees, hfield'⟩ :=
        ih hcalls hkept' (MemberRef.field_resolved hfield _)
      refine ⟨ref', hlookup, ?_, hfield'⟩
      rw [MemberRef.agrees_iff] at hagrees ⊢
      rw [hagrees, MemberRef.resolved, hfield]
      rfl

/-! ### The theorem -/

/-- A registration fails exactly if another entity has the path, and then changes nothing; after a
success the entity is bound. -/
theorem register_cases (e : Entity) (s : Session) :
    ((∃ err, ((register e).run s).1 = .error err) ↔
        ∃ bound, s.registry.find? e.path = some bound ∧ bound ≠ e) ∧
      (∀ err, ((register e).run s).1 = .error err → ((register e).run s).2 = s) ∧
      (((register e).run s).1 = .ok () →
        ((register e).run s).2.registry.find? e.path = some e) := by
  rw [run_register]
  cases hregister : s.registry.register e with
  | ok registry =>
    refine ⟨⟨?_, fun hbound => ?_⟩, ?_, fun _ => (Registry.extends_of_register hregister).2⟩
    · rintro ⟨err, ⟨⟩⟩
    · rw [Registry.register_eq_error_iff.mpr ⟨hbound, rfl⟩] at hregister
      cases hregister
    · rintro err ⟨⟩
  | error err =>
    exact ⟨⟨fun _ => (Registry.register_eq_error_iff.mp hregister).1, fun _ => ⟨err, rfl⟩⟩,
      fun _ _ => rfl, nofun⟩

/-- After a successful compilation its entity is bound, and so is the entity of every subquery that
was compiled on the way. -/
theorem find?_of_compile (entity : Entity) (config : Config) (e : Expr) (s : Session) :
    (∀ q, ((Session.compilePredicate entity config e).run s).1 = .ok q →
        ∀ d, d = entity ∨ (Compilation.Task.condition config.maxDepth entity e).Compiles config d →
          ((Session.compilePredicate entity config e).run s).2.registry.find? d.path = some d) ∧
      ∀ o, ((Session.compileOperand entity config e).run s).1 = .ok o →
        ∀ d, d = entity ∨ (Compilation.Task.value config.maxDepth entity e).Compiles config d →
          ((Session.compileOperand entity config e).run s).2.registry.find? d.path = some d := by
  constructor
  · intro q hq d hd
    rw [Session.compilePredicate, (run_compile _ s).1] at hq
    rw [Session.compilePredicate, (run_compile _ s).2.1]
    exact Compilation.find?_of_overEntity Compilation.grows_lower.1
      (hd.imp_right Compilation.Task.Compiles.binds) hq
  · intro o ho d hd
    rw [Session.compileOperand, (run_compile _ s).1] at ho
    rw [Session.compileOperand, (run_compile _ s).2.1]
    exact Compilation.find?_of_overEntity Compilation.grows_lower.2
      (hd.imp_right Compilation.Task.Compiles.binds) ho

/-- Whatever is called in a session: a path that is bound stays bound to its entity; a registration
fails exactly if another entity has the path, and then changes nothing; a successful compilation has
bound its entity and those of the subqueries compiled on the way; a reference that is made by name
alone or decoded has the first field of the name in the entity of its owner, and keeps a field that
it has found, whether it is kept in the session or not; and a compilation in whose way nothing is
registered has the outcome that it has in a new session. -/
theorem registry_after (s : Session) (calls : List Call) :
    (∀ path e, s.registry.find? path = some e →
        (s.after calls).registry.find? path = some e) ∧
      (∀ e, ((∃ err, ((register e).run s).1 = .error err) ↔
            ∃ bound, s.registry.find? e.path = some bound ∧ bound ≠ e) ∧
          (∀ err, ((register e).run s).1 = .error err → ((register e).run s).2 = s) ∧
          (((register e).run s).1 = .ok () →
            ((register e).run s).2.registry.find? e.path = some e)) ∧
      (∀ entity config e,
        (∀ q, ((Session.compilePredicate entity config e).run s).1 = .ok q → ∀ d,
            d = entity ∨ (Compilation.Task.condition config.maxDepth entity e).Compiles config d →
              ((Session.compilePredicate entity config e).run s).2.registry.find? d.path =
                some d) ∧
          ∀ o, ((Session.compileOperand entity config e).run s).1 = .ok o → ∀ d,
            d = entity ∨ (Compilation.Task.value config.maxDepth entity e).Compiles config d →
              ((Session.compileOperand entity config e).run s).2.registry.find? d.path =
                some d) ∧
      (∀ ref, ((∃ owner name, ref = MemberRef.named owner name) ∨
          ∃ limit bytes t, Term.decode limit bytes = .ok t ∧ .member ref ∈ t.nodes) →
        ∀ f, ref.field s.registry = .ok f ↔
          ∃ e, s.registry.find? ref.owner = some e ∧ e.field? ref.name = some f) ∧
      (∀ ref f, MemberRef.field ref s.registry = .ok f →
        ref.field (s.after calls).registry = .ok f ∧
          (ref.resolved s.registry).field (s.after calls).registry = .ok f) ∧
      (∀ name ref f, s.kept.lookup name = some ref → ref.field s.registry = .ok f →
        (∀ call ∈ calls, call.keeps? ≠ some name) →
          ∃ ref', (s.after calls).kept.lookup name = some ref' ∧ ref'.agrees ref = true ∧
            ref'.field (s.after calls).registry = .ok f) ∧
      ∀ entity config e,
        (∀ d, d = entity ∨ d ∈ Expr.details e →
          ∀ bound, s.registry.find? d.path = some bound → bound = d) →
        ((Session.compilePredicate entity config e).run s).1 =
            ((Session.compilePredicate entity config e).run empty).1 ∧
          ((Session.compileOperand entity config e).run s).1 =
            ((Session.compileOperand entity config e).run empty).1 := by
  refine ⟨fun path e => extends_after calls s path e, fun e => register_cases e s,
    fun entity config e => find?_of_compile entity config e s, ?_, ?_, ?_, ?_⟩
  · intro ref href f
    have hnone : ref.field? = none := by
      rcases href with ⟨owner, name, rfl⟩ | ⟨limit, bytes, t, ht, hmember⟩
      · rfl
      · exact Term.allRefs_of_decode ht ref hmember
    rw [MemberRef.field, hnone]
    exact Registry.field_eq_ok_iff
  · intro ref f hf
    exact ⟨MemberRef.field_of_extends (extends_after calls s) hf, MemberRef.field_resolved hf _⟩
  · intro name ref f hkept hfield hcalls
    exact field_lookup_after hcalls hkept hfield
  · intro entity config e hfree
    exact compile_eq_of_free entity config e (t := ⟨s.registry, []⟩) hfree

/-- A session in which a second entity is refused a path, a subquery binds its entity, and a
reference that was kept before its entity was known finds its field. -/
theorem registry_after_subquery :
    let id : Field := ⟨"id", .int, false⟩
    let personId : Field := ⟨"person_id", .int, false⟩
    let person : Entity := ⟨"Person", "person", [id]⟩
    let other : Entity := ⟨"Other", "person", []⟩
    let order : Entity := ⟨"Order", "order", [personId]⟩
    let e : Expr := .existsIn (.field "id") order "person_id" false
    let s : Session := empty.after [.keep "ref" "order" "person_id", .register person]
    let s' := ((Session.compilePredicate person .default e).run s).2
    ((register other).run s).1 = .error (.entityConflict "person") ∧
      ((register other).run s).2 = s ∧
      ((Session.compilePredicate person .default e).run s).1.isOk = true ∧
      s.registry.find? "order" = none ∧ s'.registry.find? "order" = some order ∧
      (MemberRef.named "order" "person_id").field s'.registry = .ok personId ∧
      (∃ ref, (s'.after [.resolve "ref", .register other]).kept.lookup "ref" = some ref ∧
        ref.field (s'.after [.resolve "ref", .register other]).registry = .ok personId) ∧
      ((Session.compilePredicate person .default e).run s).1 =
        ((Session.compilePredicate person .default e).run empty).1 := by
  intro id personId person other order e s s'
  have hs := registry_after s []
  have hs' := registry_after s' [.resolve "ref", .register other]
  have hconflict : ((register other).run s).1 = .error (.entityConflict "person") := rfl
  obtain ⟨q, hq⟩ : ∃ q, ((Session.compilePredicate person .default e).run s).1 = .ok q := ⟨_, rfl⟩
  have hcompiles : (Compilation.Task.condition Config.default.maxDepth person e).Compiles .default
      order := ⟨63, person, e, rfl, .refl⟩
  have horder := (hs.2.2.1 person .default e).1 q hq order (.inr hcompiles)
  have hfield : (MemberRef.named "order" "person_id").field s'.registry = .ok personId :=
    (hs'.2.2.2.1 _ (.inl ⟨_, _, rfl⟩) _).mpr ⟨order, horder, rfl⟩
  have hkept : s'.kept.lookup "ref" = some (.named "order" "person_id") := rfl
  obtain ⟨ref, hlookup, -, href⟩ := hs'.2.2.2.2.2.1 _ _ _ hkept hfield (by simp [Call.keeps?])
  refine ⟨hconflict, (hs.2.1 other).2.1 _ hconflict, by rw [hq]; rfl, rfl, horder, hfield,
    ⟨ref, hlookup, href⟩, ((hs.2.2.2.2.2.2 person .default e) ?_).1⟩
  -- the session binds the path of the outer entity, to this entity, and not that of the other one
  rintro d hd bound hbound
  have hd' : d = person ∨ d = order := by simpa [e, Expr.details, Expr.field] using hd
  rcases hd' with rfl | rfl
  · exact (Option.some.inj hbound).symm
  · cases hbound

end Session

end RowFilter
