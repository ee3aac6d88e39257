import RowFilter.Proofs.Metrics.Counters
import RowFilter.Proofs.Metrics.Reports
import RowFilter.Proofs.Registry.Sessions

/-!
# Where the events of a run go

A run is a list of acts: calls, of which some report events, resets of the counters, and scopes with
a run of their own inside. What a run reports does not depend on the open scopes, so it is a tree of marks
(`Act.marks`), of which each event goes to one place: the scope in which it stands directly, or the
counters if it stands in none.

The acts of a scope deliver to the scope, and the scopes that were open before it are open again
after it, with nothing added. The counters keep what stands outside all scopes after the last reset,
wherever that reset stands.
-/

namespace RowFilter

namespace Session

/-- Something that is done in a session. -/
inductive Act where
  /-- Make a call. -/
  | call (call : Call)
  /-- Evaluate an operand over a row. -/
  | computeOperand (o : Operand) (row : Row)
  /-- Make a comparison for a requested comparator. -/
  | compare (requested : Comparator) (made : Except Error Comparison)
  /-- Set all counters back to zero. -/
  | reset
  /-- Do something under a new scope. -/
  | scope (body : List Act)

mutual

/-- Do an act; what comes out are the events of the scopes that it opens, in the order in which they
close. -/
def Act.perform : Act → SessionM (List (List Event))
  | .call call => do modify call.run; return []
  | .computeOperand o row => do let _ ← Session.computeOperand o row; return []
  | .compare requested made => do let _ ← Session.compare requested made; return []
  | .reset => do resetCounters; return []
  | .scope body => do
    let (inner, events) ← captured (performAll body)
    return inner ++ [events]

/-- Do the acts of a list, one after the other. -/
def performAll : List Act → SessionM (List (List Event))
  | [] => return []
  | act :: acts => do
    let first ← act.perform
    let rest ← performAll acts
    return first ++ rest

end

/-! ### What a run reports -/

/-- A mark that a run leaves. -/
inductive Mark where
  /-- An event was reported. -/
  | event (e : Event)
  /-- The counters were reset. -/
  | reset
  /-- A scope was open, with marks inside. -/
  | scope (marks : List Mark)

/-- The marks of a call under a registry, and the registry after it. -/
def Call.marks : Call → Registry → List Mark × Registry
  | .register e, r => ([], (r.register e).toOption.getD r)
  | .compilePredicate entity config e, r =>
    let trace := ((RowFilter.compilePredicate entity config e).run ⟨r, []⟩).2
    (trace.events.map .event, trace.registry)
  | .compileOperand entity config e, r =>
    let trace := ((RowFilter.compileOperand entity config e).run ⟨r, []⟩).2
    (trace.events.map .event, trace.registry)
  | .keep _ _ _, r | .resolve _, r => ([], r)
  | .compute t row, r => ([.event (.evaluate (t.evaluate r row).isOk)], r)

mutual

/-- The marks of an act under a registry, and the registry after it. -/
def Act.marks : Act → Registry → List Mark × Registry
  | .call call, r => call.marks r
  | .computeOperand _ _, r => ([], r)
  | .compare requested made, r => ((Comparison.change? requested made).toList.map .event, r)
  | .reset, r => ([.reset], r)
  | .scope body, r => ([.scope (marksOf body r).1], (marksOf body r).2)

/-- The marks of a list of acts, and the registry after them. -/
def marksOf : List Act → Registry → List Mark × Registry
  | [], r => ([], r)
  | act :: acts, r =>
    ((act.marks r).1 ++ (marksOf acts (act.marks r).2).1, (marksOf acts (act.marks r).2).2)

end

namespace Mark

/-- The event of a mark that is one. -/
def event? : Mark → Option Event
  | event e => some e
  | _ => none

/-- The events that stand directly in a list of marks, outside of the scopes in it. -/
def direct (marks : List Mark) : List Event := marks.filterMap event?

mutual

/-- The events that stand in a mark, directly or in a scope. -/
def events : Mark → List Event
  | event e => [e]
  | reset => []
  | scope marks => eventsOf marks

/-- The events that stand in a list of marks, directly or in a scope. -/
def eventsOf : List Mark → List Event
  | [] => []
  | mark :: marks => mark.events ++ eventsOf marks

end

mutual

/-- What the scopes of a mark capture, inner ones first: the events that stand directly in them. -/
def captures : Mark → List (List Event)
  | event _ | reset => []
  | scope marks => capturesOf marks ++ [direct marks]

/-- What the scopes of a list of marks capture. -/
def capturesOf : List Mark → List (List Event)
  | [] => []
  | mark :: marks => mark.captures ++ capturesOf marks

end

mutual

/-- A reset stands in a mark. -/
def resets : Mark → Bool
  | event _ => false
  | reset => true
  | scope marks => resetsAny marks

/-- A reset stands in a list of marks. -/
def resetsAny : List Mark → Bool
  | [] => false
  | mark :: marks => mark.resets || resetsAny marks

end

/-- The events outside any scope since the last reset, after one more mark. What stands directly
outside of all scopes does so only if none is open around the marks. -/
def since (outside : Bool) (past : List Event) : Mark → List Event
  | event e => if outside then past ++ [e] else past
  | mark => if mark.resets then [] else past

/-- The events outside any scope since the last reset, after a list of marks. -/
def sinceReset (outside : Bool) (past : List Event) (marks : List Mark) : List Event :=
  marks.foldl (since outside) past

variable {marks marks' : List Mark} {outside : Bool} {past : List Event}

theorem direct_append (marks marks' : List Mark) :
    direct (marks ++ marks') = direct marks ++ direct marks' :=
  List.filterMap_append

theorem capturesOf_append (marks marks' : List Mark) :
    capturesOf (marks ++ marks') = capturesOf marks ++ capturesOf marks' := by
  induction marks with
  | nil => rfl
  | cons mark marks ih => rw [List.cons_append, capturesOf, capturesOf, ih, List.append_assoc]

theorem sinceReset_append (marks marks' : List Mark) :
    sinceReset outside past (marks ++ marks') =
      sinceReset outside (sinceReset outside past marks) marks' :=
  List.foldl_append

/-- Under an open scope nothing happens outside, and a reset forgets what did. -/
theorem sinceReset_false (marks : List Mark) (past : List Event) :
    sinceReset false past marks = if resetsAny marks then [] else past := by
  induction marks generalizing past with
  | nil => rfl
  | cons mark marks ih =>
    have hmark : since false past mark = if mark.resets then [] else past := by
      cases mark <;> rfl
    rw [sinceReset, List.foldl_cons, ← sinceReset, ih, resetsAny, hmark]
    cases mark.resets <;> cases resetsAny marks <;> rfl

theorem direct_events (events : List Event) : direct (events.map .event) = events := by
  induction events with
  | nil => rfl
  | cons e events ih => exact congrArg (e :: ·) ih

theorem capturesOf_events (events : List Event) : capturesOf (events.map .event) = [] := by
  induction events with
  | nil => rfl
  | cons e events ih => exact ih

theorem sinceReset_events (events past : List Event) :
    sinceReset outside past (events.map .event) = if outside then past ++ events else past := by
  induction events generalizing past with
  | nil => cases outside <;> simp [sinceReset]
  | cons e events ih =>
    rw [List.map_cons, sinceReset, List.foldl_cons, ← sinceReset, ih]
    cases outside <;> simp [since]

mutual

/-- Each event stands directly outside of the scopes of a mark, or directly in one of them. -/
theorem events_perm : ∀ mark : Mark,
    mark.events.Perm (direct [mark] ++ mark.captures.flatten)
  | event e => .refl _
  | reset => .refl _
  | scope marks => by
    have hinside := eventsOf_perm marks
    rw [events, captures, List.flatten_append, List.flatten_singleton]
    exact hinside.trans List.perm_append_comm

/-- Each event stands directly outside of the scopes of some marks, or directly in one of them. -/
theorem eventsOf_perm : ∀ marks : List Mark,
    (eventsOf marks).Perm (direct marks ++ (capturesOf marks).flatten)
  | [] => .refl _
  | mark :: marks => by
    rw [eventsOf, capturesOf, List.flatten_append, ← List.singleton_append, direct_append]
    -- what the scopes of the first mark capture changes places with what stands directly in the rest
    calc (mark.events ++ eventsOf marks).Perm
          ((direct [mark] ++ mark.captures.flatten) ++
            (direct marks ++ (capturesOf marks).flatten)) :=
        (events_perm mark).append (eventsOf_perm marks)
      _ = direct [mark] ++ ((mark.captures.flatten ++ direct marks) ++
            (capturesOf marks).flatten) := by simp only [List.append_assoc]
      List.Perm _ (direct [mark] ++ ((direct marks ++ mark.captures.flatten) ++
            (capturesOf marks).flatten)) :=
        ((List.perm_append_comm).append_right _).append_left _
      _ = (direct [mark] ++ direct marks) ++ (mark.captures.flatten ++
            (capturesOf marks).flatten) := by simp only [List.append_assoc]

end

end Mark

/-! ### Where the events go -/

/-- The open scopes after events that go to the innermost one, if any is open. -/
def deliver (scopes : List (List Event)) (events : List Event) : List (List Event) :=
  match scopes with
  | scope :: outer => (scope ++ events) :: outer
  | [] => []

/-- What happens to a session when marks are left: their scopes capture what stands directly in
them, the innermost open scope receives what stands outside of them, and the counters keep what
stands outside of all. -/
structure Delivered (s : Session) (marks : List Mark) (taken : List (List Event))
    (s' : Session) : Prop where
  /-- The scopes of the marks have captured what stands directly in them. -/
  taken_eq : taken = Mark.capturesOf marks
  /-- The innermost open scope has received the other events. -/
  scopes_eq : s'.scopes = deliver s.scopes (Mark.direct marks)
  /-- The counters count what happened outside any scope since the last reset. -/
  counters_eq : ∀ past, s.counters = .ofEvents past →
    s'.counters = .ofEvents (Mark.sinceReset s.scopes.isEmpty past marks)

variable {s s' s'' : Session} {marks marks' : List Mark} {taken taken' : List (List Event)}

theorem deliver_nil (scopes : List (List Event)) : deliver scopes [] = scopes := by
  cases scopes with
  | nil => rfl
  | cons scope outer => rw [deliver, List.append_nil]

theorem deliver_append (scopes : List (List Event)) (events events' : List Event) :
    deliver scopes (events ++ events') = deliver (deliver scopes events) events' := by
  cases scopes with
  | nil => rfl
  | cons scope outer => simp only [deliver, List.append_assoc]

/-- Delivering events opens and closes no scope. -/
theorem isEmpty_deliver (scopes : List (List Event)) (events : List Event) :
    (deliver scopes events).isEmpty = scopes.isEmpty := by
  cases scopes <;> rfl

/-- Marks that are left one after the other are delivered one after the other. -/
theorem Delivered.trans (h : Delivered s marks taken s') (h' : Delivered s' marks' taken' s'') :
    Delivered s (marks ++ marks') (taken ++ taken') s'' := by
  refine ⟨?_, ?_, fun past hpast => ?_⟩
  · rw [h.taken_eq, h'.taken_eq, Mark.capturesOf_append]
  · rw [h'.scopes_eq, h.scopes_eq, Mark.direct_append, deliver_append]
  · rw [h'.counters_eq _ (h.counters_eq past hpast), h.scopes_eq, isEmpty_deliver,
      Mark.sinceReset_append]

/-- Recorded events go to the innermost open scope, or to the counters. -/
theorem recorded_eq (events : List Event) (s : Session) :
    events.foldl recorded s =
      { s with
        scopes := deliver s.scopes events
        counters := if s.scopes.isEmpty then events.foldl Counters.record s.counters
          else s.counters } := by
  induction events generalizing s with
  | nil => simp [deliver_nil]
  | cons e events ih =>
    rw [List.foldl_cons, ih]
    -- the first event leaves the same scopes open, so the rest goes to the same place
    obtain ⟨registry, counters, scopes, kept⟩ := s
    cases scopes <;> simp [recorded, deliver]

/-- A call delivers the events that it records. -/
theorem delivered_recorded (events : List Event) (hscopes : s'.scopes = s.scopes)
    (hcounters : s'.counters = s.counters) :
    Delivered s (events.map .event) [] (events.foldl recorded s') := by
  rw [recorded_eq]
  refine ⟨(Mark.capturesOf_events events).symm, ?_, fun past hpast => ?_⟩
  · rw [Mark.direct_events, hscopes]
  · rw [Mark.sinceReset_events, hscopes, hcounters, hpast, ← Counters.ofEvents_append]
    split <;> rfl

/-- A scope captures what its acts deliver, and leaves the scopes that were open before it. -/
theorem Delivered.scope (h : Delivered { s with scopes := [] :: s.scopes } marks taken s') :
    Delivered s [.scope marks] (taken ++ [s'.scopes.head?.getD []])
      { s' with scopes := s'.scopes.drop 1 } := by
  have hscopes : s'.scopes = Mark.direct marks :: s.scopes := h.scopes_eq
  refine ⟨?_, ?_, fun past hpast => ?_⟩
  · rw [hscopes, h.taken_eq]
    simp [Mark.capturesOf, Mark.captures]
  · rw [hscopes]
    exact (deliver_nil s.scopes).symm
  · -- inside, nothing stands outside of all scopes, but a reset still counts
    have hcounters := h.counters_eq past hpast
    rw [List.isEmpty_cons, Mark.sinceReset_false] at hcounters
    exact hcounters

/-- Nothing happens to a session that keeps its scopes and counters. -/
theorem delivered_nothing (hscopes : s'.scopes = s.scopes) (hcounters : s'.counters = s.counters) :
    Delivered s [] [] s' :=
  delivered_recorded [] hscopes hcounters

/-- A compilation delivers the events of its trace, and leaves the registry of its trace. -/
theorem delivered_compile {α : Type} (body : StateM Trace α) (s : Session) :
    Delivered s ((body.run ⟨s.registry, []⟩).2.events.map .event) [] ((compile body).run s).2 ∧
      ((compile body).run s).2.registry = (body.run ⟨s.registry, []⟩).2.registry :=
  ⟨delivered_recorded _ rfl rfl, (run_compile body s).2.1⟩

/-- A call delivers its marks, and leaves the registry that goes with them. -/
theorem Call.delivered_run (call : Call) (s : Session) :
    Delivered s (call.marks s.registry).1 [] (call.run s) ∧
      (call.run s).registry = (call.marks s.registry).2 := by
  cases call with
  | register e =>
    rw [run, run_register, marks]
    cases s.registry.register e with
    | ok registry => exact ⟨delivered_nothing rfl rfl, rfl⟩
    | error err => exact ⟨delivered_nothing rfl rfl, rfl⟩
  | compilePredicate entity config e => exact delivered_compile _ s
  | compileOperand entity config e => exact delivered_compile _ s
  | keep name owner member => exact ⟨delivered_nothing rfl rfl, rfl⟩
  | resolve name =>
    rw [run, run_resolveKept]
    cases s.kept.lookup name <;> exact ⟨delivered_nothing rfl rfl, rfl⟩
  | compute t row =>
    let event := Event.evaluate (t.evaluate s.registry row).isOk
    exact ⟨delivered_recorded [event] rfl rfl, registry_recorded s event⟩

mutual

/-- An act delivers its marks, and leaves the registry that goes with them. -/
theorem Act.delivered_perform : ∀ (act : Act) (s : Session),
    Delivered s (act.marks s.registry).1 (act.perform.run s).1 (act.perform.run s).2 ∧
      (act.perform.run s).2.registry = (act.marks s.registry).2
  | .call call, s => call.delivered_run s
  | .computeOperand o row, s => ⟨delivered_nothing rfl rfl, rfl⟩
  | .compare requested made, s => by
    have hrun : ((Act.compare requested made).perform.run s).2 =
        (Comparison.change? requested made).toList.foldl recorded s := by
      simp only [Act.perform, Session.compare]
      cases Comparison.change? requested made <;> rfl
    rw [hrun]
    exact ⟨delivered_recorded _ rfl rfl, (foldl_recorded _ s).1⟩
  | .reset, s => ⟨⟨rfl, (deliver_nil s.scopes).symm, fun past _ => rfl⟩, rfl⟩
  | .scope body, s => by
    -- the acts of the scope deliver to it, and it is closed after them
    obtain ⟨hdelivered, hregistry⟩ :=
      delivered_performAll body { s with scopes := [] :: s.scopes }
    exact ⟨hdelivered.scope, hregistry⟩

/-- Acts deliver their marks, and leave the registry that goes with them. -/
theorem delivered_performAll : ∀ (acts : List Act) (s : Session),
    Delivered s (marksOf acts s.registry).1 ((performAll acts).run s).1
        ((performAll acts).run s).2 ∧
      ((performAll acts).run s).2.registry = (marksOf acts s.registry).2
  | [], s => ⟨delivered_nothing rfl rfl, rfl⟩
  | act :: acts, s => by
    obtain ⟨hfirst, hregistry⟩ := act.delivered_perform s
    obtain ⟨hrest, hregistry'⟩ := delivered_performAll acts (act.perform.run s).2
    rw [hregistry] at hrest hregistry'
    exact ⟨hfirst.trans hrest, hregistry'⟩

end

/-! ### Single calls -/

/-- Under a new scope a compilation returns what it returns without, and the scope captures the
events of its trace. -/
theorem captured_compile {α : Type} (body : StateM Trace α) (s : Session) :
    ((captured (compile body)).run s).1 =
      (((compile body).run s).1, (body.run ⟨s.registry, []⟩).2.events) := by
  have hrecorded := recorded_eq (body.run ⟨s.registry, []⟩).2.events
    { s with registry := (body.run ⟨s.registry, []⟩).2.registry, scopes := [] :: s.scopes }
  -- the new scope is the innermost one and was empty
  have hscopes := congrArg Session.scopes hrecorded
  exact Prod.ext rfl (congrArg (fun scopes : List (List Event) => scopes.head?.getD []) hscopes)

/-- A compilation in a session reports itself once, after everything else that it reports. -/
theorem captured_overEntity {α : Type} {x : Compilation α} (hx : Compilation.Rewrites x)
    (entity : Entity) (s : Session) :
    ∃ rewrites, (∀ e ∈ rewrites, e.IsRewriting) ∧
      ((captured (compile (Compilation.overEntity entity x))).run s).1 =
        (((compile (Compilation.overEntity entity x)).run s).1, rewrites ++
          [.compile entity.path ((compile (Compilation.overEntity entity x)).run s).1.isOk]) := by
  obtain ⟨rewrites, hrewriting, hevents⟩ :=
    Compilation.events_overEntity hx entity ⟨s.registry, []⟩
  refine ⟨rewrites, hrewriting, ?_⟩
  rw [captured_compile, hevents, (run_compile _ s).1]
  rfl

/-- Making a comparison under a new scope gives what is made, and the scope captures the change. -/
theorem captured_compare (requested : Comparator) (made : Except Error Comparison) (s : Session) :
    ((captured (Session.compare requested made)).run s).1 =
      (made, (Comparison.change? requested made).toList) := by
  simp only [Session.compare]
  cases Comparison.change? requested made <;> rfl

/-! ### The theorem -/

/-- Whatever is done in a session whose counters count some events: its scopes capture what stands
directly in them, the innermost scope that was open before receives what stands in none of them, and
these are all events; after a scope the scopes from before it are open. Each counter tells how many
of its events occurred outside any scope since the last reset, up to the greatest count; below it
the counters of the entity paths add up to those over all; and no more events fail than occur. A
compilation reports itself exactly once, after rewritings only, with its success; the evaluation of
a term reports exactly one event; the evaluation of an operand reports none; and making a comparison
reports one change if what is made has another comparator than asked for, and nothing otherwise. -/
theorem run_performAll {s : Session} {past : List Event} (hpast : s.counters = .ofEvents past)
    (acts : List Act) :
    let marks := (marksOf acts s.registry).1
    let done := (performAll acts).run s
    let counted := Mark.sinceReset s.scopes.isEmpty past marks
    done.1 = Mark.capturesOf marks ∧
      done.2.scopes = deliver s.scopes (Mark.direct marks) ∧
      (Mark.eventsOf marks).Perm (Mark.direct marks ++ (Mark.capturesOf marks).flatten) ∧
      (∀ k : Counter, done.2.counters.get k = min (counted.countP k.counts) Counters.limit) ∧
      (counted.countP Counter.compilations.counts ≤ Counters.limit →
        done.2.counters.total EntityCounters.compilations = done.2.counters.compilations ∧
          done.2.counters.total EntityCounters.errors = done.2.counters.compilationErrors) ∧
      (done.2.counters.compilationErrors ≤ done.2.counters.compilations ∧
        done.2.counters.evaluationErrors ≤ done.2.counters.evaluations ∧
        ∀ path, (done.2.counters.entity path).errors ≤
          (done.2.counters.entity path).compilations) ∧
      ∀ s' : Session,
        (∀ body, ((Act.scope body).perform.run s').2.scopes = s'.scopes) ∧
        (∀ entity config e, ∃ rewrites, (∀ event ∈ rewrites, event.IsRewriting) ∧
          ((captured (Session.compilePredicate entity config e)).run s').1 =
            (((Session.compilePredicate entity config e).run s').1, rewrites ++
              [.compile entity.path
                ((Session.compilePredicate entity config e).run s').1.isOk])) ∧
        (∀ entity config e, ∃ rewrites, (∀ event ∈ rewrites, event.IsRewriting) ∧
          ((captured (Session.compileOperand entity config e)).run s').1 =
            (((Session.compileOperand entity config e).run s').1, rewrites ++
              [.compile entity.path
                ((Session.compileOperand entity config e).run s').1.isOk])) ∧
        (∀ t row, ((captured (Session.compute t row)).run s').1 =
          (t.evaluate s'.registry row, [.evaluate (t.evaluate s'.registry row).isOk])) ∧
        (∀ o row, ((captured (Session.computeOperand o row)).run s').1 =
          (o.evaluate s'.registry row, [])) ∧
        ∀ requested made, ∃ change : Option Event,
          ((captured (Session.compare requested made)).run s').1 = (made, change.toList) ∧
          ∀ event, change = some event ↔ ∃ c, made = .ok c ∧ c.comparator ≠ requested ∧
            event = .canonicalized requested c.comparator := by
  intro marks done counted
  have hdelivered := (delivered_performAll acts s).1
  have hcounters : done.2.counters = .ofEvents counted := hdelivered.counters_eq past hpast
  refine ⟨hdelivered.taken_eq, hdelivered.scopes_eq, Mark.eventsOf_perm marks, ?_, ?_, ?_, ?_⟩
  · intro k
    rw [hcounters, Counters.get_ofEvents]
  · intro hlimit
    -- a failed compilation is a compilation, so their counter stays below the greatest count too
    have herrors : counted.countP Counter.compilationErrors.counts ≤ Counters.limit := by
      refine Nat.le_trans (List.countP_mono_left fun e _ h => ?_) hlimit
      cases e <;> first | rfl | cases h
    rw [hcounters]
    exact ⟨Counters.splits_compilations.total_eq counted hlimit,
      Counters.splits_compilationErrors.total_eq counted herrors⟩
  · rw [hcounters]
    exact Counters.errors_le counted
  · intro s'
    refine ⟨fun body => ?_, fun entity config e => ?_, fun entity config e => ?_,
      fun t row => rfl, fun o row => rfl, fun requested made => ?_⟩
    · have hscope := ((Act.scope body).delivered_perform s').1.scopes_eq
      exact hscope.trans (deliver_nil s'.scopes)
    · exact captured_overEntity Compilation.rewrites_lower.1 entity s'
    · exact captured_overEntity Compilation.rewrites_lower.2 entity s'
    · exact ⟨_, captured_compare requested made s', fun _ => Comparison.change?_eq_some_iff⟩

/-- A compilation that folds a constant, two scopes of which one is inside the other, and an
evaluation outside of both. -/
theorem run_performAll_nested :
    let person : Entity := ⟨"Person", "person", [⟨"name", .text, false⟩]⟩
    let one : Term := .literal (.int 1) true
    let row := Row.ofList []
    let e : Expr := .binary .less (.constant (.int 1)) (.constant (.int 2))
    let acts : List Act := [.call (.compilePredicate person .default e),
      .scope [.call (.compute one row),
        .scope [.call (.compute (.member (.named "person" "age")) row)]],
      .call (.compute one row)]
    let done := (performAll acts).run empty
    empty.counters = .ofEvents [] ∧ done.1 = [[.evaluate false], [.evaluate true]] ∧
      done.2.scopes = [] ∧ done.2.counters.get .compilations = 1 ∧
      done.2.counters.get .constantFolds = 1 ∧ done.2.counters.get .evaluations = 1 ∧
      done.2.counters.get .evaluationErrors = 0 := by
  intro person one row e acts done
  have hempty : empty.counters = .ofEvents [] := rfl
  obtain ⟨hcaptured, hscopes, -, hcounters, -⟩ := run_performAll hempty acts
  refine ⟨hempty, hcaptured, hscopes, ?_, ?_, ?_, ?_⟩
  · exact (hcounters .compilations).trans rfl
  · exact (hcounters .constantFolds).trans rfl
  · exact (hcounters .evaluations).trans rfl
  · exact (hcounters .evaluationErrors).trans rfl

end Session

end RowFilter
