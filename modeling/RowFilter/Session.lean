import RowFilter.Metrics.Counters
import RowFilter.Term.Evaluation
import RowFilter.Compilation.Basic

/-!
# Sessions

A session is what outlives a single call: the registered entities, the counters, the open scopes
that capture events, and member references that a caller keeps. An event goes to the innermost open
scope, or to the counters if no scope is open, and nowhere else.
-/

namespace RowFilter

/-- The state that calls share. -/
structure Session where
  /-- The registered entities. -/
  registry : Registry
  /-- The counters. -/
  counters : Counters
  /-- The events of the open scopes, innermost scope first, oldest event first. -/
  scopes : List (List Event)
  /-- The kept member references by name, latest first. -/
  kept : List (String × MemberRef)

/-- A computation of a session. -/
abbrev SessionM (α : Type) := StateM Session α

namespace Session

/-- The session in which nothing has happened. -/
def empty : Session := { registry := .empty, counters := .zero, scopes := [], kept := [] }

instance : Inhabited Session := ⟨empty⟩

/-- The session with an event recorded. -/
def recorded (s : Session) (e : Event) : Session :=
  match s.scopes with
  | scope :: outer => { s with scopes := (scope ++ [e]) :: outer }
  | [] => { s with counters := s.counters.record e }

/-- Record an event. -/
def record (e : Event) : SessionM Unit := modify (recorded · e)

/-- Bind an entity to its path. -/
def register (e : Entity) : SessionM (Except Error Unit) := do
  let s ← get
  match s.registry.register e with
  | .ok registry => do set { s with registry }; return .ok ()
  | .error err => return .error err

/-- Run a compilation over the session's registry, and record the events that it reports. -/
def compile {α : Type} (body : StateM Trace α) : SessionM α := do
  let s ← get
  let (a, trace) := body.run { registry := s.registry, events := [] }
  set (trace.events.foldl recorded { s with registry := trace.registry })
  return a

/-- Compile an expression into a predicate. -/
def compilePredicate (entity : Entity) (config : Config) (e : Expr) :
    SessionM (Except Error (Option Predicate)) :=
  compile (RowFilter.compilePredicate entity config e)

/-- Compile an expression into an operand. -/
def compileOperand (entity : Entity) (config : Config) (e : Expr) :
    SessionM (Except Error Operand) :=
  compile (RowFilter.compileOperand entity config e)

/-- Value of a term over a row; the evaluation is reported. -/
def compute (t : Term) (row : Row) : SessionM (Except Error Value) := do
  let outcome := t.evaluate (← get).registry row
  record (.evaluate outcome.isOk)
  return outcome

/-- Value of an operand over a row; nothing is reported. -/
def computeOperand (o : Operand) (row : Row) : SessionM (Except Error Value) := do
  return o.evaluate (← get).registry row

/-- Make a comparison for a requested comparator; a change is reported. -/
def compare (requested : Comparator) (made : Except Error Comparison) :
    SessionM (Except Error Comparison) := do
  match Comparison.change? requested made with
  | some e => record e
  | none => pure ()
  return made

/-- Run a computation under a new scope, and take the events that the scope captured. -/
def captured {α : Type} (body : SessionM α) : SessionM (α × List Event) := do
  modify fun s => { s with scopes := [] :: s.scopes }
  let a ← body
  let s ← get
  set { s with scopes := s.scopes.drop 1 }
  return (a, s.scopes.head?.getD [])

/-- Set all counters back to zero. -/
def resetCounters : SessionM Unit := modify fun s => { s with counters := .zero }

/-- Keep a member reference under a name. -/
def keep (name : String) (ref : MemberRef) : SessionM Unit :=
  modify fun s => { s with kept := (name, ref) :: s.kept }

/-- The reference kept under a name. -/
def kept? (name : String) : SessionM (Option MemberRef) := do
  return (← get).kept.lookup name

/-- Resolve a kept reference: it carries its field from now on, if the field is known. -/
def resolveKept (name : String) : SessionM (Option MemberRef) := do
  match ← kept? name with
  | none => return none
  | some ref =>
    let resolved := ref.resolved (← get).registry
    keep name resolved
    return some resolved

end Session

end RowFilter
