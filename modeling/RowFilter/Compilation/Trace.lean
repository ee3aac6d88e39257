import RowFilter.Config.Basic
import RowFilter.Entity.Registry
import RowFilter.Expr.Basic
import RowFilter.Metrics.Event
import RowFilter.Term.Kind

/-!
# Effects of the compilation

A compilation binds entities in the registry and reports events, and keeps both when it fails. The
operations of this module are the only ones of the compilation that touch the trace.
-/

namespace RowFilter

/-- What a compilation leaves behind, whether it succeeds or not. -/
structure Trace where
  /-- The registered entities. -/
  registry : Registry
  /-- The reported events, oldest first. -/
  events : List Event

/-- A computation of the compilation. -/
abbrev Compilation (α : Type) := ExceptT Error (StateM Trace) α

namespace Compilation

/-- Report an event. -/
def report (e : Event) : Compilation Unit :=
  modify fun t => { t with events := t.events ++ [e] }

/-- Bind an entity to its path. -/
def register (e : Entity) : Compilation Unit := do
  match (← get).registry.register e with
  | .ok registry => modify fun t => { t with registry }
  | .error err => throw err

/-- A result that does not touch the trace. -/
def ofExcept {α : Type} : Except Error α → Compilation α
  | .ok a => pure a
  | .error err => throw err

/-- Kind of a term. -/
def kindOf (t : Term) : Compilation Kind := do
  ofExcept (t.kind (← get).registry)

/-- A folded constant. -/
def folded (v : Value) : Compilation Operand := do
  report .constantFold
  return .value v

/-- A folded predicate. -/
def foldedTo (b : Bool) : Compilation (Option Predicate) := do
  report .constantFold
  return some (.shortCircuit b)

/-- Keep a comparison that was made for a requested comparator, and report a change. -/
def compared (requested : Comparator) (made : Except Error Comparison) :
    Compilation Comparison := do
  match Comparison.change? requested made with
  | some e => report e
  | none => pure ()
  ofExcept made

end Compilation

end RowFilter
