import RowFilter.Compilation.Lowering

/-!
# Compilation of expressions

The entry points of the compilation. A compilation first binds its entity and, whatever its outcome,
reports one event of its own after all others.
-/

namespace RowFilter

namespace Compilation

/-- Run a compilation over an entity: bind the entity first and report the outcome last. -/
def overEntity {α : Type} (entity : Entity) (body : Compilation α) :
    StateM Trace (Except Error α) := do
  let outcome ← (do register entity; body : Compilation α).run
  modify fun t => { t with events := t.events ++ [.compile entity.path outcome.isOk] }
  return outcome

end Compilation

/-- Compile an expression over an entity into a predicate; `none` is no condition at all. -/
def compilePredicate (entity : Entity) (config : Config) (e : Expr) :
    StateM Trace (Except Error (Option Predicate)) :=
  Compilation.overEntity entity (Compilation.lowerPredicate config config.maxDepth entity e)

/-- Compile an expression over an entity into an operand. -/
def compileOperand (entity : Entity) (config : Config) (e : Expr) :
    StateM Trace (Except Error Operand) :=
  Compilation.overEntity entity (Compilation.lowerOperand config config.maxDepth entity e)

end RowFilter
