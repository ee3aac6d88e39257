import RowFilter.Metrics.Event
import RowFilter.SortedMap

/-!
# Counters

How often each kind of event occurred, over all and for each entity path. A count is a number of 64
bits and stays at the greatest of them.
-/

namespace RowFilter

/-- Compilations of one entity. -/
structure EntityCounters where
  /-- All compilations. -/
  compilations : Nat
  /-- Compilations that failed. -/
  errors : Nat
deriving DecidableEq, Repr

/-- How often each kind of event occurred. -/
structure Counters where
  /-- All compilations. -/
  compilations : Nat
  /-- Compilations that failed. -/
  compilationErrors : Nat
  /-- Constants folded. -/
  constantFolds : Nat
  /-- Comparisons whose sides changed places. -/
  comparatorReversals : Nat
  /-- Comparisons made with another comparator. -/
  canonicalizations : Nat
  /-- All evaluations. -/
  evaluations : Nat
  /-- Evaluations that failed. -/
  evaluationErrors : Nat
  /-- Compilations by entity path, in ascending order. -/
  entities : List (String × EntityCounters)
deriving DecidableEq, Repr

namespace Counters

/-- No event has occurred. -/
def zero : Counters := ⟨0, 0, 0, 0, 0, 0, 0, []⟩

instance : Inhabited Counters := ⟨zero⟩

/-- The greatest count. -/
def limit : Nat := UInt64.size - 1

/-- The count after another event. -/
def next (n : Nat) : Nat := min (n + 1) limit

/-- The count of failures after another outcome. -/
def nextUnless (ok : Bool) (n : Nat) : Nat := if ok then n else next n

/-- Counters of an entity path. -/
def entity (c : Counters) (path : String) : EntityCounters :=
  (SortedMap.find? c.entities path).getD ⟨0, 0⟩

/-- Count an event. -/
def record (c : Counters) : Event → Counters
  | .compile path ok =>
    let e := c.entity path
    { c with
      compilations := next c.compilations
      compilationErrors := nextUnless ok c.compilationErrors
      entities :=
        SortedMap.insert c.entities path ⟨next e.compilations, nextUnless ok e.errors⟩ }
  | .constantFold => { c with constantFolds := next c.constantFolds }
  | .comparatorReversal => { c with comparatorReversals := next c.comparatorReversals }
  | .canonicalized _ _ => { c with canonicalizations := next c.canonicalizations }
  | .evaluate ok =>
    { c with
      evaluations := next c.evaluations
      evaluationErrors := nextUnless ok c.evaluationErrors }

end Counters

end RowFilter
