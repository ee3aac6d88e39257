import RowFilter.Predicate.Comparison

/-!
# Events

What compilation, construction of comparisons and evaluation report about their work.
-/

namespace RowFilter

/-- A reported step. -/
inductive Event where
  /-- An expression over an entity was compiled, with success or not. -/
  | compile (path : String) (ok : Bool)
  /-- Constants were folded into one. -/
  | constantFold
  /-- The sides of a comparison changed places. -/
  | comparatorReversal
  /-- A comparison was made with another comparator than asked for. -/
  | canonicalized (requested made : Comparator)
  /-- A term was evaluated, with success or not. -/
  | evaluate (ok : Bool)
deriving DecidableEq, Repr

namespace Comparison

/-- The event of making a comparison: a change if its comparator is not the one asked for. -/
def change? (requested : Comparator) : Except Error Comparison → Option Event
  | .ok c => if c.comparator = requested then none else some (.canonicalized requested c.comparator)
  | .error _ => none

/-- Making a comparison is reported exactly if it is made with another comparator than asked for. -/
theorem change?_eq_some_iff {requested : Comparator} {made : Except Error Comparison}
    {event : Event} : change? requested made = some event ↔
      ∃ c, made = .ok c ∧ c.comparator ≠ requested ∧
        event = .canonicalized requested c.comparator := by
  cases made with
  | error err => exact iff_of_false nofun nofun
  | ok c =>
    rw [change?]
    constructor
    · intro h
      split at h
      next => cases h
      next hne => exact ⟨c, rfl, hne, (Option.some.inj h).symm⟩
    · rintro ⟨_, hc, hne, rfl⟩
      cases hc
      rw [if_neg hne]

end Comparison

end RowFilter
