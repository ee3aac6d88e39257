import RowFilter.Digest.Fingerprint
import RowFilter.SortedMap

/-!
# Cache of compiled predicates

A cache keeps what was built from a predicate under the predicate's fingerprint. It holds at most
its capacity; before a new fingerprint enters a full cache, the lowest one leaves it. Looking up
counts as a hit or a miss, and only that is counted. The two counts are natural numbers: that a
counter of 64 bits wraps after as many lookups is left out.
-/

namespace RowFilter

/-- A bounded map from fingerprints to what was built. -/
structure Cache (ν : Type) where
  /-- Most entries that are kept. -/
  capacity : Nat
  /-- The entries, by ascending fingerprint. -/
  entries : List (Fingerprint × ν)
  /-- Lookups that found an entry since the last clearing. -/
  hits : Nat
  /-- Lookups that found none since the last clearing. -/
  misses : Nat

namespace Cache

variable {ν ε : Type}

/-- The capacity where none is given. -/
def defaultCapacity : Nat := 4096

/-- The empty cache of a capacity; it holds at least one entry. -/
def withCapacity (capacity : Nat) : Cache ν :=
  { capacity := max capacity 1, entries := [], hits := 0, misses := 0 }

/-- Number of entries. -/
def size (c : Cache ν) : Nat := c.entries.length

/-- The entry under a fingerprint, without counting the lookup. -/
def find? (c : Cache ν) (key : Fingerprint) : Option ν := SortedMap.find? c.entries key

/-- Look up a fingerprint and count the lookup. -/
def get (c : Cache ν) (key : Fingerprint) : Option ν × Cache ν :=
  match c.find? key with
  | some v => (some v, { c with hits := c.hits + 1 })
  | none => (none, { c with misses := c.misses + 1 })

/-- Add an entry unless its fingerprint has one, and answer the entry that it has afterwards. -/
def insert (c : Cache ν) (key : Fingerprint) (v : ν) : ν × Cache ν :=
  match c.find? key with
  | some old => (old, c)
  | none =>
    let kept := if c.capacity ≤ c.size then c.entries.drop 1 else c.entries
    (v, { c with entries := SortedMap.insert kept key v })

/-- What an attempt to answer from the cache gave. -/
structure Outcome (α : Type) where
  /-- The answer. -/
  answer : α
  /-- Whether the builder ran. -/
  built : Bool

/-- The entry of a predicate, built if it is missing. A build that fails leaves nothing. -/
def tryGetOrInsert (c : Cache ν) (p : Predicate) (build : Predicate → Except ε ν) :
    Outcome (Except ε ν) × Cache ν :=
  match c.get p.fingerprint with
  | (some v, c) => (⟨.ok v, false⟩, c)
  | (none, c) =>
    match build p with
    | .error e => (⟨.error e, true⟩, c)
    | .ok v =>
      let (v, c) := c.insert p.fingerprint v
      (⟨.ok v, true⟩, c)

/-- The entry of a predicate, built if it is missing. -/
def getOrInsert (c : Cache ν) (p : Predicate) (build : Predicate → ν) : Outcome ν × Cache ν :=
  match c.get p.fingerprint with
  | (some v, c) => (⟨v, false⟩, c)
  | (none, c) =>
    let (v, c) := c.insert p.fingerprint (build p)
    (⟨v, true⟩, c)

/-- The cache without entries and counts. -/
def clear (c : Cache ν) : Cache ν := { c with entries := [], hits := 0, misses := 0 }

end Cache

end RowFilter
