import RowFilter.Cache
import RowFilter.Proofs.Cache.SortedMap

/-!
# Steps of a cache

`Cache.Step` lists what callers do to a cache, and `Cache.step` says what each step answers and
leaves. A call that builds what is missing has two halves: it looks its predicate up, and if nothing
is found it stores what it has built. Steps of other callers may come between the two, so the halves
are steps of their own; `Cache.step_tryGetOrInsert` shows that a call with nothing between its halves
is one half and then the other.

What can happen is listed twice: `Cache.Inserted` for an insertion, which is all that changes the
entries, and `Cache.Stepped` for a step. Whatever holds of steps is proved by cases on the two.
-/

namespace RowFilter

namespace Cache

variable {ν ε : Type}

/-! ### Looking up and inserting -/

/-- All that an insertion can do: keep the entry that is there, add one where there is room, or add
one in place of the lowest. -/
inductive Inserted (c : Cache ν) (key : Fingerprint) (v : ν) : ν × Cache ν → Prop
  | kept {old : ν} (h : c.find? key = some old) : Inserted c key v (old, c)
  | added (h : c.find? key = none) (hroom : c.size < c.capacity) :
      Inserted c key v (v, { c with entries := SortedMap.insert c.entries key v })
  | evicted {e : Fingerprint × ν} {rest : List (Fingerprint × ν)} (h : c.find? key = none)
      (hfull : c.capacity ≤ c.size) (hentries : c.entries = e :: rest) :
      Inserted c key v (v, { c with entries := SortedMap.insert rest key v })

/-- A cache has room for an entry, its entries are within its capacity, and they are in the order of
their fingerprints. -/
structure Valid (c : Cache ν) : Prop where
  capacity_pos : 1 ≤ c.capacity
  size_le : c.size ≤ c.capacity
  sorted : SortedMap.Sorted c.entries

/-- An insertion does what `Inserted` lists. -/
theorem inserted_insert {c : Cache ν} (hpos : 1 ≤ c.capacity) (key : Fingerprint) (v : ν) :
    Inserted c key v (c.insert key v) := by
  rw [insert]
  split
  next old h => exact .kept h
  next h =>
    by_cases hfull : c.capacity ≤ c.size
    · rw [if_pos hfull]
      cases hentries : c.entries with
      | nil =>
        -- a full cache is not empty
        rw [size, hentries, List.length_nil] at hfull
        omega
      | cons e rest => exact .evicted h hfull hentries
    · rw [if_neg hfull]
      exact .added h (Nat.lt_of_not_le hfull)

/-- Insertions are not counted, and leave the capacity. -/
theorem insert_counts (c : Cache ν) (key : Fingerprint) (v : ν) :
    (c.insert key v).2.hits = c.hits ∧ (c.insert key v).2.misses = c.misses ∧
      (c.insert key v).2.capacity = c.capacity := by
  unfold insert
  split <;> exact ⟨rfl, rfl, rfl⟩

/-- An entry that is there already is answered and stays as it is. -/
theorem insert_of_find? {c : Cache ν} {key : Fingerprint} {old : ν} (h : c.find? key = some old)
    (v : ν) : c.insert key v = (old, c) := by
  rw [insert, h]

/-- A new entry is answered. -/
theorem insert_answer_of_find?_none {c : Cache ν} {key : Fingerprint} (h : c.find? key = none)
    (v : ν) : (c.insert key v).1 = v := by
  rw [insert, h]

/-- A fingerprint is the lowest of a cache. -/
def IsLowest (c : Cache ν) (k : Fingerprint) : Prop :=
  ∀ e ∈ c.entries, e.1 ≠ k → compare k e.1 = .lt

namespace Inserted

variable {c : Cache ν} {key : Fingerprint} {v : ν} {r : ν × Cache ν}

/-- What is answered is found under the key afterwards. -/
theorem find?_self (h : Inserted c key v r) : r.2.find? key = some r.1 := by
  cases h with
  | kept h => exact h
  | added _ _ => exact SortedMap.find?_insert_self c.entries key v
  | @evicted _ rest _ _ _ => exact SortedMap.find?_insert_self rest key v

/-- The entries afterwards are the new one and old ones. -/
theorem mem_entries (h : Inserted c key v r) {e : Fingerprint × ν} (he : e ∈ r.2.entries) :
    e = (key, v) ∨ e ∈ c.entries := by
  cases h with
  | kept _ => exact Or.inr he
  | added _ _ => exact SortedMap.mem_insert he
  | @evicted d rest _ _ hentries =>
    rcases SortedMap.mem_insert he with rfl | he
    · exact Or.inl rfl
    · right
      rw [hentries]
      exact List.mem_cons_of_mem d he

/-- An entry survives, unless a new key comes into a full cache of which it has the lowest. -/
theorem find?_cases (h : Inserted c key v r) (hvalid : c.Valid) {k : Fingerprint} {w : ν}
    (hw : c.find? k = some w) :
    r.2.find? k = some w ∨ (c.find? key = none ∧ c.size = c.capacity ∧ c.IsLowest k) := by
  cases h with
  | kept _ => exact Or.inl hw
  | added hnone _ =>
    -- the new key is not the one that was there
    have hne : key ≠ k := by
      rintro rfl
      rw [hnone] at hw
      cases hw
    left
    rw [find?] at hw ⊢
    rw [SortedMap.find?_insert_of_ne hne, hw]
  | @evicted e rest hnone hfull hentries =>
    have hne : key ≠ k := by
      rintro rfl
      rw [hnone] at hw
      cases hw
    -- only the first entry has gone, and in order the first is the lowest
    by_cases hfirst : e.1 = k
    · right
      refine ⟨hnone, Nat.le_antisymm hvalid.size_le hfull, ?_⟩
      have hsorted := hvalid.sorted
      rw [hentries] at hsorted
      rw [IsLowest, hentries]
      intro d hd hdk
      rcases List.mem_cons.mp hd with rfl | hd
      · exact absurd hfirst hdk
      · exact hfirst ▸ (List.pairwise_cons.mp hsorted).1 d hd
    · left
      rw [find?, hentries, SortedMap.find?_cons_of_ne hfirst] at hw
      rw [find?, SortedMap.find?_insert_of_ne hne, hw]

/-- An insertion keeps a cache valid. -/
theorem valid (h : Inserted c key v r) (hvalid : c.Valid) : r.2.Valid := by
  have hsorted := hvalid.sorted
  have hsize := hvalid.size_le
  cases h with
  | kept _ => exact hvalid
  | added hnone hroom =>
    refine ⟨hvalid.capacity_pos, ?_, SortedMap.sorted_insert hsorted key v⟩
    have hlength := SortedMap.length_insert hnone v
    rw [size] at hroom
    change (SortedMap.insert c.entries key v).length ≤ c.capacity
    omega
  | @evicted e rest hnone hfull hentries =>
    rw [hentries] at hsorted
    rw [size, hentries, List.length_cons] at hsize
    refine ⟨hvalid.capacity_pos, ?_,
      SortedMap.sorted_insert (List.pairwise_cons.mp hsorted).2 key v⟩
    -- one entry has gone and one has come
    have hrest : SortedMap.find? rest key = none := by
      rw [find?, hentries] at hnone
      by_cases he : e.1 = key
      · subst he
        rw [SortedMap.find?_cons_self] at hnone
        cases hnone
      · rwa [SortedMap.find?_cons_of_ne he] at hnone
    have hlength := SortedMap.length_insert hrest v
    change (SortedMap.insert rest key v).length ≤ c.capacity
    omega

end Inserted

/-- What an insertion answers is found under its key afterwards. -/
theorem find?_insert_self {c : Cache ν} (hpos : 1 ≤ c.capacity) (key : Fingerprint) (v : ν) :
    (c.insert key v).2.find? key = some (c.insert key v).1 :=
  (inserted_insert hpos key v).find?_self

/-- An insertion keeps a cache valid. -/
theorem Valid.insert {c : Cache ν} (h : c.Valid) (key : Fingerprint) (v : ν) :
    (c.insert key v).2.Valid := (inserted_insert h.capacity_pos key v).valid h

/-- Clearing keeps a cache valid. -/
theorem Valid.clear {c : Cache ν} (h : c.Valid) : c.clear.Valid :=
  ⟨h.capacity_pos, Nat.zero_le _, List.Pairwise.nil⟩

/-- A new cache is valid. -/
theorem valid_withCapacity (capacity : Nat) : (withCapacity capacity : Cache ν).Valid :=
  ⟨Nat.le_max_right _ _, Nat.zero_le _, List.Pairwise.nil⟩

/-! ### Steps -/

/-- What a caller does to a cache. -/
inductive Step (ν ε : Type) where
  /-- Look up a fingerprint. -/
  | get (key : Fingerprint)
  /-- Add a value under a fingerprint. -/
  | insert (key : Fingerprint) (v : ν)
  /-- Answer the entry of a predicate, built if it is missing. -/
  | getOrInsert (p : Predicate) (build : Predicate → ν)
  /-- Answer the entry of a predicate, built if it is missing, where building may fail. -/
  | tryGetOrInsert (p : Predicate) (build : Predicate → Except ε ν)
  /-- The first half of such a call: look up the predicate. -/
  | lookup (p : Predicate)
  /-- The second half of a call that has found nothing: build, and store what was built. -/
  | store (p : Predicate) (build : Predicate → Except ε ν)
  /-- Drop all entries and counts. -/
  | clear

/-- The second half of a call that has found nothing. -/
def store (c : Cache ν) (p : Predicate) (build : Predicate → Except ε ν) : Except ε ν × Cache ν :=
  match build p with
  | .error e => (.error e, c)
  | .ok v => (.ok (c.insert p.fingerprint v).1, (c.insert p.fingerprint v).2)

/-- What a step answers, if it answers anything, and the cache that it leaves. -/
def step (c : Cache ν) : Step ν ε → Option (Except ε ν) × Cache ν
  | .get key => ((c.get key).1.map .ok, (c.get key).2)
  | .insert key v => (some (.ok (c.insert key v).1), (c.insert key v).2)
  | .getOrInsert p build => (some (.ok (c.getOrInsert p build).1.answer), (c.getOrInsert p build).2)
  | .tryGetOrInsert p build =>
    (some (c.tryGetOrInsert p build).1.answer, (c.tryGetOrInsert p build).2)
  | .lookup p => ((c.get p.fingerprint).1.map .ok, (c.get p.fingerprint).2)
  | .store p build => (some (c.store p build).1, (c.store p build).2)
  | .clear => (none, c.clear)

/-- A call is its first half and, if that has found nothing, its second. -/
theorem step_tryGetOrInsert (c : Cache ν) (p : Predicate) (build : Predicate → Except ε ν) :
    c.step (.tryGetOrInsert p build) =
      match c.step (.lookup p : Step ν ε) with
      | (some answer, c) => (some answer, c)
      | (none, c) => c.step (.store p build) := by
  rw [step, step, tryGetOrInsert]
  cases hget : c.get p.fingerprint with
  | mk found c' =>
    cases found with
    | some v => rfl
    | none =>
      simp only [step, store, Option.map_none]
      cases build p <;> rfl

/-- A call whose builder does not fail is one whose builder may. -/
theorem step_getOrInsert (c : Cache ν) (p : Predicate) (build : Predicate → ν) :
    c.step (.getOrInsert p build : Step ν ε) =
      c.step (.tryGetOrInsert p fun q => .ok (build q)) := by
  rw [step, step, getOrInsert, tryGetOrInsert]
  cases hget : c.get p.fingerprint with
  | mk found c' => cases found <;> rfl

namespace Step

/-- The fingerprint that a step looks up, if it looks one up. -/
def key? : Step ν ε → Option Fingerprint
  | get key => some key
  | getOrInsert p _ | tryGetOrInsert p _ | lookup p => some p.fingerprint
  | insert _ _ | store _ _ | clear => none

/-- What a step builds once it has looked up and found nothing, if it builds anything. -/
def built? : Step ν ε → Option (Except ε ν)
  | getOrInsert p build => some (.ok (build p))
  | tryGetOrInsert p build => some (build p)
  | get _ | insert _ _ | lookup _ | store _ _ | clear => none

end Step

/-- All that a step can do, with what it answers and the cache that it leaves. -/
inductive Stepped (c : Cache ν) : Step ν ε → Option (Except ε ν) → Cache ν → Prop
  /-- An entry is found. -/
  | hit {s : Step ν ε} {key : Fingerprint} {v : ν} (hkey : s.key? = some key)
      (h : c.find? key = some v) : Stepped c s (some (.ok v)) { c with hits := c.hits + 1 }
  /-- None is found, and none is to be built. -/
  | miss {s : Step ν ε} {key : Fingerprint} (hkey : s.key? = some key) (h : c.find? key = none)
      (hbuilt : s.built? = none) : Stepped c s none { c with misses := c.misses + 1 }
  /-- None is found, and building one fails. -/
  | failed {s : Step ν ε} {key : Fingerprint} {e : ε} (hkey : s.key? = some key)
      (h : c.find? key = none) (hbuilt : s.built? = some (.error e)) :
      Stepped c s (some (.error e)) { c with misses := c.misses + 1 }
  /-- None is found, and one is built and added. -/
  | built {s : Step ν ε} {key : Fingerprint} {v : ν} (hkey : s.key? = some key)
      (h : c.find? key = none) (hbuilt : s.built? = some (.ok v)) :
      Stepped c s (some (.ok v)) (({ c with misses := c.misses + 1 } : Cache ν).insert key v).2
  /-- A value is added, unless there is an entry. -/
  | inserted (key : Fingerprint) (v : ν) :
      Stepped c (.insert key v) (some (.ok (c.insert key v).1)) (c.insert key v).2
  /-- The second half of a call fails to build. -/
  | storeFailed {p : Predicate} {build : Predicate → Except ε ν} {e : ε} (h : build p = .error e) :
      Stepped c (.store p build) (some (.error e)) c
  /-- The second half of a call adds what it has built, unless there is an entry by now. -/
  | stored {p : Predicate} {build : Predicate → Except ε ν} {v : ν} (h : build p = .ok v) :
      Stepped c (.store p build) (some (.ok (c.insert p.fingerprint v).1))
        (c.insert p.fingerprint v).2
  /-- The cache is cleared. -/
  | cleared : Stepped c .clear none c.clear

/-- Looking up counts a hit or a miss and answers what is found. -/
theorem get_eq (c : Cache ν) (key : Fingerprint) :
    c.get key =
      match c.find? key with
      | some v => (some v, { c with hits := c.hits + 1 })
      | none => (none, { c with misses := c.misses + 1 }) := rfl

/-- The first half of a call answers the entry that is there. -/
theorem step_lookup_answer (c : Cache ν) (p : Predicate) :
    (c.step (.lookup p : Step ν ε)).1 = (c.find? p.fingerprint).map .ok := by
  rw [step, get_eq]
  cases c.find? p.fingerprint <;> rfl

/-- A step that looks up and does not build finds an entry or misses one. -/
theorem stepped_get (c : Cache ν) {s : Step ν ε} {key : Fingerprint} (hkey : s.key? = some key)
    (hbuilt : s.built? = none) : Stepped c s ((c.get key).1.map .ok) (c.get key).2 := by
  rw [get_eq]
  cases hfind : c.find? key with
  | some v => exact .hit hkey hfind
  | none => exact .miss hkey hfind hbuilt

/-- A step that builds what is missing finds an entry, fails to build one, or adds it. -/
theorem stepped_tryGetOrInsert (c : Cache ν) {s : Step ν ε} {p : Predicate}
    {build : Predicate → Except ε ν} (hkey : s.key? = some p.fingerprint)
    (hbuilt : s.built? = some (build p)) :
    Stepped c s (c.step (.tryGetOrInsert p build)).1 (c.step (.tryGetOrInsert p build)).2 := by
  rw [step, tryGetOrInsert, get_eq]
  cases hfind : c.find? p.fingerprint with
  | some v => exact .hit hkey hfind
  | none =>
    cases hbuild : build p with
    | error e => exact .failed hkey hfind (hbuilt.trans (congrArg some hbuild))
    | ok v =>
      -- nothing was found, so what is answered is what was built
      have hmissed : ({ c with misses := c.misses + 1 } : Cache ν).find? p.fingerprint = none :=
        hfind
      have hanswer := insert_answer_of_find?_none hmissed v
      have hstepped := Stepped.built hkey hfind (hbuilt.trans (congrArg some hbuild))
      change Stepped c s (some (.ok (Cache.insert _ p.fingerprint v).1)) _
      rw [hanswer]
      exact hstepped

/-- A step does what `Stepped` lists. -/
theorem stepped_step (c : Cache ν) (s : Step ν ε) : Stepped c s (c.step s).1 (c.step s).2 := by
  cases s with
  | get key => exact c.stepped_get rfl rfl
  | insert key v => exact .inserted key v
  | getOrInsert p build =>
    rw [step_getOrInsert]
    exact c.stepped_tryGetOrInsert rfl rfl
  | tryGetOrInsert p build => exact c.stepped_tryGetOrInsert rfl rfl
  | lookup p => exact c.stepped_get rfl rfl
  | store p build =>
    cases hbuild : build p with
    | error e =>
      rw [step, store, hbuild]
      exact .storeFailed hbuild
    | ok v =>
      rw [step, store, hbuild]
      exact .stored hbuild
  | clear => exact .cleared

end Cache

end RowFilter
