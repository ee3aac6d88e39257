import Mathlib.Data.List.Induction
import RowFilter.Metrics.Counters
import RowFilter.Proofs.Cache.SortedMap

/-!
# What the counters count

Counters that start at zero and record events one by one tell how often each kind of event occurred,
as far as a number of 64 bits can (`Counters.get_ofEvents`). So the counters of the entity paths add
up to the counters of all compilations, and no more events failed than occurred.
-/

namespace RowFilter

/-- The counters, those of an entity path included. -/
inductive Counter where
  | compilations
  | compilationErrors
  | constantFolds
  | comparatorReversals
  | canonicalizations
  | evaluations
  | evaluationErrors
  | entityCompilations (path : String)
  | entityErrors (path : String)

/-- The events that a counter counts. -/
def Counter.counts : Counter → Event → Bool
  | .compilations, .compile _ _ => true
  | .compilationErrors, .compile _ ok => !ok
  | .constantFolds, .constantFold => true
  | .comparatorReversals, .comparatorReversal => true
  | .canonicalizations, .canonicalized _ _ => true
  | .evaluations, .evaluate _ => true
  | .evaluationErrors, .evaluate ok => !ok
  | .entityCompilations path, .compile path' _ => path' == path
  | .entityErrors path, .compile path' ok => path' == path && !ok
  | _, _ => false

namespace Counters

/-- The count of a counter. -/
def get (c : Counters) : Counter → Nat
  | .compilations => c.compilations
  | .compilationErrors => c.compilationErrors
  | .constantFolds => c.constantFolds
  | .comparatorReversals => c.comparatorReversals
  | .canonicalizations => c.canonicalizations
  | .evaluations => c.evaluations
  | .evaluationErrors => c.evaluationErrors
  | .entityCompilations path => (c.entity path).compilations
  | .entityErrors path => (c.entity path).errors

/-- The counters after some events. -/
def ofEvents (events : List Event) : Counters := events.foldl record zero

/-- The sum of a count over all entity paths. -/
def total (c : Counters) (count : EntityCounters → Nat) : Nat :=
  SortedMap.weigh count c.entities

variable {c : Counters} {events : List Event} {n : Nat}

theorem ofEvents_append (events events' : List Event) :
    ofEvents (events ++ events') = events'.foldl record (ofEvents events) :=
  List.foldl_append

theorem ofEvents_concat (events : List Event) (e : Event) :
    ofEvents (events ++ [e]) = (ofEvents events).record e :=
  ofEvents_append events [e]

/-! ### Single counters -/

/-- A compilation counts for its own entity path. -/
theorem entity_record_compile (c : Counters) (path path' : String) (ok : Bool) :
    (c.record (.compile path' ok)).entity path =
      if path' = path then
        ⟨next (c.entity path).compilations, nextUnless ok (c.entity path).errors⟩
      else c.entity path := by
  rw [record, entity]
  by_cases hpath : path' = path
  · rw [if_pos hpath, hpath, SortedMap.find?_insert_self]
    rfl
  · rw [if_neg hpath, SortedMap.find?_insert_of_ne hpath]
    rfl

/-- An event adds one to the counters that count it. -/
theorem get_record (c : Counters) (e : Event) (k : Counter) :
    (c.record e).get k = if k.counts e then next (c.get k) else c.get k := by
  cases e with
  | compile path ok =>
    cases k with
    | compilationErrors => cases ok <;> rfl
    | entityCompilations path' =>
      simp only [get, entity_record_compile, Counter.counts, beq_iff_eq]
      split <;> rfl
    | entityErrors path' =>
      simp only [get, entity_record_compile, Counter.counts]
      by_cases hpath : path = path'
      · cases ok <;> simp [hpath, nextUnless]
      · simp [hpath]
    | _ => rfl
  | evaluate ok =>
    cases k with
    | evaluationErrors => cases ok <;> rfl
    | _ => rfl
  | _ => cases k <;> rfl

/-- A counter tells how many of the events it counts, up to the greatest count. -/
theorem get_ofEvents (events : List Event) (k : Counter) :
    (ofEvents events).get k = min (events.countP k.counts) limit := by
  induction events using List.reverseRecOn with
  | nil => cases k <;> rfl
  | append_singleton events e ih =>
    rw [ofEvents_concat, get_record, ih, List.countP_append, List.countP_singleton]
    split
    · -- a count that has reached the limit stays there
      rw [next]
      omega
    · rfl

/-- A counter that counts fewer events than another has no higher count. -/
theorem get_le_get (k k' : Counter) (h : ∀ e, k.counts e = true → k'.counts e = true)
    (events : List Event) : (ofEvents events).get k ≤ (ofEvents events).get k' := by
  rw [get_ofEvents, get_ofEvents]
  have hcount : events.countP k.counts ≤ events.countP k'.counts :=
    List.countP_mono_left fun e _ => h e
  omega

/-- No more events fail than occur, over all and for each entity path. -/
theorem errors_le (events : List Event) :
    (ofEvents events).compilationErrors ≤ (ofEvents events).compilations ∧
      (ofEvents events).evaluationErrors ≤ (ofEvents events).evaluations ∧
      ∀ path, ((ofEvents events).entity path).errors ≤
        ((ofEvents events).entity path).compilations := by
  refine ⟨get_le_get .compilationErrors .compilations (fun e h => ?_) events,
    get_le_get .evaluationErrors .evaluations (fun e h => ?_) events,
    fun path => get_le_get (.entityErrors path) (.entityCompilations path) (fun e h => ?_) events⟩
  · cases e <;> first | rfl | cases h
  · cases e <;> first | rfl | cases h
  · cases e with
    | compile path' ok => exact (Bool.and_eq_true_iff.mp h).1
    | _ => cases h

/-! ### Sums over the entity paths -/

/-- The paths of the counters are in order. -/
theorem sorted_entities (events : List Event) : SortedMap.Sorted (ofEvents events).entities := by
  induction events using List.reverseRecOn with
  | nil => exact .nil
  | append_singleton events e ih =>
    rw [ofEvents_concat]
    cases e with
    | compile path ok => exact SortedMap.sorted_insert ih path _
    | _ => exact ih

/-- A compilation changes the sum of a count by the change of the count of its own path. -/
theorem total_record_compile {count : EntityCounters → Nat} (hzero : count ⟨0, 0⟩ = 0)
    (h : SortedMap.Sorted c.entities) (path : String) (ok : Bool) :
    (c.record (.compile path ok)).total count + count (c.entity path) =
      c.total count +
        count ⟨next (c.entity path).compilations, nextUnless ok (c.entity path).errors⟩ := by
  have hsum := SortedMap.weigh_insert count h path
    ⟨next (c.entity path).compilations, nextUnless ok (c.entity path).errors⟩
  have hreplaced : (SortedMap.find? c.entities path).elim 0 count = count (c.entity path) := by
    rw [entity]
    cases SortedMap.find? c.entities path <;> simp [hzero]
  rw [hreplaced] at hsum
  exact hsum

/-- A counter that counts compilations is split by their entity paths. -/
structure Splits (k : Counter) (part : String → Counter) (count : EntityCounters → Nat) :
    Prop where
  /-- The part of a path is one of its counters. -/
  get_part : ∀ c path, get c (part path) = count (c.entity path)
  /-- The count of a path starts at zero. -/
  count_zero : count ⟨0, 0⟩ = 0
  /-- Only compilations are counted. -/
  exists_compile : ∀ e, k.counts e = true → ∃ path ok, e = .compile path ok
  /-- The part of a path counts nothing that is not counted over all. -/
  of_part : ∀ path e, (part path).counts e = true → k.counts e = true
  /-- It counts a compilation over its path if that is counted at all. -/
  part_compile : ∀ path ok, (part path).counts (.compile path ok) = k.counts (.compile path ok)

theorem splits_compilations :
    Splits .compilations .entityCompilations EntityCounters.compilations where
  get_part _ _ := rfl
  count_zero := rfl
  exists_compile e h := by cases e <;> first | exact ⟨_, _, rfl⟩ | cases h
  of_part path e h := by cases e <;> first | rfl | cases h
  part_compile path ok := beq_self_eq_true path

theorem splits_compilationErrors :
    Splits .compilationErrors .entityErrors EntityCounters.errors where
  get_part _ _ := rfl
  count_zero := rfl
  exists_compile e h := by cases e <;> first | exact ⟨_, _, rfl⟩ | cases h
  of_part path e h := by
    cases e with
    | compile path' ok => exact (Bool.and_eq_true_iff.mp h).2
    | _ => cases h
  part_compile path ok := by simp [Counter.counts]

namespace Splits

variable {k : Counter} {part : String → Counter} {count : EntityCounters → Nat}

/-- The count of a path goes on if the compilation is counted. -/
theorem count_next (h : Splits k part count) (c : Counters) (path : String) (ok : Bool) :
    count ⟨next (c.entity path).compilations, nextUnless ok (c.entity path).errors⟩ =
      if k.counts (.compile path ok) then next (count (c.entity path))
      else count (c.entity path) := by
  have hrecord := get_record c (.compile path ok) (part path)
  rw [h.get_part, h.get_part, entity_record_compile, if_pos rfl, h.part_compile] at hrecord
  exact hrecord

/-- The count of a path is at most the number of events that are counted over all. -/
theorem count_le (h : Splits k part count) (events : List Event) (path : String) :
    count ((ofEvents events).entity path) ≤ events.countP k.counts := by
  rw [← h.get_part, get_ofEvents]
  have hcount : events.countP (part path).counts ≤ events.countP k.counts :=
    List.countP_mono_left fun e _ => h.of_part path e
  omega

/-- As long as the counter over all has not reached the greatest count, it is the sum of those of
the entity paths. -/
theorem total_eq (h : Splits k part count) (events : List Event)
    (hlimit : events.countP k.counts ≤ limit) :
    (ofEvents events).total count = (ofEvents events).get k := by
  rw [get_ofEvents, Nat.min_eq_left hlimit]
  induction events using List.reverseRecOn with
  | nil => rfl
  | append_singleton events e ih =>
    rw [List.countP_append, List.countP_singleton] at hlimit ⊢
    rw [ofEvents_concat]
    have hrest := ih (by omega)
    by_cases hcounts : k.counts e = true
    · obtain ⟨path, ok, rfl⟩ := h.exists_compile e hcounts
      have htotal := total_record_compile h.count_zero (sorted_entities events) path ok
      rw [h.count_next, if_pos hcounts, next] at htotal
      rw [if_pos hcounts] at hlimit ⊢
      -- the count of the path is still below the greatest one
      have hpath := h.count_le events path
      omega
    · rw [if_neg hcounts]
      cases e with
      | compile path ok =>
        have htotal := total_record_compile h.count_zero (sorted_entities events) path ok
        rw [h.count_next, if_neg hcounts] at htotal
        omega
      | _ => exact hrest

end Splits

end Counters

end RowFilter
