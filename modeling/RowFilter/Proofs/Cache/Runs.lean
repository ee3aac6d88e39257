import RowFilter.Proofs.Cache.Steps
import RowFilter.Proofs.Digest.Unresolved

/-!
# Runs of a cache

A run is any list of steps from a new cache. Whatever the steps, the cache stays valid, its counts
tell how often it was looked up since the last clearing, and an entry leaves it only for a new key
while it is full (`Cache.run_withCapacity`).

If all entries come from calls that build with one builder, then every entry is what the builder
gives for some predicate of the run with the fingerprint of the entry. As long as the digests tell
the streams of these predicates apart, a call answers what the builder gives for its own predicate.
-/

namespace RowFilter

namespace Cache

variable {ν ε : Type} {c c' : Cache ν} {s : Step ν ε} {answer : Option (Except ε ν)}

/-! ### What a step keeps -/

/-- Counting a lookup keeps a cache valid. -/
theorem Valid.counted (h : c.Valid) (hits misses : Nat) :
    ({ c with hits := hits, misses := misses } : Cache ν).Valid :=
  ⟨h.capacity_pos, h.size_le, h.sorted⟩

/-- Every step keeps a cache valid. -/
theorem Valid.stepped (h : c.Valid) (hstep : Stepped c s answer c') : c'.Valid := by
  cases hstep with
  | hit _ _ => exact h.counted _ _
  | miss _ _ _ => exact h.counted _ _
  | failed _ _ _ => exact h.counted _ _
  | built _ _ _ => exact (h.counted _ _).insert _ _
  | inserted key v => exact h.insert key v
  | storeFailed _ => exact h
  | stored _ => exact h.insert _ _
  | cleared => exact h.clear

/-- No step changes the capacity. -/
theorem Stepped.capacity_eq (hstep : Stepped c s answer c') : c'.capacity = c.capacity := by
  cases hstep with
  | built _ _ _ => exact (insert_counts _ _ _).2.2
  | inserted key v => exact (insert_counts c key v).2.2
  | stored _ => exact (insert_counts c _ _).2.2
  | _ => rfl

/-- How often a cache has been looked up since the last clearing, one step further. -/
def Step.countLookup (n : Nat) : Step ν ε → Nat
  | .get _ | .getOrInsert _ _ | .tryGetOrInsert _ _ | .lookup _ => n + 1
  | .insert _ _ | .store _ _ => n
  | .clear => 0

/-- A step that looks up a fingerprint is counted once. -/
theorem Step.countLookup_of_key? {key : Fingerprint} (h : s.key? = some key) (n : Nat) :
    s.countLookup n = n + 1 := by
  cases s <;> first | rfl | cases h

/-- Each lookup is counted as a hit or as a miss. -/
theorem Stepped.counts_eq (hstep : Stepped c s answer c') :
    c'.hits + c'.misses = s.countLookup (c.hits + c.misses) := by
  cases hstep with
  | hit hkey _ =>
    rw [Step.countLookup_of_key? hkey]
    exact Nat.add_right_comm c.hits 1 c.misses
  | miss hkey _ _ =>
    rw [Step.countLookup_of_key? hkey]
    rfl
  | failed hkey _ _ =>
    rw [Step.countLookup_of_key? hkey]
    rfl
  | @built _ key v hkey _ _ =>
    obtain ⟨hhits, hmisses, -⟩ :=
      insert_counts ({ c with misses := c.misses + 1 } : Cache ν) key v
    rw [hhits, hmisses, Step.countLookup_of_key? hkey]
    rfl
  | inserted key v =>
    obtain ⟨hhits, hmisses, -⟩ := insert_counts c key v
    rw [hhits, hmisses]
    rfl
  | storeFailed _ => rfl
  | @stored p _ v _ =>
    obtain ⟨hhits, hmisses, -⟩ := insert_counts c p.fingerprint v
    rw [hhits, hmisses]
    rfl
  | cleared => rfl

/-- A step from `c` to `c'` puts the entry of a new key into a full cache of which `k` is the
lowest. -/
def Evicts (c c' : Cache ν) (k : Fingerprint) : Prop :=
  c.size = c.capacity ∧ c.IsLowest k ∧
    ∃ key, c.find? key = none ∧ (c'.find? key).isSome = true

/-- An insertion keeps an entry unless it evicts it. -/
theorem find?_insert_or_evicts (hvalid : c.Valid) {k : Fingerprint} {w : ν} (key : Fingerprint)
    (v : ν) (h : c.find? k = some w) :
    (c.insert key v).2.find? k = some w ∨ c.Evicts (c.insert key v).2 k := by
  have hinserted := inserted_insert hvalid.capacity_pos key v
  rcases hinserted.find?_cases hvalid h with hkept | ⟨hnone, hfull, hlowest⟩
  · exact Or.inl hkept
  · refine Or.inr ⟨hfull, hlowest, key, hnone, ?_⟩
    rw [hinserted.find?_self]
    rfl

/-- An entry stays as it is, unless the cache is cleared or the entry is evicted. -/
theorem Stepped.find?_eq (hvalid : c.Valid) (hstep : Stepped c s answer c') {k : Fingerprint}
    {w : ν} (h : c.find? k = some w) :
    c'.find? k = some w ∨ s = .clear ∨ c.Evicts c' k := by
  cases hstep with
  | hit _ _ => exact Or.inl h
  | miss _ _ _ => exact Or.inl h
  | failed _ _ _ => exact Or.inl h
  | @built _ key v _ _ _ =>
    -- counting the miss leaves the entries, so what is evicted is evicted from `c`
    have hkept := find?_insert_or_evicts (hvalid.counted c.hits (c.misses + 1)) key v h
    exact hkept.imp_right Or.inr
  | inserted key v => exact (find?_insert_or_evicts hvalid key v h).imp_right Or.inr
  | storeFailed _ => exact Or.inl h
  | stored _ => exact (find?_insert_or_evicts hvalid _ _ h).imp_right Or.inr
  | cleared => exact Or.inr (Or.inl rfl)

/-! ### One builder -/

/-- The predicate that a step is a call for, or a half of a call for. -/
def Step.predicate? : Step ν ε → Option Predicate
  | .getOrInsert p _ | .tryGetOrInsert p _ | .lookup p | .store p _ => some p
  | .get _ | .insert _ _ | .clear => none

/-- A step adds no entry but one that the builder gives for the predicate of the step. -/
def Step.BuildsWith (f : Predicate → Except ε ν) : Step ν ε → Prop
  | .getOrInsert p build => f p = .ok (build p)
  | .tryGetOrInsert p build | .store p build => f p = build p
  | .insert _ _ => False
  | .get _ | .lookup _ | .clear => True

/-- Each entry is what the builder gives for one of the predicates, under its fingerprint. -/
def BuiltFrom (f : Predicate → Except ε ν) (ps : List Predicate) (c : Cache ν) : Prop :=
  ∀ e ∈ c.entries, ∃ p ∈ ps, p.fingerprint = e.1 ∧ f p = .ok e.2

section

variable {f : Predicate → Except ε ν} {ps : List Predicate}

/-- The builder gives what a step builds. -/
theorem Step.BuildsWith.of_built? {v : ν} {key : Fingerprint} (h : s.BuildsWith f)
    (hbuilt : s.built? = some (.ok v)) (hkey : s.key? = some key) :
    ∃ p, s.predicate? = some p ∧ p.fingerprint = key ∧ f p = .ok v := by
  cases s with
  | getOrInsert p build =>
    cases hkey
    exact ⟨p, rfl, rfl, h.trans (Option.some.inj hbuilt)⟩
  | tryGetOrInsert p build =>
    cases hkey
    exact ⟨p, rfl, rfl, h.trans (Option.some.inj hbuilt)⟩
  | _ => cases hbuilt

/-- Adding what the builder gives for one of the predicates keeps the entries built. -/
theorem BuiltFrom.insert (h : BuiltFrom f ps c) (hvalid : c.Valid) {p : Predicate} {v : ν}
    (hp : p ∈ ps) (hv : f p = .ok v) : BuiltFrom f ps (c.insert p.fingerprint v).2 := by
  intro e he
  rcases (inserted_insert hvalid.capacity_pos p.fingerprint v).mem_entries he with rfl | he
  · exact ⟨p, hp, rfl, hv⟩
  · exact h e he

/-- A step that builds with the builder keeps the entries built. -/
theorem BuiltFrom.stepped (h : BuiltFrom f ps c) (hvalid : c.Valid)
    (hstep : Stepped c s answer c') (hbuilds : s.BuildsWith f)
    (hps : ∀ p, s.predicate? = some p → p ∈ ps) : BuiltFrom f ps c' := by
  cases hstep with
  | hit _ _ => exact h
  | miss _ _ _ => exact h
  | failed _ _ _ => exact h
  | built hkey _ hbuilt =>
    obtain ⟨p, hp, rfl, hv⟩ := hbuilds.of_built? hbuilt hkey
    have hcounted : BuiltFrom f ps ({ c with misses := c.misses + 1 } : Cache ν) := h
    exact hcounted.insert (hvalid.counted _ _) (hps p hp) hv
  | inserted _ _ => exact hbuilds.elim
  | storeFailed _ => exact h
  | @stored p _ v hv => exact h.insert hvalid (hps p rfl) (hbuilds.trans hv)
  | cleared => nofun

/-- An entry that is found is what the builder gives for one of the predicates. -/
theorem BuiltFrom.of_find? (h : BuiltFrom f ps c) {key : Fingerprint} {v : ν}
    (hfind : c.find? key = some v) : ∃ q ∈ ps, q.fingerprint = key ∧ f q = .ok v :=
  h _ (SortedMap.mem_of_find? hfind)

/-- What a step answers for a predicate is what the builder gives for one of the predicates, with
the same fingerprint. -/
theorem BuiltFrom.of_answer (h : BuiltFrom f ps c) (hvalid : c.Valid) {v : ν}
    (hstep : Stepped c s (some (.ok v)) c') (hbuilds : s.BuildsWith f) {p : Predicate}
    (hp : s.predicate? = some p) (hps : p ∈ ps) :
    ∃ q ∈ ps, q.fingerprint = p.fingerprint ∧ f q = .ok v := by
  have hkey : ∀ key, s.key? = some key → key = p.fingerprint := by
    intro key hkey
    cases s <;> cases hp <;> cases hkey <;> rfl
  generalize hanswer : some (Except.ok v) = answer at hstep
  cases hstep with
  | hit hk hfind =>
    cases hanswer
    rw [hkey _ hk] at hfind
    exact h.of_find? hfind
  | miss _ _ _ => cases hanswer
  | failed _ _ _ => cases hanswer
  | built hk _ hbuilt =>
    cases hanswer
    obtain ⟨q, hq, -, hv⟩ := hbuilds.of_built? hbuilt hk
    rw [hp] at hq
    cases hq
    exact ⟨p, hps, rfl, hv⟩
  | inserted _ _ => cases hp
  | storeFailed _ => cases hanswer
  | @stored _ _ w hw =>
    cases hp
    cases hanswer
    -- what is answered is what stands under the fingerprint now
    have hbuiltFrom := h.insert hvalid hps (hbuilds.trans hw)
    exact hbuiltFrom.of_find? (find?_insert_self hvalid.capacity_pos p.fingerprint w)
  | cleared => cases hanswer

end

/-! ### Runs -/

/-- The cache after a list of steps. -/
def run (c : Cache ν) (steps : List (Step ν ε)) : Cache ν := steps.foldl (fun c s => (c.step s).2) c

/-- How often a cache has been looked up since the last clearing in a list of steps. -/
def lookups (steps : List (Step ν ε)) : Nat := steps.foldl Step.countLookup 0

/-- The predicates of a list of steps. -/
def predicates (steps : List (Step ν ε)) : List Predicate := steps.filterMap Step.predicate?

/-- The digests of predicates tell their streams apart. -/
def DigestsDiffer (ps : List Predicate) : Prop :=
  ∀ p ∈ ps, ∀ q ∈ ps, p.fingerprint = q.fingerprint → p.stream = q.stream

/-- A run keeps a cache valid. -/
theorem Valid.run (h : c.Valid) (steps : List (Step ν ε)) : (c.run steps).Valid := by
  induction steps generalizing c with
  | nil => exact h
  | cons s steps ih => exact ih (h.stepped (stepped_step c s))

/-- A run does not change the capacity. -/
theorem capacity_run (c : Cache ν) (steps : List (Step ν ε)) :
    (c.run steps).capacity = c.capacity := by
  induction steps generalizing c with
  | nil => rfl
  | cons s steps ih => exact (ih _).trans (stepped_step c s).capacity_eq

/-- The counts after a run go on from those before. -/
theorem counts_run (c : Cache ν) (steps : List (Step ν ε)) :
    (c.run steps).hits + (c.run steps).misses =
      steps.foldl Step.countLookup (c.hits + c.misses) := by
  induction steps generalizing c with
  | nil => rfl
  | cons s steps ih =>
    rw [List.foldl_cons, ← (stepped_step c s).counts_eq]
    exact ih _

/-- Clearing after a run leaves the new cache of the capacity. -/
theorem clear_run_withCapacity (capacity : Nat) (steps : List (Step ν ε)) :
    ((withCapacity capacity).run steps).clear = (withCapacity capacity : Cache ν) := by
  rw [clear, capacity_run]
  rfl

/-- A run of steps that build with one builder keeps the entries built. -/
theorem BuiltFrom.run {f : Predicate → Except ε ν} {ps : List Predicate}
    {steps : List (Step ν ε)} (h : BuiltFrom f ps c) (hvalid : c.Valid)
    (hbuilds : ∀ s ∈ steps, s.BuildsWith f) (hps : ∀ p ∈ predicates steps, p ∈ ps) :
    BuiltFrom f ps (c.run steps) := by
  induction steps generalizing c with
  | nil => exact h
  | cons s steps ih =>
    obtain ⟨hs, hsteps⟩ := List.forall_mem_cons.mp hbuilds
    have hstep := stepped_step c s
    have hpredicate : ∀ p, s.predicate? = some p → p ∈ ps := fun p hp =>
      hps p (List.mem_filterMap.mpr ⟨s, List.mem_cons_self, hp⟩)
    have hrest : ∀ p ∈ predicates steps, p ∈ ps := fun p hp => by
      obtain ⟨t, ht, htp⟩ := List.mem_filterMap.mp hp
      exact hps p (List.mem_filterMap.mpr ⟨t, List.mem_cons_of_mem s ht, htp⟩)
    exact ih (h.stepped hvalid hstep hs hpredicate) (hvalid.stepped hstep) hsteps hrest

/-- A call that fails to build counts a miss and changes nothing else. -/
theorem tryGetOrInsert_of_error {p : Predicate} {build : Predicate → Except ε ν} {e : ε}
    (h : (c.tryGetOrInsert p build).1.answer = .error e) :
    (c.tryGetOrInsert p build).2 = { c with misses := c.misses + 1 } := by
  have hstep := stepped_step c (.tryGetOrInsert p build)
  rw [step, h] at hstep
  generalize (c.tryGetOrInsert p build).2 = c' at hstep ⊢
  cases hstep with
  | failed _ _ _ => rfl

/-- A second half of a call that fails to build changes nothing. -/
theorem store_of_error {p : Predicate} {build : Predicate → Except ε ν} {e : ε}
    (h : (c.store p build).1 = .error e) : (c.store p build).2 = c := by
  unfold store at h ⊢
  split at h
  · rfl
  · cases h

/-- Calls that build with one builder answer what it gives. Before the step, the cache has run
through other such steps, and the digests tell the streams of all their predicates apart. -/
theorem answer_of_run {f : Predicate → Except ε ν} {capacity : Nat} {steps : List (Step ν ε)}
    {s : Step ν ε} (hbuilds : ∀ t ∈ steps ++ [s], t.BuildsWith f)
    (hfit : ∀ p ∈ predicates (steps ++ [s]), p.LengthsFit)
    (hdigests : DigestsDiffer (predicates (steps ++ [s]))) {p : Predicate} {v : ν}
    (hp : s.predicate? = some p)
    (hanswer : (((withCapacity capacity).run steps).step s).1 = some (.ok v)) :
    ∃ q, q.agrees p = true ∧ f q = .ok v := by
  obtain ⟨hsteps, hs⟩ := List.forall_mem_append.mp hbuilds
  have hmem : p ∈ predicates (steps ++ [s]) :=
    List.mem_filterMap.mpr ⟨s, List.mem_append_right _ (List.mem_singleton_self s), hp⟩
  have hsub : ∀ q ∈ predicates steps, q ∈ predicates (steps ++ [s]) := fun q hq => by
    obtain ⟨t, ht, htq⟩ := List.mem_filterMap.mp hq
    exact List.mem_filterMap.mpr ⟨t, List.mem_append_left _ ht, htq⟩
  have hvalid := (valid_withCapacity capacity : (withCapacity capacity : Cache ν).Valid).run steps
  have hempty : BuiltFrom f (predicates (steps ++ [s])) (withCapacity capacity) := nofun
  have hbuilt := hempty.run (valid_withCapacity capacity) hsteps hsub
  have hstep := stepped_step ((withCapacity capacity : Cache ν).run steps) s
  rw [hanswer] at hstep
  obtain ⟨q, hq, hfingerprint, hv⟩ :=
    hbuilt.of_answer hvalid hstep (hs s (List.mem_singleton_self s)) hp hmem
  have hstream := hdigests q hq p hmem hfingerprint
  exact ⟨q, (Predicate.stream_eq_iff (hfit q hq) (hfit p hmem)).mp hstream, hv⟩

/-- A cache is a bounded memo, whatever steps it has run through, in whatever order the halves of
several calls come. It holds no more than its capacity, where zero counts as one. Its counts add up
to the lookups since the last clearing. What is inserted is there afterwards, and what is answered is
what is there, which is the earlier entry if there was one. An entry stays as it is but for clearing,
and for the lowest entry of a full cache when a new key comes. Clearing leaves the new cache, with
no entry and no count. A build that fails changes nothing but the count of misses. A call is its two halves. And where all calls build with one builder, each
answers what the builder gives for a predicate that agrees with its own; for a builder that does not
tell predicates apart that agree, that is what it gives for its own. -/
theorem run_withCapacity (capacity : Nat) (steps : List (Step ν ε)) :
    let c : Cache ν := (withCapacity capacity).run steps
    (c.capacity = max capacity 1 ∧ c.size ≤ max capacity 1) ∧
    c.hits + c.misses = lookups steps ∧
    (∀ key v, (c.insert key v).2.find? key = some (c.insert key v).1 ∧
      (c.find? key = none → (c.insert key v).1 = v) ∧
      ∀ old, c.find? key = some old → c.insert key v = (old, c)) ∧
    (∀ (s : Step ν ε) k v, c.find? k = some v →
      (c.step s).2.find? k = some v ∨ s = .clear ∨ c.Evicts (c.step s).2 k) ∧
    ((c.step (.clear : Step ν ε)).2 = withCapacity capacity ∧
      (c.step (.clear : Step ν ε)).2.size = 0 ∧
      (∀ key, (c.step (.clear : Step ν ε)).2.find? key = none) ∧
      (c.step (.clear : Step ν ε)).2.hits = 0 ∧ (c.step (.clear : Step ν ε)).2.misses = 0) ∧
    (∀ p (build : Predicate → Except ε ν) e, (c.tryGetOrInsert p build).1.answer = .error e →
      (c.tryGetOrInsert p build).2 = { c with misses := c.misses + 1 }) ∧
    (∀ p (build : Predicate → Except ε ν) e, (c.store p build).1 = .error e →
      (c.store p build).2 = c) ∧
    (∀ p (build : Predicate → Except ε ν), c.step (.tryGetOrInsert p build) =
      match c.step (.lookup p : Step ν ε) with
      | (some answer, c) => (some answer, c)
      | (none, c) => c.step (.store p build)) ∧
    (∀ p (build : Predicate → ν), c.step (.getOrInsert p build : Step ν ε) =
      c.step (.tryGetOrInsert p fun q => .ok (build q))) ∧
    ∀ (f : Predicate → Except ε ν) (s : Step ν ε) (p : Predicate) (v : ν),
      (∀ t ∈ steps ++ [s], t.BuildsWith f) → (∀ q ∈ predicates (steps ++ [s]), q.LengthsFit) →
      DigestsDiffer (predicates (steps ++ [s])) → s.predicate? = some p →
      (c.step s).1 = some (.ok v) →
        (∃ q, q.agrees p = true ∧ f q = .ok v) ∧
        ((∀ q r : Predicate, q.agrees r = true → f q = f r) → f p = .ok v) := by
  intro c
  have hvalid : c.Valid := (valid_withCapacity capacity).run steps
  have hcapacity : c.capacity = max capacity 1 := capacity_run _ steps
  refine ⟨⟨hcapacity, ?_⟩, counts_run _ steps, ?_, ?_,
    ⟨clear_run_withCapacity capacity steps, rfl, fun _ => rfl, rfl, rfl⟩,
    fun p build e => tryGetOrInsert_of_error, fun p build e => store_of_error,
    step_tryGetOrInsert c, step_getOrInsert c, ?_⟩
  · rw [← hcapacity]
    exact hvalid.size_le
  · intro key v
    exact ⟨find?_insert_self hvalid.capacity_pos key v, fun h => insert_answer_of_find?_none h v,
      fun old h => insert_of_find? h v⟩
  · intro s k v h
    exact (stepped_step c s).find?_eq hvalid h
  · intro f s p v hbuilds hfit hdigests hp hanswer
    obtain ⟨q, hagrees, hq⟩ := answer_of_run hbuilds hfit hdigests hp hanswer
    exact ⟨⟨q, hagrees, hq⟩, fun hf => (hf q p hagrees) ▸ hq⟩

/-- A cache of capacity zero holds one entry. The entry of one predicate is evicted when the second
half of a call for another stores its own, and a lookup then answers what the builder gives. -/
theorem run_withCapacity_zero :
    let p : Predicate := .shortCircuit true
    let q : Predicate := .shortCircuit false
    let f : Predicate → Except Unit String := fun r => .ok r.display
    let first : Step String Unit := .getOrInsert p Predicate.display
    let c : Cache String := (withCapacity 0).run [first, .lookup q]
    let c' : Cache String := (withCapacity 0).run [first, .lookup q, .store q f]
    (c.find? p.fingerprint = some p.display ∧ c'.find? p.fingerprint = none ∧
      c.Evicts c' p.fingerprint) ∧
    (c'.step (.lookup q : Step String Unit)).1 = some (.ok q.display) ∧ f q = .ok q.display := by
  intro p q f first c c'
  have hdiffer : p.fingerprint ≠ q.fingerprint := by decide +kernel
  have hfound : c.find? p.fingerprint = some p.display := by decide +kernel
  have hgone : c'.find? p.fingerprint = none := by decide +kernel
  have hlookup : c'.find? q.fingerprint = some q.display := by decide +kernel
  have hanswer : (c'.step (.lookup q : Step String Unit)).1 = some (.ok q.display) := by
    rw [step_lookup_answer, hlookup]
    rfl
  have hevicts : c.Evicts c' p.fingerprint := by
    obtain ⟨-, -, -, hstays, -⟩ := run_withCapacity 0 [first, .lookup q]
    rcases hstays (.store q f) p.fingerprint p.display hfound with hkept | hclear | hevicts
    · exact absurd (hgone.symm.trans hkept) nofun
    · cases hclear
    · exact hevicts
  refine ⟨⟨hfound, hgone, hevicts⟩, hanswer, ?_⟩
  have hmem : ∀ r ∈ predicates ([first, .lookup q, .store q f] ++ [.lookup q]), r = p ∨ r = q := by
    intro r hr
    simpa [predicates, first, Step.predicate?] using hr
  obtain ⟨-, -, -, -, -, -, -, -, -, hmemo⟩ := run_withCapacity 0 [first, .lookup q, .store q f]
  refine (hmemo f (.lookup q) q q.display ?_ ?_ ?_ rfl hanswer).2 ?_
  · intro t ht
    simp only [List.cons_append, List.nil_append, List.mem_cons, List.not_mem_nil, or_false] at ht
    rcases ht with rfl | rfl | rfl | rfl
    · exact rfl
    · trivial
    · exact rfl
    · trivial
  · intro r hr
    rcases hmem r hr with rfl | rfl <;> trivial
  · intro r hr t ht heq
    rcases hmem r hr with rfl | rfl <;> rcases hmem t ht with rfl | rfl
    · rfl
    · exact absurd heq hdiffer
    · exact absurd heq.symm hdiffer
    · rfl
  · intro r t hagrees
    have hform := (Predicate.agrees_iff r t).mp hagrees
    have hdisplay : r.display = t.display := by
      rw [← r.display_unresolved, hform, t.display_unresolved]
    exact congrArg Except.ok hdisplay

end Cache

end RowFilter
