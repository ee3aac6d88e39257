import Mathlib.Data.List.Induction
import RowFilter.Digest.Fingerprint
import RowFilter.SortedMap

/-!
# Sorted maps and the order of fingerprints

`SortedMap.insert` changes what is found under its key and nothing else, whether or not the map is
in order. It keeps the order, where its key is new it adds one pair, and what the values weigh
together changes by the value that it puts in and the one that it replaces. So the map of a list is
in order, and under each key it has the last value that the list has there
(`SortedMap.mem_ofList_iff`).

Fingerprints are ordered by the number that their bytes write out. Since all have the same number of
bytes, that order tells any two of them apart.
-/

namespace RowFilter

namespace SortedMap

variable {κ ν : Type} [Ord κ]

/-- The pairs of a map are in strictly ascending order of their keys. -/
def Sorted (m : List (κ × ν)) : Prop := m.Pairwise fun a b => compare a.1 b.1 = .lt

/-- What the values of a map weigh together. -/
def weigh (weight : ν → Nat) : List (κ × ν) → Nat
  | [] => 0
  | e :: m => weight e.2 + weigh weight m

/-- The pairs after an insertion are the new one and old ones. -/
theorem mem_insert {m : List (κ × ν)} {k : κ} {v : ν} {e : κ × ν} (h : e ∈ insert m k v) :
    e = (k, v) ∨ e ∈ m := by
  induction m with
  | nil => exact Or.inl (List.mem_singleton.mp h)
  | cons first m ih =>
    unfold insert at h
    split at h
    next => exact List.mem_cons.mp h
    next =>
      rcases List.mem_cons.mp h with rfl | h
      · exact Or.inl rfl
      · exact Or.inr (List.mem_cons_of_mem _ h)
    next =>
      rcases List.mem_cons.mp h with rfl | h
      · exact Or.inr List.mem_cons_self
      · rcases ih h with rfl | h
        · exact Or.inl rfl
        · exact Or.inr (List.mem_cons_of_mem _ h)

/-- The last pair of a list is inserted last. -/
theorem ofList_concat (entries : List (κ × ν)) (e : κ × ν) :
    ofList (entries ++ [e]) = insert (ofList entries) e.1 e.2 := by
  simp [ofList, List.foldl_append]

section

variable [Std.LawfulEqOrd κ]

/-- Keys that are told apart are different. -/
theorem ne_of_compare {k k' : κ} (h : compare k k' ≠ .eq) : k' ≠ k :=
  fun hkey => h (Std.LawfulEqCmp.compare_eq_iff_eq.mpr hkey.symm)

theorem find?_cons_self (e : κ × ν) (m : List (κ × ν)) : find? (e :: m) e.1 = some e.2 := by
  simp [find?, Std.ReflCmp.compare_self]

theorem find?_cons_of_ne {e : κ × ν} {k : κ} (h : e.1 ≠ k) (m : List (κ × ν)) :
    find? (e :: m) k = find? m k := by
  have hne : (compare e.1 k == .eq) = false := by
    rw [beq_eq_false_iff_ne, Ne, Std.LawfulEqCmp.compare_eq_iff_eq]
    exact h
  simp [find?, hne]

/-- What is found is one of the pairs. -/
theorem mem_of_find? {m : List (κ × ν)} {k : κ} {v : ν} (h : find? m k = some v) : (k, v) ∈ m := by
  induction m with
  | nil => cases h
  | cons e m ih =>
    by_cases hk : e.1 = k
    · subst hk
      rw [find?_cons_self] at h
      cases h
      exact List.mem_cons_self
    · rw [find?_cons_of_ne hk] at h
      exact List.mem_cons_of_mem _ (ih h)

/-- The new value is found under its key. -/
theorem find?_insert_self (m : List (κ × ν)) (k : κ) (v : ν) :
    find? (insert m k v) k = some v := by
  induction m with
  | nil => exact find?_cons_self (k, v) []
  | cons e m ih =>
    unfold insert
    split
    next => exact find?_cons_self (k, v) (e :: m)
    next => exact find?_cons_self (k, v) m
    next h =>
      -- the new pair comes later, so the first one has another key
      have hne : e.1 ≠ k := ne_of_compare (by rw [h]; nofun)
      rw [find?_cons_of_ne hne, ih]

/-- What is found under another key stays. -/
theorem find?_insert_of_ne {k k' : κ} (h : k ≠ k') (m : List (κ × ν)) (v : ν) :
    find? (insert m k v) k' = find? m k' := by
  induction m with
  | nil => exact find?_cons_of_ne h []
  | cons e m ih =>
    unfold insert
    split
    next => exact find?_cons_of_ne h (e :: m)
    next heq =>
      have hkey : k = e.1 := Std.LawfulEqCmp.compare_eq_iff_eq.mp heq
      rw [find?_cons_of_ne h, find?_cons_of_ne (hkey ▸ h)]
    next =>
      by_cases hk : e.1 = k'
      · subst hk
        rw [find?_cons_self, find?_cons_self]
      · rw [find?_cons_of_ne hk, find?_cons_of_ne hk, ih]

/-- A new key adds one pair. -/
theorem length_insert {m : List (κ × ν)} {k : κ} (h : find? m k = none) (v : ν) :
    (insert m k v).length = m.length + 1 := by
  induction m with
  | nil => rfl
  | cons e m ih =>
    -- with no pair under the key, none is replaced
    have hne : e.1 ≠ k := by
      rintro rfl
      rw [find?_cons_self] at h
      cases h
    rw [find?_cons_of_ne hne] at h
    unfold insert
    split
    next => rfl
    next heq => exact absurd (Std.LawfulEqCmp.compare_eq_iff_eq.mp heq).symm hne
    next => rw [List.length_cons, List.length_cons, ih h]

/-- An insertion keeps the order of the keys. -/
theorem sorted_insert [Std.TransOrd κ] {m : List (κ × ν)} (h : Sorted m) (k : κ) (v : ν) :
    Sorted (insert m k v) := by
  induction m with
  | nil => exact List.pairwise_singleton _ _
  | cons e m ih =>
    obtain ⟨hfirst, hrest⟩ := List.pairwise_cons.mp h
    unfold insert
    split
    -- the new pair comes before the first one, takes its place, or goes among the rest
    next hlt =>
      refine List.pairwise_cons.mpr ⟨fun d hd => ?_, h⟩
      rcases List.mem_cons.mp hd with rfl | hd
      · exact hlt
      · exact Std.TransCmp.lt_trans hlt (hfirst d hd)
    next heq =>
      have hkey : k = e.1 := Std.LawfulEqCmp.compare_eq_iff_eq.mp heq
      exact List.pairwise_cons.mpr ⟨fun d hd => hkey ▸ hfirst d hd, hrest⟩
    next hgt =>
      refine List.pairwise_cons.mpr ⟨fun d hd => ?_, ih hrest⟩
      rcases mem_insert hd with rfl | hd
      · exact Std.OrientedCmp.gt_iff_lt.mp hgt
      · exact hfirst d hd

/-- Nothing is found under a key that no pair has. -/
theorem find?_eq_none {m : List (κ × ν)} {k : κ} (h : ∀ e ∈ m, e.1 ≠ k) : find? m k = none := by
  induction m with
  | nil => rfl
  | cons e m ih =>
    obtain ⟨he, hm⟩ := List.forall_mem_cons.mp h
    rw [find?_cons_of_ne he, ih hm]

/-- An insertion adds what the new value weighs, and takes away what the value weighed that it
replaces. -/
theorem weigh_insert [Std.TransOrd κ] (weight : ν → Nat) {m : List (κ × ν)} (h : Sorted m) (k : κ)
    (v : ν) :
    weigh weight (insert m k v) + (find? m k).elim 0 weight = weigh weight m + weight v := by
  induction m with
  | nil => simp [insert, find?, weigh]
  | cons e m ih =>
    obtain ⟨hfirst, hrest⟩ := List.pairwise_cons.mp h
    unfold insert
    split
    next hlt =>
      -- the key is below all others, so none is replaced
      have hnew : ∀ d ∈ e :: m, d.1 ≠ k := by
        intro d hd
        rcases List.mem_cons.mp hd with rfl | hd
        · exact ne_of_compare (by rw [hlt]; nofun)
        · exact ne_of_compare (by rw [Std.TransCmp.lt_trans hlt (hfirst d hd)]; nofun)
      rw [find?_eq_none hnew]
      simp only [weigh, Option.elim_none]
      omega
    next heq =>
      have hkey : k = e.1 := Std.LawfulEqCmp.compare_eq_iff_eq.mp heq
      rw [hkey, find?_cons_self]
      simp only [weigh, Option.elim_some]
      omega
    next hgt =>
      have hne : e.1 ≠ k := ne_of_compare (by rw [hgt]; nofun)
      have hweights := ih hrest
      rw [find?_cons_of_ne hne]
      simp only [weigh]
      omega

/-- In a map that is in order each pair is found under its key. -/
theorem find?_eq_some_iff_mem {m : List (κ × ν)} (h : Sorted m) {k : κ} {v : ν} :
    find? m k = some v ↔ (k, v) ∈ m := by
  refine ⟨mem_of_find?, fun hmem => ?_⟩
  induction m with
  | nil => cases hmem
  | cons e m ih =>
    obtain ⟨hfirst, hrest⟩ := List.pairwise_cons.mp h
    rcases List.mem_cons.mp hmem with rfl | hmem
    · exact find?_cons_self (k, v) m
    · -- a later pair has a greater key than the first
      have hne : e.1 ≠ k := (ne_of_compare (by rw [hfirst _ hmem]; nofun)).symm
      rw [find?_cons_of_ne hne, ih hrest hmem]

/-- What is found is the value of the first pair with the key. -/
theorem find?_eq_some_iff {m : List (κ × ν)} {k : κ} {v : ν} :
    find? m k = some v ↔ ∃ before after, m = before ++ (k, v) :: after ∧ ∀ e ∈ before, e.1 ≠ k := by
  have hkey : ∀ e : κ × ν, (compare e.1 k == .eq) = true ↔ e.1 = k := by
    intro e
    rw [beq_iff_eq, Std.LawfulEqCmp.compare_eq_iff_eq]
  rw [find?, Option.map_eq_some_iff]
  constructor
  · rintro ⟨⟨k', v⟩, hfound, rfl⟩
    obtain ⟨hk, before, after, hsplit, hbefore⟩ := List.find?_eq_some_iff_append.mp hfound
    obtain rfl : k' = k := (hkey _).mp hk
    refine ⟨before, after, hsplit, fun e he hk => ?_⟩
    simpa [(hkey e).mpr hk] using hbefore e he
  · rintro ⟨before, after, hsplit, hbefore⟩
    refine ⟨(k, v), List.find?_eq_some_iff_append.mpr ⟨(hkey _).mpr rfl, before, after, hsplit, ?_⟩,
      rfl⟩
    intro e he
    rw [Bool.not_eq_true', ← Bool.not_eq_true, hkey]
    exact hbefore e he

/-- The keys of a map are those under which something is found. -/
theorem mem_keys_iff {m : List (κ × ν)} {k : κ} :
    k ∈ m.map Prod.fst ↔ (find? m k).isSome = true := by
  induction m with
  | nil => simp [find?]
  | cons e m ih =>
    rw [List.map_cons, List.mem_cons, ih]
    by_cases hk : e.1 = k
    · subst hk
      simp [find?_cons_self]
    · rw [find?_cons_of_ne hk]
      simp [Ne.symm hk]

/-! ### The map of a list -/

/-- What is found in the map of a list is what is found from the end of the list. -/
theorem find?_ofList (entries : List (κ × ν)) (k : κ) :
    find? (ofList entries) k = find? entries.reverse k := by
  induction entries using List.reverseRecOn with
  | nil => rfl
  | append_singleton entries e ih =>
    rw [ofList_concat, List.reverse_concat]
    by_cases hk : e.1 = k
    · subst hk
      rw [find?_insert_self, find?_cons_self]
    · rw [find?_insert_of_ne hk, find?_cons_of_ne hk, ih]

/-- The map of a list is in order. -/
theorem sorted_ofList [Std.TransOrd κ] (entries : List (κ × ν)) : Sorted (ofList entries) := by
  induction entries using List.reverseRecOn with
  | nil => exact List.Pairwise.nil
  | append_singleton entries e ih =>
    rw [ofList_concat]
    exact sorted_insert ih e.1 e.2

/-- The keys of the map of a list are those of the list. -/
theorem mem_keys_ofList {entries : List (κ × ν)} {k : κ} :
    k ∈ (ofList entries).map Prod.fst ↔ k ∈ entries.map Prod.fst := by
  rw [mem_keys_iff, find?_ofList, ← mem_keys_iff, List.map_reverse, List.mem_reverse]

/-- The pairs of the map of a list are the last ones under their keys. -/
theorem mem_ofList_iff [Std.TransOrd κ] {entries : List (κ × ν)} {k : κ} {v : ν} :
    (k, v) ∈ ofList entries ↔
      ∃ before after, entries = before ++ (k, v) :: after ∧ ∀ e ∈ after, e.1 ≠ k := by
  rw [← find?_eq_some_iff_mem (sorted_ofList entries), find?_ofList, find?_eq_some_iff]
  constructor
  · rintro ⟨after, before, hsplit, hafter⟩
    refine ⟨before.reverse, after.reverse, ?_, fun e he => hafter e (List.mem_reverse.mp he)⟩
    rw [← List.reverse_reverse entries, hsplit]
    simp
  · rintro ⟨before, after, rfl, hafter⟩
    exact ⟨after.reverse, before.reverse, by simp, fun e he => hafter e (List.mem_reverse.mp he)⟩

end

end SortedMap

/-! ### Fingerprints -/

/-- Equally many bytes that go on from two numbers give one number only if all are the same. -/
theorem foldl_bytes_injective : ∀ {xs ys : List UInt8} {m n : Nat}, xs.length = ys.length →
    xs.foldl (fun n b => 256 * n + b.toNat) m = ys.foldl (fun n b => 256 * n + b.toNat) n →
    m = n ∧ xs = ys
  | [], [], _, _, _, h => ⟨h, rfl⟩
  | x :: xs, y :: ys, m, n, hlength, h => by
    rw [List.foldl_cons, List.foldl_cons] at h
    obtain ⟨hnumber, hrest⟩ := foldl_bytes_injective (Nat.succ.inj hlength) h
    have hx : x.toNat < 256 := x.toNat_lt
    have hy : y.toNat < 256 := y.toNat_lt
    have hbyte : x = y := UInt8.toNat_inj.mp (by omega)
    exact ⟨by omega, by rw [hbyte, hrest]⟩

namespace Fingerprint

/-- The number that the bytes of a fingerprint write out determines it. -/
theorem toNat_injective {f g : Fingerprint} (h : f.toNat = g.toNat) : f = g := by
  obtain ⟨xs, hxs⟩ := f
  obtain ⟨ys, hys⟩ := g
  obtain ⟨-, hbytes⟩ := foldl_bytes_injective (by rw [hxs, hys]) h
  subst hbytes
  rfl

/-- Fingerprints are compared as the numbers that they write out. -/
theorem compare_eq (f g : Fingerprint) : compare f g = compare f.toNat g.toNat := rfl

instance : Std.TransOrd Fingerprint where
  eq_swap {f g} := by
    rw [compare_eq, compare_eq]
    exact Std.OrientedCmp.eq_swap
  isLE_trans {f g h} := by
    rw [compare_eq, compare_eq, compare_eq]
    exact Std.TransCmp.isLE_trans

instance : Std.LawfulEqOrd Fingerprint where
  compare_self {f} := by
    rw [compare_eq]
    exact Std.ReflCmp.compare_self
  eq_of_compare {f g} h := by
    rw [compare_eq, Std.LawfulEqCmp.compare_eq_iff_eq] at h
    exact toNat_injective h

end Fingerprint

end RowFilter
