import Mathlib.Data.List.Forall2
import RowFilter.Clause.Basic
import RowFilter.Proofs.Cache.SortedMap

/-!
# Chains are lists of entries

Building a chain entry by entry and reading its entries are inverse to each other
(`Chain.ofEntries_faithful`). The links of a chain lead from the newest entry to the oldest, so the
entries are the reverse of what is met on the way (`Chain.entries_eq_reverse`), and the chain before
the newest entry is that of the entries without the last (`Chain.prior?_ofEntries_concat`).
-/

namespace RowFilter

namespace Chain

variable {α : Type}

/-! ### Along the links -/

/-- The entries in the order in which the links lead to them, newest first. -/
def newestFirst : Chain α → List (MemberRef × α)
  | start ref payload => [(ref, payload)]
  | link prior ref payload => (ref, payload) :: prior.newestFirst

/-- The chain that so many links lead back to. -/
def back : Nat → Chain α → Option (Chain α)
  | 0, c => some c
  | n + 1, c => c.prior?.bind (back n)

/-- The entries are what the links lead to, oldest first. -/
theorem entries_eq_reverse (c : Chain α) : c.entries = c.newestFirst.reverse := by
  induction c with
  | start ref payload => rfl
  | link prior ref payload ih => rw [entries, newestFirst, List.reverse_cons, ih]

/-- The entries that the links lead to determine the chain. -/
theorem newestFirst_inj : ∀ {c d : Chain α}, c.newestFirst = d.newestFirst → c = d
  | start _ _, start _ _, h => by
    cases h
    rfl
  | link c _ _, link d _ _, h => by
    rw [newestFirst, newestFirst, List.cons.injEq] at h
    obtain ⟨hentry, hrest⟩ := h
    cases hentry
    rw [newestFirst_inj hrest]
  | start _ _, link d _ _, h => by cases d <;> cases h
  | link c _ _, start _ _, h => by cases c <;> cases h

/-- Chains agree if the entries that the links lead to do. -/
theorem agrees_iff_newestFirst (same : α → α → Bool) : ∀ {c d : Chain α},
    c.agrees same d = true ↔ List.Forall₂ (fun a b => a.1.agrees b.1 = true ∧ same a.2 b.2 = true)
      c.newestFirst d.newestFirst
  | start _ _, start _ _ => by simp [agrees, newestFirst]
  | link c _ _, link d _ _ => by
    rw [newestFirst, newestFirst, List.forall₂_cons, ← agrees_iff_newestFirst same, agrees,
      Bool.and_eq_true, Bool.and_eq_true, and_assoc, and_comm]
  | start _ _, link d _ _ => by cases d <;> simp [agrees, newestFirst]
  | link c _ _, start _ _ => by cases c <;> simp [agrees, newestFirst]

/-- Chains agree exactly if their entries do, one by one. -/
theorem agrees_iff_forall₂ (same : α → α → Bool) (c d : Chain α) :
    c.agrees same d = true ↔ List.Forall₂ (fun a b => a.1.agrees b.1 = true ∧ same a.2 b.2 = true)
      c.entries d.entries := by
  rw [entries_eq_reverse, entries_eq_reverse, List.forall₂_reverse_iff, agrees_iff_newestFirst]

/-- Chains are equal exactly if their entries are. -/
theorem eq_iff_entries_eq {c d : Chain α} : c = d ↔ c.entries = d.entries := by
  refine ⟨congrArg entries, fun h => newestFirst_inj ?_⟩
  rwa [entries_eq_reverse, entries_eq_reverse, List.reverse_inj] at h

/-! ### Building a chain -/

variable (first : MemberRef × α) (rest : List (MemberRef × α))

/-- The last entry is linked last. -/
theorem ofEntries_concat (e : MemberRef × α) :
    ofEntries first (rest ++ [e]) = link (ofEntries first rest) e.1 e.2 := by
  simp [ofEntries, List.foldl_append]

/-- The chain before the last entry is that of the entries before it. -/
theorem prior?_ofEntries_concat (e : MemberRef × α) :
    (ofEntries first (rest ++ [e])).prior? = some (ofEntries first rest) := by
  rw [ofEntries_concat, prior?]

/-- The entries of a chain are those that it is built of. -/
theorem entries_ofEntries : (ofEntries first rest).entries = first :: rest := by
  induction rest using List.reverseRecOn with
  | nil => rfl
  | append_singleton rest e ih => rw [ofEntries_concat, entries_link, ih, List.cons_append]

/-- Every link leads back to the chain of the entries without the last, until only the first is
left. -/
theorem back_ofEntries (n : Nat) : (ofEntries first rest).back n =
    if n ≤ rest.length then some (ofEntries first (rest.take (rest.length - n))) else none := by
  induction rest using List.reverseRecOn generalizing n with
  | nil => cases n <;> rfl
  | append_singleton rest e ih =>
    rw [List.length_append, List.length_singleton]
    cases n with
    | zero =>
      rw [if_pos (Nat.zero_le _), Nat.sub_zero, List.take_of_length_le (by simp)]
      rfl
    | succ n =>
      -- after one link, it is the chain of one entry less with one link less to go
      rw [back, prior?_ofEntries_concat, Option.bind_some, ih, Nat.add_sub_add_right,
        List.take_append_of_le_length (Nat.sub_le _ _)]
      simp only [Nat.add_le_add_iff_right]

/-- Every chain is built of entries. -/
theorem exists_eq_ofEntries (c : Chain α) : ∃ first rest, c = ofEntries first rest := by
  obtain ⟨first, rest, hentries⟩ : ∃ first rest, c.entries = first :: rest := by
    rw [← List.ne_nil_iff_exists_cons]
    cases c <;> simp [entries]
  refine ⟨first, rest, eq_iff_entries_eq.mpr ?_⟩
  rw [hentries, entries_ofEntries]

/-- The last of the entries that have a name has the payload. -/
def HasLast (entries : List (MemberRef × α)) (name : String) (payload : α) : Prop :=
  ∃ (before : List (MemberRef × α)) (ref : MemberRef) (after : List (MemberRef × α)),
    entries = before ++ (ref, payload) :: after ∧ ref.name = name ∧ ∀ e ∈ after, e.1.name ≠ name

/-- The payload of a name is that of the last entry of the name, whatever owners there are. -/
theorem mem_toMap_iff (c : Chain α) {name : String} {payload : α} :
    (name, payload) ∈ c.toMap ↔ HasLast c.entries name payload := by
  rw [toMap, SortedMap.mem_ofList_iff]
  constructor
  · -- where the pairs of names and payloads are split, the entries are
    rintro ⟨before, after, hsplit, hafter⟩
    obtain ⟨before, others, hentries, rfl, hothers⟩ := List.map_eq_append_iff.mp hsplit
    obtain ⟨⟨ref, x⟩, after, rfl, hlast, rfl⟩ := List.map_eq_cons_iff.mp hothers
    cases hlast
    exact ⟨before, ref, after, hentries, rfl,
      fun e he => hafter (e.1.name, e.2) (List.mem_map_of_mem he)⟩
  · rintro ⟨before, ref, after, hentries, rfl, hafter⟩
    refine ⟨before.map _, after.map _, by rw [hentries, List.map_append, List.map_cons], ?_⟩
    intro e he
    obtain ⟨d, hd, rfl⟩ := List.mem_map.mp he
    exact hafter d hd

/-- The names in the map of a chain are those of its entries. -/
theorem mem_keys_toMap_iff (c : Chain α) {name : String} :
    name ∈ c.toMap.map Prod.fst ↔ ∃ e ∈ c.entries, e.1.name = name := by
  rw [toMap, SortedMap.mem_keys_ofList, List.map_map]
  exact List.mem_map

/-- A chain is the list of the entries that it is built of, the links lead from it to the chains of
the entries without the last ones, and its map has, in order of the names, the last payload of each
name. Every chain is built in this way, and two chains are equal exactly if their entries are. For
set clauses and sort clauses, that also holds of equality up to the fields that references carry. -/
theorem ofEntries_faithful :
    (∀ (α : Type) (first : MemberRef × α) (rest : List (MemberRef × α)),
      let c := ofEntries first rest
      c.entries = first :: rest ∧ c.newestFirst = (first :: rest).reverse ∧
      (∀ n, c.back n =
        if n ≤ rest.length then some (ofEntries first (rest.take (rest.length - n))) else none) ∧
      SortedMap.Sorted c.toMap ∧
      (∀ name, name ∈ c.toMap.map Prod.fst ↔ ∃ e ∈ first :: rest, e.1.name = name) ∧
      ∀ name payload, (name, payload) ∈ c.toMap ↔ HasLast (first :: rest) name payload) ∧
    (∀ (α : Type) (c : Chain α), ∃ first rest, c = ofEntries first rest) ∧
    (∀ (α : Type) (c d : Chain α), c = d ↔ c.entries = d.entries) ∧
    (∀ c d : SetClause, c.agrees d = true ↔
      List.Forall₂ (fun a b => a.1.agrees b.1 = true ∧ a.2.agrees b.2 = true) c.entries d.entries) ∧
    ∀ c d : SortClause, c.agrees d = true ↔
      List.Forall₂ (fun a b => a.1.agrees b.1 = true ∧ a.2 = b.2) c.entries d.entries := by
  refine ⟨?_, fun _ => exists_eq_ofEntries, fun _ c d => eq_iff_entries_eq,
    agrees_iff_forall₂ SetValue.agrees, ?_⟩
  · intro α first rest c
    have hentries : c.entries = first :: rest := entries_ofEntries first rest
    refine ⟨hentries, ?_, back_ofEntries first rest, SortedMap.sorted_ofList _, ?_, ?_⟩
    · rw [← hentries, entries_eq_reverse, List.reverse_reverse]
    · intro name
      rw [mem_keys_toMap_iff, hentries]
    · intro name payload
      rw [mem_toMap_iff, hentries]
  · intro c d
    rw [SortClause.agrees, agrees_iff_forall₂]
    simp only [decide_eq_true_eq]

/-- Of two entries of one name the later one counts, though it has another owner. -/
example :
    (ofEntries (.named "t" "qty", 1) [(.named "t" "name", 2), (.named "u" "qty", 3)]).toMap =
      [("name", 2), ("qty", 3)] := by
  decide

end Chain

end RowFilter
