import Mathlib.Data.List.Infix
import RowFilter.Compilation.Pattern

/-!
# Texts that match a pattern

In a pattern the wildcard stands for any run of characters, also for none, and every other character
stands for itself. `Text.Matches` is this reading, and `Text.matching` tests it by trying every run.

A search method on constants looks for its argument by parts of lists, and on a term by the pattern
that `PatternKind.wrap` makes of the argument. The two ways agree where the wildcard does not occur
in the argument (`PatternKind.matches_wrap_iff_holds`).
-/

namespace RowFilter

namespace Text

/-- The characters of a text match those of a pattern. -/
inductive Matches (wildcard : Char) : List Char → List Char → Prop
  /-- Nothing but the empty text matches the empty pattern. -/
  | nil : Matches wildcard [] []
  /-- A character other than the wildcard stands for itself. -/
  | char {c : Char} {p s : List Char} (hc : c ≠ wildcard) (h : Matches wildcard p s) :
      Matches wildcard (c :: p) (c :: s)
  /-- The wildcard stands for a run of characters. -/
  | wildcard (run : List Char) {p s : List Char} (h : Matches wildcard p s) :
      Matches wildcard (wildcard :: p) (run ++ s)

variable {w c : Char} {p s t : List Char}

/-! ### One rule at a time -/

theorem matches_nil_iff : Matches w [] s ↔ s = [] := by
  constructor
  · rintro ⟨⟩
    rfl
  · rintro rfl
    exact .nil

theorem matches_cons_iff (hc : c ≠ w) :
    Matches w (c :: p) s ↔ ∃ rest, s = c :: rest ∧ Matches w p rest := by
  constructor
  · intro h
    cases h with
    | char _ h => exact ⟨_, rfl, h⟩
    | wildcard _ _ => exact absurd rfl hc
  · rintro ⟨rest, rfl, h⟩
    exact .char hc h

/-- What follows a wildcard is matched by some rest of the text. -/
theorem matches_wildcard_iff : Matches w (w :: p) s ↔ ∃ rest, rest <:+ s ∧ Matches w p rest := by
  constructor
  · intro h
    cases h with
    | char hc _ => exact absurd rfl hc
    | wildcard run h => exact ⟨_, List.suffix_append run _, h⟩
  · rintro ⟨rest, ⟨run, rfl⟩, h⟩
    exact .wildcard run h

/-! ### The test -/

/-- Test of a text against a pattern. -/
def matching (wildcard : Char) : List Char → List Char → Bool
  | [], s => s.isEmpty
  | c :: p, s =>
    if c = wildcard then s.tails.any (matching wildcard p)
    else s.head? == some c && matching wildcard p s.tail

theorem matching_iff : matching w p s = true ↔ Matches w p s := by
  -- on the pattern, with the text free: a wildcard leaves any rest of it
  induction p generalizing s with
  | nil => rw [matching, List.isEmpty_iff, matches_nil_iff]
  | cons c p ih =>
    rw [matching]
    split
    next hc => simp only [hc, matches_wildcard_iff, List.any_eq_true, List.mem_tails, ih]
    next hc =>
      rw [matches_cons_iff hc]
      cases s with
      | nil => simp
      | cons d s => simp [ih]

instance : Decidable (Matches w p s) := decidable_of_iff _ matching_iff

/-! ### Wildcards at the ends -/

/-- Characters other than the wildcard stand for themselves. -/
theorem matches_append_iff (ht : w ∉ t) :
    Matches w (t ++ p) s ↔ ∃ rest, s = t ++ rest ∧ Matches w p rest := by
  induction t generalizing s with
  | nil => simp
  | cons c t ih =>
    obtain ⟨hc, ht⟩ := List.ne_and_not_mem_of_not_mem_cons ht
    simp only [List.cons_append, matches_cons_iff hc.symm, ih ht]
    constructor
    · rintro ⟨_, rfl, rest, rfl, h⟩
      exact ⟨rest, rfl, h⟩
    · rintro ⟨rest, rfl, h⟩
      exact ⟨_, rfl, rest, rfl, h⟩

/-- Every text matches the wildcard. -/
theorem matches_wildcard (w : Char) (s : List Char) : Matches w [w] s :=
  matches_wildcard_iff.mpr ⟨[], List.nil_suffix, .nil⟩

theorem matches_start_iff (ht : w ∉ t) : Matches w (t ++ [w]) s ↔ t <+: s := by
  rw [matches_append_iff ht]
  constructor
  · rintro ⟨rest, rfl, -⟩
    exact List.prefix_append t rest
  · rintro ⟨rest, rfl⟩
    exact ⟨rest, rfl, matches_wildcard w rest⟩

theorem matches_end_iff (ht : w ∉ t) : Matches w (w :: t) s ↔ t <:+ s := by
  have hself : ∀ rest, Matches w t rest ↔ rest = t := by
    intro rest
    simpa [matches_nil_iff] using matches_append_iff (p := []) (s := rest) ht
  simp only [matches_wildcard_iff, hself, exists_eq_right]

/-- Between two wildcards a text stands for the texts in which it occurs. -/
theorem matches_part_iff (ht : w ∉ t) : Matches w (w :: t ++ [w]) s ↔ t <:+: s := by
  rw [List.cons_append, matches_wildcard_iff]
  simp only [matches_start_iff ht]
  constructor
  · rintro ⟨rest, hrest, hprefix⟩
    exact hprefix.isInfix.trans hrest.isInfix
  · rintro ⟨run, rest, rfl⟩
    rw [List.append_assoc]
    exact ⟨t ++ rest, List.suffix_append run _, List.prefix_append t rest⟩

/-- The search for a part finds exactly the parts. -/
theorem isInfix_iff : isInfix t s = true ↔ t <:+: s := by
  induction s with
  | nil => rw [isInfix, List.isEmpty_iff, List.infix_nil]
  | cons c s ih =>
    rw [isInfix, Bool.or_eq_true, List.isPrefixOf_iff_prefix, ih, List.infix_cons_iff]

end Text

/-! ### Search methods -/

namespace PatternKind

variable (kind : PatternKind)

/-- A text matches the pattern that a search method makes of an argument exactly if the method finds
the argument in the text, as long as the wildcard does not occur in the argument. -/
theorem matches_wrap_iff_holds {wildcard : Char} {arg : String} (harg : wildcard ∉ arg.toList)
    (s : String) :
    Text.Matches wildcard (kind.wrap wildcard arg).toList s.toList ↔ kind.holds s arg = true := by
  have hlast : arg.toList.getLast? ≠ some wildcard := fun h => harg (List.mem_of_getLast? h)
  have hhead : arg.toList.head? ≠ some wildcard := fun h => harg (List.mem_of_mem_head? h)
  cases kind with
  | contains =>
    simp only [wrap, holds, Text.occursIn, String.toList_ofList, List.contains_iff_mem, harg,
      if_false, Text.matches_part_iff harg, Text.isInfix_iff]
  | startsWith =>
    simp only [wrap, holds, Text.startsWith, String.toList_ofList, hlast, if_false,
      Text.matches_start_iff harg, List.isPrefixOf_iff_prefix]
  | endsWith =>
    simp only [wrap, holds, Text.endsWith, String.toList_ofList, hhead, if_false,
      Text.matches_end_iff harg, List.isSuffixOf_iff_suffix]

/-- A pattern brings the wildcards that the method would add. -/
theorem wrap_wrap (wildcard : Char) (arg : String) :
    kind.wrap wildcard (kind.wrap wildcard arg) = kind.wrap wildcard arg := by
  cases kind with
  | contains =>
    by_cases h : wildcard ∈ arg.toList <;> simp [wrap, h]
  | startsWith =>
    by_cases h : arg.toList.getLast? = some wildcard <;> simp [wrap, h]
  | endsWith =>
    by_cases h : arg.toList.head? = some wildcard <;> simp [wrap, h]

end PatternKind

end RowFilter
