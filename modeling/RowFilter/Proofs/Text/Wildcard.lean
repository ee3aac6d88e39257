import Mathlib.Tactic.SplitIfs
import RowFilter.Predicate.Comparison
import RowFilter.Proofs.Text.Substring

/-!
# Texts without a wildcard

Nothing that is computed from texts without the default wildcard has one: neither the decimal and
calendar texts of values nor case mapping, trimming and slicing bring one in. For the case mapping
that is a property of its tables.
-/

namespace RowFilter

namespace Text

/-- The default wildcard does not occur in the text. -/
def WildcardFree (s : String) : Prop := defaultWildcard ∉ s.toList

instance : DecidablePred WildcardFree := fun s => inferInstanceAs (Decidable (_ ∉ s.toList))

@[simp]
theorem wildcardFree_ofList (cs : List Char) :
    WildcardFree (String.ofList cs) ↔ defaultWildcard ∉ cs := by
  rw [WildcardFree, String.toList_ofList]

@[simp]
theorem wildcardFree_append (s t : String) :
    WildcardFree (s ++ t) ↔ WildcardFree s ∧ WildcardFree t := by
  simp only [WildcardFree, String.toList_append, List.mem_append, not_or]

/-! ### Numbers and dates -/

theorem wildcard_notMem_toDigits (n : Nat) : defaultWildcard ∉ Nat.toDigits 10 n := fun h =>
  absurd (Nat.isDigit_of_mem_toDigits (by decide) (by decide) h) (by decide)

theorem wildcardFree_repr (n : Nat) : WildcardFree (Nat.repr n) :=
  (wildcardFree_ofList _).mpr (wildcard_notMem_toDigits n)

theorem wildcardFree_toString (n : Int) : WildcardFree (toString n) := by
  cases n with
  | ofNat n => exact wildcardFree_repr n
  | negSucc n => exact (wildcardFree_append "-" _).mpr ⟨by decide, wildcardFree_repr (n + 1)⟩

theorem wildcard_notMem_zeros (n : Nat) : defaultWildcard ∉ List.replicate n '0' := fun h =>
  absurd (List.eq_of_mem_replicate h) (by decide)

theorem wildcardFree_decimal (d : Decimal) : WildcardFree d.text := by
  have hdigits := wildcard_notMem_toDigits d.digits
  rw [Decimal.text]
  split
  · rw [wildcardFree_ofList, List.mem_append, not_or]
    exact ⟨hdigits, wildcard_notMem_zeros _⟩
  · have hpadded : defaultWildcard ∉
        List.replicate ((-d.exponent).toNat + 1 - (Nat.toDigits 10 d.digits).length) '0' ++
          Nat.toDigits 10 d.digits := by
      rw [List.mem_append, not_or]
      exact ⟨wildcard_notMem_zeros _, hdigits⟩
    -- the text before the point and the text after it are parts of the padded digits
    rw [wildcardFree_ofList, List.mem_append, not_or]
    refine ⟨fun h => hpadded (List.mem_of_mem_take h), ?_⟩
    split
    · exact List.not_mem_nil
    · rw [List.mem_cons, not_or]
      refine ⟨by decide, fun h => hpadded ?_⟩
      rw [List.mem_reverse] at h
      exact List.mem_of_mem_drop (List.mem_reverse.mp (List.dropWhile_subset _ h))

theorem wildcardFree_floating {f : FloatFormat} (x : Floating f) : WildcardFree x.text := by
  have hmagnitude : WildcardFree (
      if !x.isFinite then "inf"
      else if x.code = 0 then "0"
      else ((RoundingInterval.ofCode f x.code).shortest f.decimalDigits).text) := by
    split_ifs
    · decide
    · decide
    · exact wildcardFree_decimal _
  rw [Floating.text]
  split
  · decide
  · dsimp only
    split
    · exact (wildcardFree_append "-" _).mpr ⟨by decide, hmagnitude⟩
    · exact hmagnitude

theorem wildcardFree_padded (width : Nat) (n : Int) : WildcardFree (Date.padded width n) := by
  rw [Date.padded]
  simp only [wildcardFree_append, wildcardFree_ofList]
  refine ⟨⟨?_, wildcard_notMem_zeros _⟩, wildcardFree_repr _⟩
  split_ifs <;> decide

theorem wildcardFree_date (d : Date) : WildcardFree d.text := by
  rw [Date.text]
  split
  · simp only [wildcardFree_append]
    exact ⟨⟨⟨⟨wildcardFree_padded _ _, by decide⟩, wildcardFree_padded _ _⟩, by decide⟩,
      wildcardFree_padded _ _⟩
  · simp only [wildcardFree_append]
    refine ⟨⟨⟨by decide, ?_⟩, wildcardFree_toString _⟩, by decide⟩
    split_ifs <;> decide

/-! ### Parts of a text and case mapping -/

section

variable {s t : String}

theorem WildcardFree.trimStart (h : WildcardFree s) : WildcardFree (Text.trimStart s) :=
  (wildcardFree_ofList _).mpr fun hmem => h (List.dropWhile_subset _ hmem)

theorem WildcardFree.trimEnd (h : WildcardFree s) : WildcardFree (Text.trimEnd s) :=
  (wildcardFree_ofList _).mpr fun hmem =>
    h (List.mem_reverse.mp (List.dropWhile_subset _ (List.mem_reverse.mp hmem)))

theorem WildcardFree.trim (h : WildcardFree s) : WildcardFree (Text.trim s) := h.trimStart.trimEnd

theorem WildcardFree.of_isPart {start count : ℤ} (h : WildcardFree s)
    (ht : IsPart s start count t) : WildcardFree t := by
  obtain ⟨before, after, rfl, -, -⟩ := ht
  rw [wildcardFree_append, wildcardFree_append] at h
  exact h.1.2

theorem WildcardFree.substring {args : List Int64} (h : WildcardFree s)
    (ht : Value.substring s args = .ok t) : WildcardFree t := by
  match args with
  | [] =>
    cases ht
    exact h
  | [_] => exact h.of_isPart (Value.substring_start_eq_ok_iff.mp ht)
  | [_, _] => exact h.of_isPart (Value.substring_pair_eq_ok_iff.mp ht)
  | _ :: _ :: _ :: _ => cases ht

end

/-! ### Case mapping -/

theorem eq_of_ofNat_eq_wildcard {n : Nat} (h : Char.ofNat n = defaultWildcard) :
    n = defaultWildcard.toNat := by
  by_cases hvalid : n.isValidChar
  · rw [Char.ofNat, dif_pos hvalid] at h
    rw [← h]
    rfl
  · rw [Char.ofNat, dif_neg hvalid] at h
    exact absurd h (by decide)

/-- A table of runs does not map to the wildcard if no run does. -/
theorem image?_ne_wildcard {runs : List CaseTables.Run} {n m : Nat}
    (hruns : ∀ r ∈ runs, ¬((r.first : Int) + r.offset ≤ defaultWildcard.toNat ∧
      (defaultWildcard.toNat : Int) ≤ r.last + r.offset))
    (h : CaseTables.image? runs n = some m) : m ≠ defaultWildcard.toNat := by
  obtain ⟨r, hr, rfl⟩ := Option.map_eq_some_iff.mp h
  -- a run that reached the wildcard would have it between the images of its ends
  have hmem := hruns r (List.mem_of_find?_eq_some hr)
  have hcovers := List.find?_some hr
  simp only [Bool.and_eq_true, decide_eq_true_eq] at hcovers
  have hpos : 0 < defaultWildcard.toNat := by decide
  omega

/-- Only the wildcard maps to the wildcard, by tables in which neither a run nor an expansion has it
as an image. -/
theorem eq_wildcard_of_mem_mapped {expansions : List (Nat × List Nat)}
    {runs : List CaseTables.Run} {c : Char}
    (hexpansions : ∀ entry ∈ expansions, defaultWildcard.toNat ∉ entry.2)
    (hruns : ∀ r ∈ runs, ¬((r.first : Int) + r.offset ≤ defaultWildcard.toNat ∧
      (defaultWildcard.toNat : Int) ≤ r.last + r.offset))
    (h : defaultWildcard ∈
      match expansions.lookup c.toNat with
      | some ns => ns.map Char.ofNat
      | none => [Char.ofNat ((CaseTables.image? runs c.toNat).getD c.toNat)]) :
    c = defaultWildcard := by
  split at h
  next ns hns =>
    obtain ⟨before, after, hentry, -⟩ := List.lookup_eq_some_iff.mp hns
    obtain ⟨n, hn, hchar⟩ := List.mem_map.mp h
    have hmem : (c.toNat, ns) ∈ expansions := by
      rw [hentry]
      exact List.mem_append_right _ List.mem_cons_self
    rw [eq_of_ofNat_eq_wildcard hchar] at hn
    exact absurd hn (hexpansions _ hmem)
  next =>
    have hchar := eq_of_ofNat_eq_wildcard (List.mem_singleton.mp h).symm
    cases himage : CaseTables.image? runs c.toNat with
    | some m =>
      rw [himage] at hchar
      exact absurd hchar (image?_ne_wildcard hruns himage)
    | none =>
      rw [himage, Option.getD_none] at hchar
      rw [← Char.ofNat_toNat c, hchar]
      rfl

theorem eq_wildcard_of_mem_lowerChar {c : Char} (h : defaultWildcard ∈ lowerChar c) :
    c = defaultWildcard :=
  eq_wildcard_of_mem_mapped (by decide +kernel) (by decide +kernel) h

theorem eq_wildcard_of_mem_upperChar {c : Char} (h : defaultWildcard ∈ upperChar c) :
    c = defaultWildcard :=
  eq_wildcard_of_mem_mapped (by decide +kernel) (by decide +kernel) h

theorem wildcard_mem_of_mem_lowerFrom : ∀ {before cs : List Char},
    defaultWildcard ∈ lowerFrom before cs → defaultWildcard ∈ cs
  | _, [], h => by cases h
  | before, c :: cs, h => by
    rw [lowerFrom, List.mem_append] at h
    rcases h with h | h
    · split_ifs at h
      · exact absurd (List.mem_singleton.mp h) (by decide)
      · exact absurd (List.mem_singleton.mp h) (by decide)
      · rw [eq_wildcard_of_mem_lowerChar h]
        exact List.mem_cons_self
    · exact List.mem_cons_of_mem c (wildcard_mem_of_mem_lowerFrom h)

variable {s : String}

theorem WildcardFree.lower (h : WildcardFree s) : WildcardFree (Text.lower s) :=
  (wildcardFree_ofList _).mpr fun hmem => h (wildcard_mem_of_mem_lowerFrom hmem)

theorem WildcardFree.upper (h : WildcardFree s) : WildcardFree (Text.upper s) := by
  refine (wildcardFree_ofList _).mpr fun hmem => h ?_
  obtain ⟨c, hc, himage⟩ := List.mem_flatMap.mp hmem
  rwa [eq_wildcard_of_mem_upperChar himage] at hc

end Text

end RowFilter
