import Mathlib.Algebra.Order.Ring.Int
import RowFilter.Value.Operation

/-!
# Substrings

`Text.IsPart` says which text stands at a position of another one, without cutting it out. Parts of
parts are parts, parts that meet make one part together, and a substring gives just the part that
its arguments ask for (`Value.substring_eq_ok_iff_isPart`).

The same part can be found by machine words. There the arguments are converted to words, subtracted
and added, each time with a check that nothing wraps (`Value.wordSubstring`). As long as the length
of the text is a word, the checks refuse only what does not lie in the text, for words of any width.
-/

namespace RowFilter

namespace Text

/-- The text `t` is made of the `count` characters of `s` that start at position `start`. -/
def IsPart (s : String) (start count : ℤ) (t : String) : Prop :=
  ∃ before after : String, s = before ++ t ++ after ∧ before.length = start ∧ t.length = count

variable {s t u : String} {start count : ℤ}

/-! ### Where a part lies -/

/-- A part lies within the text. -/
theorem IsPart.within (h : IsPart s start count t) :
    0 ≤ start ∧ 0 ≤ count ∧ start + count ≤ s.length := by
  obtain ⟨before, after, rfl, rfl, rfl⟩ := h
  simp only [String.length_append]
  omega

/-- A slice is the part of the text at its position. -/
theorem slice?_eq_some_iff : slice? s start count = some t ↔ IsPart s start count t := by
  constructor
  · intro h
    rw [slice?] at h
    split at h
    next hrange =>
      cases h
      have hlength := s.length_toList
      refine ⟨.ofList (s.toList.take start.toNat),
        .ofList ((s.toList.drop start.toNat).drop count.toNat), ?_, ?_, ?_⟩
      · rw [← String.toList_inj]
        simp only [String.toList_append, String.toList_ofList, List.append_assoc,
          List.take_append_drop]
      · rw [String.length_ofList, List.length_take]
        omega
      · rw [String.length_ofList, List.length_take, List.length_drop]
        omega
    next => cases h
  · intro h
    rw [slice?, if_pos h.within]
    obtain ⟨before, after, rfl, rfl, rfl⟩ := h
    simp [← String.length_toList]

theorem exists_isPart_iff :
    (∃ t, IsPart s start count t) ↔ 0 ≤ start ∧ 0 ≤ count ∧ start + count ≤ s.length := by
  constructor
  · rintro ⟨t, h⟩
    exact h.within
  · intro h
    exact ⟨_, slice?_eq_some_iff.mp (if_pos h)⟩

/-! ### Parts of parts -/

/-- A part of a part is a part of the whole. -/
theorem IsPart.trans {start' count' : ℤ} (h : IsPart s start count t)
    (h' : IsPart t start' count' u) : IsPart s (start + start') count' u := by
  obtain ⟨before, after, rfl, rfl, rfl⟩ := h
  obtain ⟨before', after', rfl, rfl, rfl⟩ := h'
  refine ⟨before ++ before', after' ++ after, ?_, ?_, rfl⟩
  · simp only [String.append_assoc]
  · rw [String.length_append, Int.natCast_add]

/-- Two parts of which the second starts where the first one ends are a part together. -/
theorem IsPart.append {count' : ℤ} (h : IsPart s start count t)
    (h' : IsPart s (start + count) count' u) : IsPart s start (count + count') (t ++ u) := by
  obtain ⟨before, after, rfl, rfl, rfl⟩ := h
  obtain ⟨before', after', hsplit, hbefore, rfl⟩ := h'
  -- the characters before the second part are those up to the end of the first
  have hparts : (before ++ t).toList ++ after.toList = before'.toList ++ (u ++ after').toList := by
    rw [← String.toList_append, ← String.toList_append, hsplit, String.append_assoc]
  have hlength : (before ++ t).toList.length = before'.toList.length := by
    rw [String.length_toList, String.length_toList, String.length_append]
    omega
  have hafter : after = u ++ after' :=
    String.toList_inj.mp (List.append_inj_right hparts hlength)
  refine ⟨before, after', ?_, rfl, ?_⟩
  · rw [hafter]
    simp only [String.append_assoc]
  · rw [String.length_append, Int.natCast_add]

/-- The part as long as the text is the text. -/
theorem isPart_length_iff : IsPart s 0 s.length t ↔ t = s := by
  constructor
  · rintro ⟨before, after, rfl, hbefore, hlength⟩
    simp only [String.length_append] at hbefore hlength
    have hempty : before = "" ∧ after = "" := by
      rw [← String.length_eq_zero_iff, ← String.length_eq_zero_iff]
      omega
    rw [hempty.1, hempty.2, String.empty_append, String.append_empty]
  · rintro rfl
    exact ⟨"", "", by rw [String.empty_append, String.append_empty], rfl, rfl⟩

end Text

namespace Value

open Text (IsPart slice?)

variable {s t u : String} {a b c d : Int64} {args : List Int64}

/-! ### What a substring gives -/

/-- What is cut out of a text, or the fault that it leaves the text. -/
def orOutOfRange (t? : Option String) : Except Fault String :=
  t?.elim (.error .outOfRange) .ok

theorem orOutOfRange_eq_ok_iff {t? : Option String} : orOutOfRange t? = .ok t ↔ t? = some t := by
  cases t? <;> simp [orOutOfRange]

theorem sliced_eq (start count : ℤ) :
    substring.sliced s start count = orOutOfRange (slice? s start count) := by
  rw [substring.sliced]
  cases slice? s start count <;> rfl

/-- Of two arguments, a start and a length. -/
theorem substring_pair_eq_ok_iff :
    substring s [a, b] = .ok t ↔ IsPart s a.toInt b.toInt t := by
  rw [← Text.slice?_eq_some_iff, ← orOutOfRange_eq_ok_iff, ← sliced_eq]
  rfl

/-- Of one argument, a start. -/
theorem substring_start_eq_ok_iff :
    substring s [a] = .ok t ↔ IsPart s a.toInt (s.length - a.toInt) t := by
  rw [← Text.slice?_eq_some_iff, ← orOutOfRange_eq_ok_iff, ← sliced_eq]
  rfl

theorem substring_of_two_lt_length (h : 2 < args.length) :
    substring s args = .error .outOfRange := by
  match args, h with
  | _ :: _ :: _ :: _, _ => rfl

/-- A start alone is the start together with the length that is left. -/
theorem substring_start_eq_pair (hs : (s.length : ℤ) < 2 ^ 63) :
    substring s [a] = substring s [a, .ofInt (s.length - a.toInt)] := by
  have hlow := a.le_toInt
  have hhigh := a.toInt_lt
  change substring.sliced _ _ _ = substring.sliced _ _ _
  by_cases ha : 0 ≤ a.toInt
  · rw [Int64.toInt_ofInt_of_le (by omega) (by omega)]
  · -- the length that is left may wrap, but there is no such start
    rw [sliced_eq, sliced_eq, Text.slice?, Text.slice?, if_neg (by omega), if_neg (by omega)]

/-- A substring of a substring is a substring, from the sum of the two starts. -/
theorem isPart_of_substring_substring (ht : substring s [a, b] = .ok t)
    (hu : substring t [c, d] = .ok u) : IsPart s (a.toInt + c.toInt) d.toInt u :=
  (substring_pair_eq_ok_iff.mp ht).trans (substring_pair_eq_ok_iff.mp hu)

/-- The sum of the two starts does not wrap, as it lies in the text. -/
theorem substring_substring (hs : (s.length : ℤ) < 2 ^ 63) (ht : substring s [a, b] = .ok t)
    (hu : substring t [c, d] = .ok u) : substring s [a + c, d] = .ok u := by
  have hpart := isPart_of_substring_substring ht hu
  have hsum : (a + c).toInt = a.toInt + c.toInt := by
    obtain ⟨hstart, hcount, hend⟩ := hpart.within
    rw [Int64.toInt_add, Int.bmod_eq_of_le] <;> omega
  rw [substring_pair_eq_ok_iff, hsum]
  exact hpart

/-- A text is cut in two at every position. -/
theorem exists_substring_append (hlow : 0 ≤ a.toInt) (hhigh : a.toInt ≤ s.length) :
    ∃ t u, substring s [0, a] = .ok t ∧ substring s [a] = .ok u ∧ t ++ u = s := by
  obtain ⟨t, ht⟩ : ∃ t, IsPart s 0 a.toInt t := Text.exists_isPart_iff.mpr (by omega)
  obtain ⟨u, hu⟩ : ∃ u, IsPart s (0 + a.toInt) (s.length - a.toInt) u :=
    Text.exists_isPart_iff.mpr (by omega)
  have hwhole : IsPart s 0 s.length (t ++ u) := by
    have hsum : a.toInt + (s.length - a.toInt) = s.length := by omega
    rw [← hsum]
    exact ht.append hu
  rw [Int.zero_add] at hu
  exact ⟨t, u, substring_pair_eq_ok_iff.mpr ht, substring_start_eq_ok_iff.mpr hu,
    Text.isPart_length_iff.mp hwhole⟩

/-! ### Positions in machine words -/

section

variable {w : ℕ} {x y z : BitVec w} {n : Int64}

/-- The word that stands for an integer, if there is one. -/
def word? (w : ℕ) (n : Int64) : Option (BitVec w) :=
  if 0 ≤ n.toInt ∧ n.toInt < 2 ^ w then some (.ofInt w n.toInt) else none

/-- The sum of two words, if it is a word. -/
def checkedAdd? (x y : BitVec w) : Option (BitVec w) :=
  if x.uaddOverflow y then none else some (x + y)

/-- The difference of two words, if it is a word. -/
def checkedSub? (x y : BitVec w) : Option (BitVec w) :=
  if x.usubOverflow y then none else some (x - y)

/-- The characters from a word on, as many as a word says. The end is checked before the text is
cut. -/
def wordSlice? (s : String) (start count : BitVec w) : Option String := do
  let stop ← checkedAdd? start count
  if stop ≤ .ofNat w s.length then
    some (.ofList ((s.toList.drop start.toNat).take count.toNat))
  else none

/-- A substring whose positions are words of a width. -/
def wordSubstring (w : ℕ) (s : String) : List Int64 → Except Fault String
  | [] => .ok s
  | [start] => orOutOfRange do
    let start ← word? w start
    wordSlice? s start (← checkedSub? (.ofNat w s.length) start)
  | [start, count] => orOutOfRange do
    let start ← word? w start
    wordSlice? s start (← word? w count)
  | _ => .error .outOfRange

/-- An integer in the range of words is read back from its word. -/
theorem toNat_ofInt_of_lt {i : ℤ} (hlow : 0 ≤ i) (hhigh : i < 2 ^ w) :
    ((BitVec.ofInt w i).toNat : ℤ) = i := by
  have hmod : i % ((2 ^ w : ℕ) : ℤ) = i := Int.emod_eq_of_lt hlow (by exact_mod_cast hhigh)
  rw [BitVec.toNat_ofInt, hmod, Int.toNat_of_nonneg hlow]

theorem word?_eq_some_iff : word? w n = some x ↔ (x.toNat : ℤ) = n.toInt := by
  have hx : (x.toNat : ℤ) < 2 ^ w := by exact_mod_cast x.isLt
  rw [word?]
  constructor
  · intro h
    split at h
    next hrange =>
      cases h
      exact toNat_ofInt_of_lt hrange.1 hrange.2
    next => cases h
  · intro h
    rw [if_pos ⟨by omega, by omega⟩, ← h, BitVec.ofInt_natCast, BitVec.ofNat_toNat,
      BitVec.setWidth_eq]

theorem checkedAdd?_eq_some_iff : checkedAdd? x y = some z ↔ z.toNat = x.toNat + y.toNat := by
  by_cases hsum : x.toNat + y.toNat < 2 ^ w
  · have hfits : x.uaddOverflow y = false := decide_eq_false (by omega)
    rw [checkedAdd?, hfits, if_neg Bool.false_ne_true, Option.some_inj, ← BitVec.toNat_inj,
      BitVec.toNat_add_of_lt hsum, eq_comm]
  · have hwraps : x.uaddOverflow y = true := decide_eq_true (by omega)
    have hz := z.isLt
    rw [checkedAdd?, hwraps, if_pos rfl]
    exact iff_of_false nofun (by omega)

theorem checkedSub?_eq_some_iff : checkedSub? x y = some z ↔ x.toNat = y.toNat + z.toNat := by
  by_cases hle : y ≤ x
  · have hfits : x.usubOverflow y = false := decide_eq_false (Nat.not_lt_of_le hle)
    rw [checkedSub?, hfits, if_neg Bool.false_ne_true, Option.some_inj, ← BitVec.toNat_inj,
      BitVec.toNat_sub_of_le hle]
    rw [BitVec.le_def] at hle
    omega
  · have hwraps : x.usubOverflow y = true := decide_eq_true (Nat.lt_of_not_le hle)
    rw [BitVec.le_def] at hle
    rw [checkedSub?, hwraps, if_pos rfl]
    exact iff_of_false nofun (by omega)

theorem toNat_ofNat_length (hs : s.length < 2 ^ w) :
    (BitVec.ofNat w s.length).toNat = s.length := by
  rw [BitVec.toNat_ofNat, Nat.mod_eq_of_lt hs]

/-- The check for overflow refuses only what does not lie in the text. -/
theorem wordSlice?_eq_some_iff (hs : s.length < 2 ^ w) :
    wordSlice? s x y = some t ↔ IsPart s x.toNat y.toNat t := by
  rw [← Text.slice?_eq_some_iff, wordSlice?, slice?]
  simp only [Option.bind_eq_bind, Option.bind_eq_some_iff, checkedAdd?_eq_some_iff, BitVec.le_def,
    toNat_ofNat_length hs, Int.toNat_natCast]
  constructor
  · rintro ⟨stop, hstop, h⟩
    split at h
    next hend =>
      rw [if_pos ⟨by omega, by omega, by omega⟩]
      exact h
    next => cases h
  · intro h
    split at h
    next hrange =>
      -- an end that lies in the text is a word, since the length of the text is one
      have hstop : (BitVec.ofNat w (x.toNat + y.toNat)).toNat = x.toNat + y.toNat := by
        rw [BitVec.toNat_ofNat, Nat.mod_eq_of_lt (by omega)]
      refine ⟨_, hstop, ?_⟩
      rw [if_pos (by omega)]
      exact h
    next => cases h

/-- The start of a part and its length are words. -/
theorem exists_words_of_isPart {start count : ℤ} (hs : s.length < 2 ^ w)
    (h : IsPart s start count t) :
    ∃ x y : BitVec w, (x.toNat : ℤ) = start ∧ (y.toNat : ℤ) = count := by
  obtain ⟨hstart, hcount, hend⟩ := h.within
  have hlength : (s.length : ℤ) < 2 ^ w := by exact_mod_cast hs
  exact ⟨_, _, toNat_ofInt_of_lt hstart (by omega), toNat_ofInt_of_lt hcount (by omega)⟩

/-- A start alone, where the length that is left is a difference of words. -/
theorem wordSlice?_start (hs : s.length < 2 ^ w) :
    ((word? w a).bind fun start =>
      (checkedSub? (.ofNat w s.length) start).bind fun count => wordSlice? s start count) =
      slice? s a.toInt (s.length - a.toInt) := by
  ext t
  simp only [Option.bind_eq_some_iff, word?_eq_some_iff, checkedSub?_eq_some_iff,
    wordSlice?_eq_some_iff hs, toNat_ofNat_length hs, Text.slice?_eq_some_iff]
  constructor
  · rintro ⟨start, hstart, count, hcount, h⟩
    have hleft : (s.length : ℤ) - a.toInt = count.toNat := by omega
    rw [hleft, ← hstart]
    exact h
  · intro h
    obtain ⟨start, count, hstart, hcount⟩ := exists_words_of_isPart hs h
    refine ⟨start, hstart, count, by omega, ?_⟩
    rw [hstart, hcount]
    exact h

/-- A start and a length. -/
theorem wordSlice?_pair (hs : s.length < 2 ^ w) :
    ((word? w a).bind fun start => (word? w b).bind fun count => wordSlice? s start count) =
      slice? s a.toInt b.toInt := by
  ext t
  simp only [Option.bind_eq_some_iff, word?_eq_some_iff, wordSlice?_eq_some_iff hs,
    Text.slice?_eq_some_iff]
  constructor
  · rintro ⟨start, hstart, count, hcount, h⟩
    rw [← hstart, ← hcount]
    exact h
  · intro h
    obtain ⟨start, count, hstart, hcount⟩ := exists_words_of_isPart hs h
    refine ⟨start, hstart, count, hcount, ?_⟩
    rw [hstart, hcount]
    exact h

/-- By words the same substring is found. -/
theorem wordSubstring_eq (hs : s.length < 2 ^ w) : wordSubstring w s args = substring s args := by
  match args with
  | [] => rfl
  | [a] => exact (congrArg orOutOfRange (wordSlice?_start hs)).trans (sliced_eq _ _).symm
  | [a, b] => exact (congrArg orOutOfRange (wordSlice?_pair hs)).trans (sliced_eq _ _).symm
  | _ :: _ :: _ :: _ => rfl

end

/-- A substring is an exact part of a text. A start and a length give so many characters from the
start on, and a start alone gives all characters from there on. It fails if they do not lie in the
text, and out of range if there are more arguments. A substring of a substring is one substring,
from the sum of the two starts, and the two substrings that meet at a position make the text. Words
of any width find the same with checks for overflow, as long as the length of the text is a word. -/
theorem substring_eq_ok_iff_isPart :
    (∀ (s : String) (a b : Int64),
      ((∃ t, substring s [a, b] = .ok t) ↔
        0 ≤ a.toInt ∧ 0 ≤ b.toInt ∧ a.toInt + b.toInt ≤ s.length) ∧
      ∀ t, substring s [a, b] = .ok t ↔ IsPart s a.toInt b.toInt t) ∧
    (∀ (s : String) (a : Int64),
      ((∃ t, substring s [a] = .ok t) ↔ 0 ≤ a.toInt ∧ a.toInt ≤ s.length) ∧
      (∀ t, substring s [a] = .ok t ↔ IsPart s a.toInt (s.length - a.toInt) t) ∧
      ((s.length : ℤ) < 2 ^ 63 →
        substring s [a] = substring s [a, .ofInt (s.length - a.toInt)])) ∧
    (∀ (s : String) (args : List Int64), 2 < args.length →
      substring s args = .error .outOfRange) ∧
    (∀ (s t u : String) (a b c d : Int64),
      substring s [a, b] = .ok t → substring t [c, d] = .ok u →
      IsPart s (a.toInt + c.toInt) d.toInt u ∧
      ((s.length : ℤ) < 2 ^ 63 → substring s [a + c, d] = .ok u)) ∧
    (∀ (s : String) (k : Int64), 0 ≤ k.toInt → k.toInt ≤ s.length →
      ∃ t u, substring s [0, k] = .ok t ∧ substring s [k] = .ok u ∧ t ++ u = s) ∧
    ∀ (w : ℕ) (s : String) (args : List Int64), s.length < 2 ^ w →
      wordSubstring w s args = substring s args := by
  refine ⟨fun s a b => ⟨?_, fun t => substring_pair_eq_ok_iff⟩,
    fun s a => ⟨?_, fun t => substring_start_eq_ok_iff, substring_start_eq_pair⟩,
    fun _ _ => substring_of_two_lt_length,
    fun _ _ _ _ _ _ _ ht hu =>
      ⟨isPart_of_substring_substring ht hu, fun hs => substring_substring hs ht hu⟩,
    fun _ _ => exists_substring_append, fun _ _ _ => wordSubstring_eq⟩
  · simp only [substring_pair_eq_ok_iff, Text.exists_isPart_iff]
  · simp only [substring_start_eq_ok_iff, Text.exists_isPart_iff]
    omega

/-- Positions count characters, of which some take several bytes here. The sum of the last two
positions is a small word of eight bits if it wraps, and refused by its check. -/
theorem substring_eq_ok_iff_isPart_smorgas :
    let s := "smörgåsbord"
    (substring s [2, 6] = .ok "örgåsb" ∧ IsPart s 2 6 "örgåsb") ∧
      (substring s [8] = .ok "ord" ∧ substring s [8, 3] = .ok "ord") ∧
      substring s [0, 1, 2] = .error .outOfRange ∧
      (substring "örgåsb" [1, 2] = .ok "rg" ∧ IsPart s 3 2 "rg" ∧
        substring s [3, 2] = .ok "rg") ∧
      (∃ t u, substring s [0, 4] = .ok t ∧ substring s [4] = .ok u ∧ t ++ u = s) ∧
      substring s [250, 10] = .error .outOfRange ∧
        wordSubstring 8 s [250, 10] = .error .outOfRange := by
  intro s
  obtain ⟨hpair, hstart, hmany, hnested, hsplit, hword⟩ := substring_eq_ok_iff_isPart
  have houter : substring s [2, 6] = .ok "örgåsb" := by decide
  have hinner : substring "örgåsb" [1, 2] = .ok "rg" := by decide
  have hrest : substring s [8] = .ok "ord" := by decide
  have hbeyond : substring s [250, 10] = .error .outOfRange := by decide
  obtain ⟨hpart, hsum⟩ := hnested s _ _ 2 6 1 2 houter hinner
  refine ⟨⟨houter, ((hpair s 2 6).2 _).mp houter⟩, ⟨hrest, ?_⟩, hmany s [0, 1, 2] (by decide),
    ⟨hinner, hpart, hsum (by decide)⟩, hsplit s 4 (by decide) (by decide), hbeyond, ?_⟩
  · have hleft : Int64.ofInt (s.length - Int64.toInt 8) = 3 := by decide
    have hsame := (hstart s 8).2.2 (by decide)
    rw [hleft] at hsame
    rw [← hsame]
    exact hrest
  · rw [hword 8 s [250, 10] (by decide)]
    exact hbeyond

end Value

end RowFilter
