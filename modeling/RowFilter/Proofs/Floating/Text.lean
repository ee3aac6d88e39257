import Mathlib.Data.List.DropRight
import RowFilter.Proofs.Floating.Shortest
import RowFilter.Proofs.Text.Digits

/-!
# The decimal text determines the number

A positional text is read back by dropping its point and dividing by the power of ten of the places
behind it (`valueOf`). Reading the text of a decimal gives its value, whatever zeros were filled in
or cut off (`valueOf_text`), so the text of a finite number determines its sign and its shortest
decimal, and with it the number (`Finite.text_injective`).
-/

namespace RowFilter

namespace Decimal

/-! ### Reading a positional text -/

/-- The number that a positional text stands for. -/
def valueOf (cs : List Char) : ℚ :=
  Nat.ofDigitChars 10 (cs.filter (· ≠ '.')) 0 / 10 ^ ((cs.dropWhile (· ≠ '.')).length - 1)

/-- A text without a point is a whole number. -/
theorem valueOf_whole {whole : List Char} (h : '.' ∉ whole) :
    valueOf whole = Nat.ofDigitChars 10 whole 0 := by
  have hne : ∀ c ∈ whole, decide (c ≠ '.') = true :=
    fun c hc => decide_eq_true (ne_of_mem_of_not_mem hc h)
  have hfilter : whole.filter (· ≠ '.') = whole := List.filter_eq_self.mpr hne
  have hplaces : whole.dropWhile (· ≠ '.') = [] := List.dropWhile_eq_nil_iff.mpr hne
  rw [valueOf, hfilter, hplaces]
  simp

/-- A text with a point is a whole number over a power of ten. -/
theorem valueOf_point {whole fraction : List Char} (hwhole : '.' ∉ whole)
    (hfraction : '.' ∉ fraction) :
    valueOf (whole ++ '.' :: fraction) =
      Nat.ofDigitChars 10 (whole ++ fraction) 0 / 10 ^ fraction.length := by
  have hne : ∀ cs : List Char, '.' ∉ cs → ∀ c ∈ cs, decide (c ≠ '.') = true :=
    fun cs h c hc => decide_eq_true (ne_of_mem_of_not_mem hc h)
  have hfilter : (whole ++ '.' :: fraction).filter (· ≠ '.') = whole ++ fraction := by
    rw [List.filter_append, List.filter_eq_self.mpr (hne _ hwhole),
      List.filter_cons_of_neg (by decide), List.filter_eq_self.mpr (hne _ hfraction)]
  have hplaces : (whole ++ '.' :: fraction).dropWhile (· ≠ '.') = '.' :: fraction := by
    rw [List.dropWhile_append_of_pos (hne _ hwhole), List.dropWhile_cons_of_neg (by decide)]
  rw [valueOf, hfilter, hplaces, List.length_cons, Nat.add_sub_cancel]

/-! ### The text of a decimal -/

/-- Zeros cut off behind can be put back. -/
theorem exists_rdropWhile_append_zeros (cs : List Char) :
    ∃ cut, cs.rdropWhile (· = '0') ++ List.replicate cut '0' = cs := by
  have hzeros : ∀ c ∈ cs.rtakeWhile (· = '0'), c = '0' := by
    intro c hc
    simpa using List.mem_rtakeWhile_imp hc
  refine ⟨(cs.rtakeWhile (· = '0')).length, ?_⟩
  rw [← List.eq_replicate_of_mem hzeros]
  exact List.rdropWhile_append_rtakeWhile

/-- The digits in front of the point and behind it stand for a decimal. -/
structure Spells (d : Decimal) (whole fraction : List Char) : Prop where
  /-- They are digits. -/
  isDigit : ∀ c ∈ whole ++ fraction, c.isDigit = true
  /-- As one number they are the value, but for the places behind the point. -/
  value_eq : (Nat.ofDigitChars 10 (whole ++ fraction) 0 / 10 ^ fraction.length : ℚ) = d.value

variable {d : Decimal} {whole fraction : List Char}

/-- Zeros behind the digits stand for a power of ten. -/
theorem spells_of_nonneg (h : 0 ≤ d.exponent) :
    d.Spells (Nat.toDigits 10 d.digits ++ List.replicate d.exponent.toNat '0') [] where
  isDigit c hc := by
    rw [List.append_nil, List.mem_append] at hc
    rcases hc with hc | hc
    · exact Nat.isDigit_of_mem_toDigits (by decide) (by decide) hc
    · rw [List.eq_of_mem_replicate hc]
      rfl
  value_eq := by
    obtain ⟨n, hn⟩ := Int.eq_ofNat_of_zero_le h
    rw [List.append_nil, Text.ofDigitChars_append_zeros, Nat.ofDigitChars_ten_toDigits, value, hn,
      Int.toNat_natCast, zpow_natCast, mul_comm]
    simp

/-- Zeros in front of the digits do not count, nor do zeros at the end of a fraction. -/
theorem spells_of_fill (filled cut : Nat)
    (hexponent : d.exponent = -((fraction.length + cut : Nat) : Int))
    (hdigits : List.replicate filled '0' ++ Nat.toDigits 10 d.digits =
      whole ++ fraction ++ List.replicate cut '0') : d.Spells whole fraction where
  isDigit c hc := by
    have hmem := List.mem_append_left (List.replicate cut '0') hc
    rw [← hdigits] at hmem
    exact Text.isDigit_of_mem_fill hmem
  value_eq := by
    have hvalue : (d.digits : ℚ) = 10 ^ cut * Nat.ofDigitChars 10 (whole ++ fraction) 0 := by
      have h := congrArg (Nat.ofDigitChars 10 · 0) hdigits
      simp only [Text.ofDigitChars_fill, Text.ofDigitChars_append_zeros] at h
      exact_mod_cast h
    have hten : (10 : ℚ) ^ cut ≠ 0 := by positivity
    rw [value, hvalue, hexponent, zpow_neg, zpow_natCast, pow_add, ← div_eq_mul_inv,
      mul_comm ((10 : ℚ) ^ fraction.length), mul_div_mul_left _ _ hten]

/-- Digits cut at the point stand for a decimal, also without the zeros at their end. -/
theorem spells_take_drop {filled places : Nat} {padded : List Char}
    (hpadded : List.replicate filled '0' ++ Nat.toDigits 10 d.digits = padded)
    (hexponent : d.exponent = -(places : Int)) (hplaces : places ≤ padded.length) :
    d.Spells (padded.take (padded.length - places))
      ((padded.drop (padded.length - places)).rdropWhile (· = '0')) := by
  have hcount : (padded.drop (padded.length - places)).length = places := by
    rw [List.length_drop]
    omega
  obtain ⟨cut, hsplit⟩ := exists_rdropWhile_append_zeros (padded.drop (padded.length - places))
  have hlength := congrArg List.length hsplit
  rw [List.length_append, List.length_replicate, hcount] at hlength
  refine spells_of_fill filled cut ?_ ?_
  · rw [hexponent, hlength]
  · rw [List.append_assoc, hsplit, List.take_append_drop, hpadded]

/-- The text of a decimal is digits that stand for it, with a point unless nothing is behind it. -/
theorem exists_spells (d : Decimal) :
    ∃ whole fraction, d.Spells whole fraction ∧ whole ≠ [] ∧
      d.text.toList = whole ++ if fraction.isEmpty then [] else '.' :: fraction := by
  unfold text
  dsimp only
  split
  next hwhole =>
    refine ⟨_, [], spells_of_nonneg hwhole, ?_, ?_⟩
    · exact List.append_ne_nil_of_left_ne_nil Nat.toDigits_ne_nil _
    · rw [String.toList_ofList]
      exact (List.append_nil _).symm
  next hneg =>
    -- so many zeros are filled in that a digit is left in front of the point
    have hlong : (-d.exponent).toNat <
        (List.replicate ((-d.exponent).toNat + 1 - (Nat.toDigits 10 d.digits).length) '0' ++
          Nat.toDigits 10 d.digits).length := by
      have hlength := Nat.length_toDigits_pos (b := 10) (n := d.digits)
      rw [List.length_append, List.length_replicate]
      omega
    refine ⟨_, _, spells_take_drop rfl (by omega) hlong.le, ?_, String.toList_ofList⟩
    rw [ne_eq, List.take_eq_nil_iff, not_or]
    exact ⟨by omega, List.ne_nil_of_length_pos (Nat.zero_lt_of_lt hlong)⟩

/-- The text of a decimal has only digits and points in it. -/
theorem isDigit_or_eq_point_of_mem_text {c : Char} (h : c ∈ d.text.toList) :
    c.isDigit = true ∨ c = '.' := by
  obtain ⟨whole, fraction, hspells, -, htext⟩ := d.exists_spells
  rw [htext, List.mem_append] at h
  rcases h with h | h
  · exact .inl (hspells.isDigit c (List.mem_append_left _ h))
  · split at h
    · cases h
    · rcases List.mem_cons.mp h with rfl | h
      · exact .inr rfl
      · exact .inl (hspells.isDigit c (List.mem_append_right _ h))

/-- The text of a decimal is not empty. -/
theorem text_ne_empty (d : Decimal) : d.text ≠ "" := by
  obtain ⟨whole, fraction, -, hne, htext⟩ := d.exists_spells
  intro h
  rw [h] at htext
  exact hne (List.append_eq_nil_iff.mp htext.symm).1

/-- Reading the text of a decimal gives its value. -/
theorem valueOf_text (d : Decimal) : valueOf d.text.toList = d.value := by
  obtain ⟨whole, fraction, hspells, -, htext⟩ := d.exists_spells
  have hpoint := Text.not_mem_of_isDigit (c := '.') hspells.isDigit rfl
  rw [List.mem_append, not_or] at hpoint
  rw [htext, ← hspells.value_eq]
  cases fraction with
  | nil => simpa using valueOf_whole hpoint.1
  | cons c fraction => exact valueOf_point hpoint.1 hpoint.2

end Decimal

/-! ### The text of a number -/

namespace Finite

variable {f : FloatFormat}

/-- The decimal that is printed for the magnitude of a number. -/
def decimal (x : Finite f) : Decimal :=
  if x.code = 0 then ⟨0, 0⟩ else (RoundingInterval.ofCode f x.code).shortest f.decimalDigits

/-- The text of a finite number is its sign and a decimal. -/
theorem toList_text (x : Finite f) :
    x.toFloating.text.toList =
      (if x.negative = true then ['-'] else []) ++ x.decimal.text.toList := by
  have hnan : x.toFloating.isNaN = false := decide_eq_false (Nat.lt_asymm x.code_lt_infinity)
  have hzero : (⟨0, 0⟩ : Decimal).text = "0" := rfl
  have htext : (if x.code = 0 then "0" else
      ((RoundingInterval.ofCode f x.code).shortest f.decimalDigits).text) = x.decimal.text := by
    rw [decimal]
    split
    · exact hzero.symm
    · rfl
  simp only [Floating.text, hnan, x.isFinite_toFloating, htext]
  cases x.negative <;> simp

/-- The characters of the text of a number are digits, points and signs. -/
theorem mem_text {x : Finite f} {c : Char} (h : c ∈ x.toFloating.text.toList) :
    c.isDigit = true ∨ c ∈ ".-".toList := by
  rw [toList_text, List.mem_append] at h
  rcases h with h | h
  · split at h
    · rw [List.mem_singleton.mp h]
      exact .inr (by decide)
    · cases h
  · rcases Decimal.isDigit_or_eq_point_of_mem_text h with h | rfl
    · exact .inl h
    · exact .inr (by decide)

/-- The text of a number is not empty. -/
theorem text_ne_empty (x : Finite f) : x.toFloating.text ≠ "" := by
  intro h
  have htext := toList_text x
  rw [h] at htext
  have hdecimal := (List.append_eq_nil_iff.mp htext.symm).2
  exact x.decimal.text_ne_empty (String.toList_eq_nil_iff.mp hdecimal)

/-- The text of a decimal has no sign in it. -/
theorem not_mem_text_decimal (d : Decimal) : '-' ∉ d.text.toList := by
  intro h
  rcases Decimal.isDigit_or_eq_point_of_mem_text h with h | h <;> revert h <;> decide

/-- Numbers of the same decimal value have the same code. -/
theorem code_eq_of_value_eq (hf : RoundingInterval.DigitsSuffice f) {x y : Finite f}
    (h : x.decimal.value = y.decimal.value) : x.code = y.code := by
  have hmem : ∀ z : Finite f, z.code ≠ 0 →
      (RoundingInterval.ofCode f z.code).Mem z.decimal.value := by
    intro z hz
    rw [decimal, if_neg hz]
    exact RoundingInterval.mem_shortest_ofCode hf (Nat.pos_of_ne_zero hz)
  have hzero : ∀ z : Finite f, z.code = 0 → z.decimal.value = 0 := by
    intro z hz
    rw [decimal, if_pos hz, Decimal.value]
    simp
  by_cases hx : x.code = 0 <;> by_cases hy : y.code = 0
  · rw [hx, hy]
  -- zero is no number of a rounding interval
  · have hpos := (hmem y hy).pos (Nat.pos_of_ne_zero hy)
    rw [← h, hzero x hx] at hpos
    exact absurd hpos (lt_irrefl _)
  · have hpos := (hmem x hx).pos (Nat.pos_of_ne_zero hx)
    rw [h, hzero y hy] at hpos
    exact absurd hpos (lt_irrefl _)
  · exact RoundingInterval.code_eq_of_mem (hmem x hx) (h ▸ hmem y hy)

/-- The decimal text of a finite number determines it. -/
theorem text_injective (hf : RoundingInterval.DigitsSuffice f) {x y : Finite f}
    (h : x.toFloating.text = y.toFloating.text) : x = y := by
  rw [← String.toList_inj, toList_text, toList_text] at h
  obtain ⟨hsign, htext⟩ :=
    Text.sign_append_inj (not_mem_text_decimal _) (not_mem_text_decimal _) h
  have hnegative := Bool.eq_iff_iff.mpr hsign
  have hvalue : x.decimal.value = y.decimal.value := by
    rw [← Decimal.valueOf_text, htext, Decimal.valueOf_text]
  have hcode := code_eq_of_value_eq hf hvalue
  obtain ⟨⟨negative, code, _⟩, _, _⟩ := x
  obtain ⟨⟨negative', code', _⟩, _, _⟩ := y
  simp only at hnegative hcode
  subst hnegative hcode
  rfl

end Finite

end RowFilter
