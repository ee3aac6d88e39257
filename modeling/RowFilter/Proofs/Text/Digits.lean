import Mathlib.Algebra.Group.Nat.Defs
import Mathlib.Data.List.Basic

/-!
# Digits and separators

Texts are taken apart where the characters change: a run of characters of one sort ends where the
first of another sort stands, and digits give a number back however many zeros fill it up.
-/

namespace RowFilter

namespace Text

variable {a b x y cs : List Char} {c : Char}

/-! ### Separators -/

/-- Two texts that start with runs of one sort of characters are cut at the same place. -/
theorem run_append_inj {p : Char → Bool} (ha : ∀ c ∈ a, p c = true) (hb : ∀ c ∈ b, p c = true)
    (hx : ∀ c ∈ x.head?, p c = false) (hy : ∀ c ∈ y.head?, p c = false) (h : a ++ x = b ++ y) :
    a = b ∧ x = y := by
  have hrun : ∀ {a x : List Char}, (∀ c ∈ a, p c = true) → (∀ c ∈ x.head?, p c = false) →
      (a ++ x).takeWhile p = a := by
    intro a x ha hx
    have hstop : x.takeWhile p = [] := by
      cases x with
      | nil => rfl
      | cons c x => exact List.takeWhile_cons_of_neg (by simpa using hx c rfl)
    rw [List.takeWhile_append_of_pos ha, hstop, List.append_nil]
  have hab : a = b := by rw [← hrun ha hx, h, hrun hb hy]
  subst hab
  exact ⟨rfl, List.append_cancel_left h⟩

/-- Two texts are cut at the same place at their last separators. -/
theorem append_cons_inj_of_last (hx : c ∉ x) (hy : c ∉ y) (h : a ++ c :: x = b ++ c :: y) :
    a = b ∧ x = y := by
  have hne : ∀ {x : List Char}, c ∉ x → ∀ d ∈ x.reverse, (d != c) = true := by
    intro x hx d hd
    rw [List.mem_reverse] at hd
    exact bne_iff_ne.mpr (ne_of_mem_of_not_mem hd hx)
  have hreverse := congrArg List.reverse h
  simp only [List.reverse_append, List.reverse_cons, List.append_assoc, List.singleton_append]
    at hreverse
  obtain ⟨hxy, hab⟩ := run_append_inj (p := (· != c)) (hne hx) (hne hy) (by simp) (by simp) hreverse
  exact ⟨List.reverse_injective (List.cons.inj hab).2, List.reverse_injective hxy⟩

/-- A sign in front of a text can be told from the text, if the text has no sign in it. -/
theorem sign_append_inj {P Q : Prop} [Decidable P] [Decidable Q] (hx : '-' ∉ x) (hy : '-' ∉ y)
    (h : (if P then ['-'] else []) ++ x = (if Q then ['-'] else []) ++ y) : (P ↔ Q) ∧ x = y := by
  by_cases hP : P <;> by_cases hQ : Q <;> simp only [hP, hQ, if_true, if_false, List.nil_append,
    List.singleton_append] at h
  · exact ⟨iff_of_true hP hQ, (List.cons.inj h).2⟩
  · rw [← h] at hy
    exact absurd List.mem_cons_self hy
  · rw [h] at hx
    exact absurd List.mem_cons_self hx
  · exact ⟨iff_of_false hP hQ, h⟩

/-! ### Digits -/

/-- A character that is no digit does not occur among digits. -/
theorem not_mem_of_isDigit (h : ∀ d ∈ cs, d.isDigit = true) (hc : c.isDigit = false) : c ∉ cs := by
  intro hmem
  rw [h c hmem] at hc
  cases hc

/-- A number that is filled up with zeros has only digits in it. -/
theorem isDigit_of_mem_fill {filled n : Nat}
    (h : c ∈ List.replicate filled '0' ++ Nat.toDigits 10 n) : c.isDigit = true := by
  rcases List.mem_append.mp h with h | h
  · rw [List.eq_of_mem_replicate h]
    rfl
  · exact Nat.isDigit_of_mem_toDigits (by decide) (by decide) h

/-- Zeros in front of a number do not count. -/
theorem ofDigitChars_fill (filled n : Nat) :
    Nat.ofDigitChars 10 (List.replicate filled '0' ++ Nat.toDigits 10 n) 0 = n := by
  rw [Nat.ofDigitChars_append, Nat.ofDigitChars_replicate_zero, Nat.mul_zero,
    Nat.ofDigitChars_ten_toDigits]

/-- A number is determined by its digits, however many zeros fill them up. -/
theorem fill_inj (filled filled' : Nat) {m n : Nat}
    (h : List.replicate filled '0' ++ Nat.toDigits 10 m =
      List.replicate filled' '0' ++ Nat.toDigits 10 n) : m = n := by
  rw [← ofDigitChars_fill filled m, h, ofDigitChars_fill]

/-- The text of a natural number is its digits. -/
theorem toList_nat (n : Nat) : (toString n).toList = Nat.toDigits 10 n := by
  rw [Nat.toString_eq_ofList_toDigits, String.toList_ofList]

/-- The text of a natural number determines it. -/
theorem nat_inj {m n : Nat} (h : toString m = toString n) : m = n := by
  have htext := congrArg String.toList h
  rw [toList_nat, toList_nat] at htext
  rw [← Nat.ofDigitChars_ten_toDigits (n := m), htext, Nat.ofDigitChars_ten_toDigits]

/-- The text of an integer is its digits, after a sign if it is negative. -/
theorem toList_int (n : Int) :
    (toString n).toList = (if n < 0 then ['-'] else []) ++ Nat.toDigits 10 n.natAbs := by
  rw [Int.toString_eq_repr, Int.repr_eq_if]
  by_cases hneg : n < 0
  · have habs : (-n).toNat = n.natAbs := by omega
    rw [if_neg (by omega), if_pos hneg, habs, Nat.repr_eq_ofList_toDigits]
    simp
  · have habs : n.toNat = n.natAbs := by omega
    rw [if_pos (by omega), if_neg hneg, habs, Nat.repr_eq_ofList_toDigits, String.toList_ofList,
      List.nil_append]

/-- Digits have no sign in them. -/
theorem not_mem_fill (filled n : Nat) : '-' ∉ List.replicate filled '0' ++ Nat.toDigits 10 n :=
  not_mem_of_isDigit (fun _ => isDigit_of_mem_fill) rfl

/-- The text of an integer determines it. -/
theorem int_inj {m n : Int} (h : toString m = toString n) : m = n := by
  have htext := congrArg String.toList h
  rw [toList_int, toList_int] at htext
  obtain ⟨hsign, hdigits⟩ := sign_append_inj (not_mem_fill 0 _) (not_mem_fill 0 _) htext
  have habs : m.natAbs = n.natAbs := fill_inj 0 0 hdigits
  omega

/-- Zeros behind a number multiply it. -/
theorem ofDigitChars_append_zeros (cs : List Char) (cut : Nat) :
    Nat.ofDigitChars 10 (cs ++ List.replicate cut '0') 0 = 10 ^ cut * Nat.ofDigitChars 10 cs 0 := by
  rw [Nat.ofDigitChars_append, Nat.ofDigitChars_replicate_zero]

end Text

end RowFilter
