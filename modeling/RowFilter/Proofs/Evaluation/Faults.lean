import RowFilter.Proofs.Evaluation.Operations
import RowFilter.Proofs.Floating.Range

/-!
# Faults of operations

On values that fit the kinds under which an operation was admitted, the operation fails only because
a result or an argument is out of range. A value fits a kind if it is null or of the kind, as the
value of a member in a row is.
-/

namespace RowFilter

/-- The value is one that a member of a kind may have in a row: null, or of that kind. -/
def Value.Inhabits (kind : Kind) (v : Value) : Prop := v = .null ∨ v.kind = kind

/-- Kinds with arithmetic: the result is a text, or both kinds and the result are of numbers. -/
theorem Kind.of_arithmeticResult_eq_some {j k kind : Kind}
    (h : arithmeticResult j k = some kind) :
    kind = .text ∨ kind.isNumeric = true ∧ (j = .null ∨ j.isNumeric = true) ∧
      (k = .null ∨ k.isNumeric = true) := by
  revert h
  cases j <;> cases k <;> simp [arithmeticResult, isNumeric] <;> rintro rfl <;> simp

namespace Value

/-- A value of a kind of numbers, or null, can be read as a number. -/
theorem Inhabits.exists_toDouble? {kind : Kind} {v : Value} (h : v.Inhabits kind)
    (hkind : kind = .null ∨ kind.isNumeric = true) : ∃ x, v.toDouble? = some x := by
  refine Value.exists_toDouble? ?_
  rcases h with rfl | rfl
  · exact .inl rfl
  · exact hkind

/-- The four signs of arithmetic combine any two numbers. -/
theorem exists_combine? {sign : Sign} (h : sign.isArithmetic = true) (x y : Finite .double) :
    ∃ z, combine? sign x y = some z := by
  cases sign <;> first | exact ⟨_, rfl⟩ | cases h

/-- Arithmetic under the kind that two declared kinds yield fails only out of range. -/
theorem fault_of_arithmetic {j k kind : Kind} {sign : Sign} {a b : Value} {fault : Fault}
    (hkind : Kind.arithmeticResult j k = some kind) (hsign : sign.isArithmetic = true)
    (htext : kind = .text → sign = .add) (ha : a.Inhabits j) (hb : b.Inhabits k)
    (h : arithmetic kind sign a b = .error fault) : fault = .outOfRange := by
  rcases Kind.of_arithmeticResult_eq_some hkind with rfl | ⟨hnumeric, hj, hk⟩
  · -- texts are only ever added, which does not fail
    rw [htext rfl] at h
    cases h
  · obtain ⟨x, hx⟩ := ha.exists_toDouble? hj
    obtain ⟨y, hy⟩ := hb.exists_toDouble? hk
    obtain ⟨z, hz⟩ := exists_combine? hsign x y
    have hnottext : kind.isText = false := by
      cases kind <;> first | rfl | cases hnumeric
    rw [arithmetic, hnottext, hnumeric] at h
    simp only [Bool.false_eq_true, if_false, Bool.not_true, hx, hy, hz] at h
    split at h <;> cases h
    rfl

/-- A function of texts fails only out of range. -/
theorem fault_of_textFunction {sign : Sign} {s : String} {args : List Int64} {fault : Fault}
    (hsign : sign.isString = true) (h : textFunction sign s args = .error fault) :
    fault = .outOfRange := by
  unfold textFunction at h
  split at h
  · cases h
    rfl
  · cases sign <;> simp only [reduceCtorEq] at h <;> try (cases hsign; done)
    case length =>
      split at h <;> cases h
      rfl
    case substring =>
      cases hsub : substring s args with
      | ok t =>
        rw [hsub] at h
        cases h
      | error fault' =>
        rw [hsub] at h
        cases h
        unfold substring substring.sliced at hsub
        split at hsub <;> (try split at hsub) <;> cases hsub <;> rfl

/-- A value of an integer kind that is no position is an unsigned integer beyond the signed ones. -/
theorem Inhabits.of_index?_eq_none {kind : Kind} {v : Value} (h : v.Inhabits kind)
    (hkind : kind.isInteger = true) (hindex : v.index? = none) :
    v = .null ∨ ∃ n : UInt64, v = .uint n ∧ Int64.maxValue.toInt < n.toNat := by
  rcases h with rfl | rfl
  · exact .inl rfl
  · cases v with
    | int n => cases hindex
    | uint n =>
      refine .inr ⟨n, rfl, ?_⟩
      have hlow : Int64.minValue.toInt ≤ (n.toNat : Int) := by
        have hmin : Int64.minValue.toInt ≤ 0 := by decide
        omega
      by_contra hle
      rw [index?, int64?, if_pos ⟨hlow, by omega⟩] at hindex
      cases hindex
    | _ => cases hkind

/-- A value of kind text, or null, is a text to work on. -/
theorem Inhabits.exists_coalescedText? {v : Value} (h : v.Inhabits .text) :
    ∃ s, v.coalescedText? = some s := by
  rcases h with rfl | h
  · exact ⟨_, rfl⟩
  · cases v <;> first | exact ⟨_, rfl⟩ | cases h

end Value

end RowFilter
