import RowFilter.Term.Evaluation
import RowFilter.Proofs.Compilation.Outcome

/-!
# Kinds of results

The kind under which an operation is carried out is the kind of its result, and two values of kinds
without arithmetic have no result under the kind that stands in for them. With both facts `joined?`
and `applied?` say what the signs make of values alone, without a tree or an expression around them.
-/

namespace RowFilter

/-! ### Kinds -/

theorem Kind.eq_text_of_isText {k : Kind} (h : k.isText = true) : k = .text := by
  cases k <;> first | rfl | cases h

/-- Kinds without arithmetic: neither is text, and behind a number there is no number. -/
theorem Kind.of_arithmeticResult_eq_none {j k : Kind} (h : arithmeticResult j k = none) :
    j.isText = false ∧ (j.isNumeric = true → k ≠ .null ∧ k.isNumeric = false) := by
  revert h
  cases j <;> cases k <;> decide

namespace Value

/-- Only null and numbers read as numbers. -/
theorem kind_of_toDouble? {v : Value} {x : Finite .double} (h : v.toDouble? = some x) :
    v.kind = .null ∨ v.kind.isNumeric = true := by
  cases v <;> simp_all [toDouble?, kind, Kind.isNumeric]

/-- A number is taken back to the kind that is asked for. -/
theorem kind_of_ofDouble? {kind : Kind} {x : Double} {v : Value}
    (h : ofDouble? kind x = some v) : v.kind = kind := by
  unfold ofDouble? at h
  split at h
  · cases h
  · cases kind <;> simp only [Option.map_eq_some_iff, reduceCtorEq] at h <;>
      obtain ⟨_, _, rfl⟩ := h <;> rfl

/-- The result of arithmetic has the kind that is asked for. -/
theorem kind_of_arithmetic {kind : Kind} {sign : Sign} {a b v : Value}
    (h : arithmetic kind sign a b = .ok v) : v.kind = kind := by
  rw [arithmetic] at h
  split at h
  next htext =>
    have hkind := Kind.eq_text_of_isText htext
    split at h
    · cases h
      exact hkind.symm
    · cases h
  next =>
    split at h
    · cases h
    · split at h
      · split at h
        · split at h
          next hv =>
            cases h
            exact kind_of_ofDouble? hv
          next => cases h
        · cases h
      · cases h

/-- Arithmetic needs a text kind, or a numeric kind and two numbers. -/
theorem kind_of_arithmetic_of_not_text {kind : Kind} {sign : Sign} {a b v : Value}
    (htext : kind.isText = false) (h : arithmetic kind sign a b = .ok v) :
    kind.isNumeric = true ∧ (b.kind = .null ∨ b.kind.isNumeric = true) := by
  rw [arithmetic, htext] at h
  cases hnumeric : kind.isNumeric with
  | false => simp [hnumeric] at h
  | true =>
    refine ⟨rfl, ?_⟩
    cases hb : b.toDouble? with
    | none =>
      rw [hb] at h
      simp [hnumeric] at h
    | some y => exact kind_of_toDouble? hb

/-- A function of texts gives a text, except for the length. -/
theorem kind_of_textFunction {sign : Sign} {s : String} {args : List Int64} {v : Value}
    (h : textFunction sign s args = .ok v) :
    v.kind = if sign = .length then .int else .text := by
  unfold textFunction at h
  split at h
  · cases h
  · cases sign <;> simp only [reduceCtorEq] at h
    case length =>
      split at h <;> cases h
      rfl
    case substring =>
      cases hs : substring s args <;> rw [hs] at h <;> cases h
      rfl
    all_goals
      cases h
      rfl

/-! ### Signs on values -/

/-- What an arithmetic sign makes of two values, if anything. -/
def joined? (sign : Sign) (a b : Value) : Option Value :=
  (Kind.arithmeticResult a.kind b.kind).bind fun kind => (arithmetic kind sign a b).toOption

/-- Where the kinds have no arithmetic, the kind that stands in has no result either. -/
theorem toOption_arithmetic_getD (sign : Sign) (a b : Value) :
    (arithmetic ((Kind.arithmeticResult a.kind b.kind).getD a.kind) sign a b).toOption =
      joined? sign a b := by
  rw [joined?]
  cases hkind : Kind.arithmeticResult a.kind b.kind with
  | some kind => rfl
  | none =>
    -- under the left kind the arithmetic fails too: it is no text, and after a number there is none
    obtain ⟨htext, hnumeric⟩ := Kind.of_arithmeticResult_eq_none hkind
    cases hresult : arithmetic a.kind sign a b with
    | error fault => simp [Except.toOption, hresult]
    | ok v =>
      obtain ⟨ha, hb⟩ := kind_of_arithmetic_of_not_text htext hresult
      obtain ⟨hnull, hnot⟩ := hnumeric ha
      rcases hb with hb | hb
      · exact absurd hb hnull
      · rw [hnot] at hb
        cases hb

/-- What a sign for texts makes of a value and its arguments, if anything. -/
def applied? (sign : Sign) (v : Value) (args : List Value) : Option Value :=
  v.coalescedText?.bind fun s =>
    (args.mapM index?).bind fun positions => (textFunction sign s positions).toOption

/-- A text sign gives an integer or a text. -/
theorem kind_of_applied? {sign : Sign} {v w : Value} {args : List Value}
    (h : applied? sign v args = some w) : w.kind = if sign = .length then .int else .text := by
  rw [applied?] at h
  obtain ⟨s, -, h⟩ := Option.bind_eq_some_iff.mp h
  obtain ⟨positions, -, h⟩ := Option.bind_eq_some_iff.mp h
  exact kind_of_textFunction (toOption_eq_some_iff.mp h)

end Value

end RowFilter
