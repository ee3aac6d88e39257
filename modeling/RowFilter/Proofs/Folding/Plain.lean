import RowFilter.Proofs.Compilation.Equations
import RowFilter.Proofs.Compilation.Operators
import RowFilter.Proofs.Folding.Scalar
import RowFilter.Proofs.Text.Wildcard

/-!
# Plain values

A plain value is one that a comparison takes as it is: not null, no list, and no text in which the
default wildcard occurs. What folds out of plain values is plain again, so the constants that the
compilation of a scalar expression brings into a comparison are plain if those of the expression
are.
-/

namespace RowFilter

/-- A value that a canonical comparison does not rewrite. -/
structure Value.IsPlain (v : Value) : Prop where
  /-- The value is not null. -/
  notNull : v.isNull = false
  /-- The value is no list. -/
  notList : v.isList = false
  /-- The value is no text with a wildcard in it. -/
  notWildcarded : v.isWildcarded defaultWildcard = false

namespace Value

/-- A text is plain if it is free of wildcards. -/
theorem isPlain_text_iff {s : String} : (text s).IsPlain ↔ Text.WildcardFree s := by
  rw [Text.WildcardFree, ← List.contains_iff_mem, Bool.not_eq_true]
  exact ⟨fun h => h.notWildcarded, fun h => ⟨rfl, rfl, h⟩⟩

/-- Numbers are plain. -/
theorem isPlain_of_isNumeric {v : Value} (h : v.kind.isNumeric = true) : v.IsPlain := by
  cases v <;> first | exact ⟨rfl, rfl, rfl⟩ | cases h

/-- The content of a plain value is free of wildcards. -/
theorem IsPlain.plainText {v : Value} (h : v.IsPlain) : Text.WildcardFree v.plainText := by
  cases v with
  | null => cases h.notNull
  | bool b => cases b <;> decide
  | int n => exact Text.wildcardFree_toString n.toInt
  | uint n => exact Text.wildcardFree_repr n.toNat
  | float32 x => exact Text.wildcardFree_floating x.toFloating
  | float64 x => exact Text.wildcardFree_floating x.toFloating
  | text s => exact isPlain_text_iff.mp h
  | date d => exact Text.wildcardFree_date d
  | list items => cases h.notList

/-- Arithmetic on plain values gives plain values. -/
theorem IsPlain.joined? {sign : Sign} {a b v : Value} (ha : a.IsPlain) (hb : b.IsPlain)
    (h : Value.joined? sign a b = some v) : v.IsPlain := by
  obtain ⟨kind, -, h⟩ := Option.bind_eq_some_iff.mp h
  rw [toOption_eq_some_iff] at h
  cases htext : kind.isText with
  | false =>
    have hnumeric := (kind_of_arithmetic_of_not_text htext h).1
    rw [← kind_of_arithmetic h] at hnumeric
    exact isPlain_of_isNumeric hnumeric
  | true =>
    rw [arithmetic, if_pos htext] at h
    split at h
    · cases h
      rw [isPlain_text_iff, Text.wildcardFree_append]
      exact ⟨ha.plainText, hb.plainText⟩
    · cases h

/-- Functions of plain texts give plain values. -/
theorem IsPlain.applied? {sign : Sign} {v w : Value} {args : List Value} (hv : v.IsPlain)
    (h : Value.applied? sign v args = some w) : w.IsPlain := by
  obtain ⟨s, hs, h⟩ := Option.bind_eq_some_iff.mp h
  obtain ⟨positions, -, h⟩ := Option.bind_eq_some_iff.mp h
  rw [toOption_eq_some_iff] at h
  -- null reads as a text too, but it is not plain
  have hfree : Text.WildcardFree s := by
    cases v <;> simp only [coalescedText?, Option.some.injEq, reduceCtorEq] at hs
    case null => cases hv.notNull
    case text =>
      rw [← hs]
      exact isPlain_text_iff.mp hv
  unfold textFunction at h
  split at h
  · cases h
  · cases sign <;> simp only [Except.ok.injEq, reduceCtorEq] at h
    case length =>
      split at h <;> cases h
      exact isPlain_of_isNumeric rfl
    case substring =>
      cases hsub : substring s positions with
      | error fault =>
        rw [hsub] at h
        cases h
      | ok part =>
        rw [hsub] at h
        cases h
        exact isPlain_text_iff.mpr (hfree.substring hsub)
    all_goals
      subst h
      rw [isPlain_text_iff]
    · exact hfree.lower
    · exact hfree.upper
    · exact hfree.trimStart
    · exact hfree.trimEnd
    · exact hfree.trim

/-- A length is plain. -/
theorem isPlain_of_length? {v w : Value} (h : v.length? = some w) : w.IsPlain := by
  unfold length? at h
  split at h
  · obtain ⟨n, -, rfl⟩ := Option.map_eq_some_iff.mp h
    exact isPlain_of_isNumeric rfl
  · obtain ⟨n, -, rfl⟩ := Option.map_eq_some_iff.mp h
    exact isPlain_of_isNumeric rfl
  · cases h

end Value

/-! ### Settled operands -/

/-- An operand that the right side of a comparison takes as it is: a plain value, or a term that is
no literal. -/
def Operand.IsSettled : Operand → Prop
  | .term t => t.isLiteral = false
  | .value v => v.IsPlain

namespace Compilation

variable {config : Config} {entity : Entity}

/-- A scalar expression of plain constants compiles to a settled operand. -/
theorem isSettled_of_lowerOperand {e : Expr} (he : e.Scalar Value.IsPlain) :
    ∀ {n : Nat} {t : Trace} {o : Operand},
      outcome? (lowerOperand config n entity e) t = some o → o.IsSettled := by
  induction he with
  | constant hv =>
    intro n t o h
    rw [eq_of_lowerOperand_constant h]
    exact hv
  | field name =>
    intro n t o h
    obtain ⟨u, hu, rfl⟩ := exists_of_lowerOperand_field h
    obtain ⟨field, -, rfl⟩ := Term.ofEntity_eq_ok_iff.mp hu
    rfl
  | arithmetic hop _ _ ihleft ihright =>
    intro n t o h
    obtain ⟨n, l, r, _, _, _, rfl, hl, hr, h⟩ := exists_of_lowerOperand_arithmetic hop h
    rcases arithmeticOf_cases h with ⟨a, b, v, rfl, rfl, hv, rfl⟩ | ⟨-, -, rfl⟩
    · exact Value.IsPlain.joined? (ihleft hl) (ihright hr) hv
    · rfl
  | textFunction hmethod _ _ ihtarget _ =>
    intro n t o h
    obtain ⟨n, u, os, _, _, _, rfl, hu, -, h⟩ := exists_of_lowerOperand_textFunction hmethod h
    rcases textFunctionOf_cases h with ⟨v, vs, w, rfl, -, hw, rfl⟩ | ⟨_, w, -, hw, rfl⟩
    · exact Value.IsPlain.applied? (ihtarget hu) hw
    · obtain ⟨-, -, -, -, rfl⟩ := Term.apply_eq_ok_iff.mp hw
      rfl
  | length htarget _ =>
    intro n t o h
    obtain ⟨n, u, _, _, rfl, -, h⟩ := exists_of_lowerOperand_member htarget.ne_row h
    rcases memberOf_cases h with ⟨v, w, -, rfl, hw⟩ | ⟨_, w, _, -, -, hw, rfl⟩
    · rcases hw with ⟨-, hw⟩ | ⟨hname, -⟩
      · exact Value.isPlain_of_length? hw
      · exact absurd hname (by decide)
    · obtain ⟨-, -, -, -, rfl⟩ := Term.apply_eq_ok_iff.mp hw
      rfl

end Compilation

end RowFilter
