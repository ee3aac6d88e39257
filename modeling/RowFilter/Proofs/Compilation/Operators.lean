import RowFilter.Proofs.Evaluation.Construction
import RowFilter.Proofs.Evaluation.Operations

/-!
# What the operators of the compilation return

Each operator of the compilation makes an operand of operands. Over constants it folds, and the
outcome is what `Value.joined?`, `Value.applied?` or `Value.length?` say of the constants. Over
anything else it grows a term, under the checks of the term's constructor. The `_cases` lemmas of
this module say all that a successful operator can have done.
-/

namespace RowFilter

/-- Length of a text or a list as a value, if it is within the integers. -/
def Value.length? : Value → Option Value
  | .text s => (int64? s.length).map .int
  | .list items => (int64? items.length).map .int
  | _ => none

/-- On a text the length is what the sign of lengths makes of it. -/
theorem Value.applied?_length {v : Value} (h : v.kind = .text) :
    v.applied? .length [] = v.length? := by
  cases v <;> simp only [kind, reduceCtorEq] at h
  case text s =>
    rw [applied?, length?]
    cases hn : int64? s.length <;> simp [coalescedText?, textFunction, hn]

namespace Compilation

variable {shown : String} {sign : Sign} {t : Trace} {o : Operand}

theorem outcome?_foldedOr (r : Except Fault Value) :
    outcome? (foldedOr shown r) t = r.toOption.map .value := by
  cases r <;> rfl

theorem outcome?_foldedLength (n : Nat) :
    outcome? (foldedLength shown n) t = ((Value.int64? n).map .int).map .value := by
  unfold foldedLength
  cases Value.int64? n <;> rfl

/-! ### Arithmetic -/

/-- Two constants joined by a sign fold to what the sign makes of them. -/
theorem outcome?_arithmeticOf_value (a b : Value) :
    outcome? (arithmeticOf shown (.value a) sign (.value b)) t =
      (Value.joined? sign a b).map .value := by
  simp only [arithmeticOf, Value.joined?]
  cases Kind.arithmeticResult a.kind b.kind with
  | none => rfl
  | some kind => exact outcome?_foldedOr _

/-- Anything but two constants is joined as it is. -/
theorem outcome?_arithmeticOf {l r : Operand}
    (hterm : l.value? = none ∨ r.value? = none) :
    outcome? (arithmeticOf shown l sign r) t = (Term.join l sign r).toOption.map .term := by
  cases l with
  | term _ => simp [arithmeticOf, Option.map_eq_bind]
  | value _ =>
    cases r with
    | term _ => simp [arithmeticOf, Option.map_eq_bind]
    | value _ => simp [Operand.value?] at hterm

/-- Successful arithmetic has folded two constants or joined its sides. -/
theorem arithmeticOf_cases {l r : Operand}
    (h : outcome? (arithmeticOf shown l sign r) t = some o) :
    (∃ a b v, l = .value a ∧ r = .value b ∧ Value.joined? sign a b = some v ∧ o = .value v) ∨
      (l.value? = none ∨ r.value? = none) ∧ sign.isArithmetic = true ∧
        o = .term (.binary l sign r) := by
  by_cases hterm : l.value? = none ∨ r.value? = none
  · rw [outcome?_arithmeticOf hterm] at h
    obtain ⟨w, hw, rfl⟩ := Option.map_eq_some_iff.mp h
    obtain ⟨hsign, rfl⟩ := Term.join_eq_ok_iff.mp (toOption_eq_some_iff.mp hw)
    exact .inr ⟨hterm, hsign, rfl⟩
  · left
    cases l with
    | term _ => simp [Operand.value?] at hterm
    | value a =>
      cases r with
      | term _ => simp [Operand.value?] at hterm
      | value b =>
        rw [outcome?_arithmeticOf_value] at h
        obtain ⟨v, hv, rfl⟩ := Option.map_eq_some_iff.mp h
        exact ⟨a, b, v, rfl, rfl, hv, rfl⟩

/-! ### Text functions -/

/-- Plain values are read as positions one by one. -/
theorem positions?_map_value (vs : List Value) :
    positions? (vs.map .value) = vs.mapM Value.index? := by
  induction vs with
  | nil => rfl
  | cons v vs ih => rw [List.map_cons, positions?, ih, List.mapM_cons]

/-- Only plain values are positions. -/
theorem exists_of_positions? : ∀ {os : List Operand} {positions : List Int64},
    positions? os = some positions → ∃ vs : List Value, os = vs.map .value
  | [], _, _ => ⟨[], rfl⟩
  | .value v :: os, _, h => by
    rw [positions?] at h
    obtain ⟨_, -, h⟩ := Option.bind_eq_some_iff.mp h
    obtain ⟨_, hrest, -⟩ := Option.bind_eq_some_iff.mp h
    obtain ⟨vs, rfl⟩ := exists_of_positions? hrest
    exact ⟨v :: vs, rfl⟩

/-- A text function on constants folds to what its sign makes of them. -/
theorem outcome?_textFunctionOf_value (v : Value) (args : List Value) :
    outcome? (textFunctionOf shown sign (.value v) (args.map .value)) t =
      (Value.applied? sign v args).map .value := by
  simp only [textFunctionOf, Value.applied?, positions?_map_value]
  cases v.coalescedText? with
  | none => rfl
  | some s =>
    simp only [Option.bind_some]
    cases args.mapM Value.index? with
    | none => rfl
    | some positions => exact outcome?_foldedOr _

/-- A successful text function has folded constants or applied its sign to a term. -/
theorem textFunctionOf_cases {target : Operand} {args : List Operand}
    (h : outcome? (textFunctionOf shown sign target args) t = some o) :
    (∃ v vs w, target = .value v ∧ args = vs.map .value ∧ Value.applied? sign v vs = some w ∧
        o = .value w) ∨
      ∃ u w, target = .term u ∧
        Term.apply t.registry sign u (args.map Operand.toTerm) = .ok w ∧ o = .term w := by
  cases target with
  | term u =>
    right
    simp only [textFunctionOf, outcome?_get_bind, outcome?_ofExcept_bind, outcome?_pure] at h
    obtain ⟨w, hw, ho⟩ := Option.bind_eq_some_iff.mp h
    exact ⟨u, w, rfl, toOption_eq_some_iff.mp hw, (Option.some.inj ho).symm⟩
  | value v =>
    left
    -- a text that is known needs known positions
    have hvalues : ∃ vs : List Value, args = vs.map .value := by
      simp only [textFunctionOf] at h
      split at h
      · cases h
      · split at h
        · cases h
        next hpositions => exact exists_of_positions? hpositions
    obtain ⟨vs, rfl⟩ := hvalues
    rw [outcome?_textFunctionOf_value] at h
    obtain ⟨w, hw, rfl⟩ := Option.map_eq_some_iff.mp h
    exact ⟨v, vs, w, rfl, rfl, hw, rfl⟩

/-! ### Members of computed targets -/

/-- The length of a constant folds. -/
theorem outcome?_memberOf_length (v : Value) :
    outcome? (memberOf shown (.value v) "length") t = v.length?.map .value := by
  cases v <;> first | rfl | exact outcome?_foldedLength _

/-- A successful access to a member has folded a constant or applied a sign to a term. -/
theorem memberOf_cases {target : Operand} {name : String}
    (h : outcome? (memberOf shown target name) t = some o) :
    (∃ v w, target = .value v ∧ o = .value w ∧
        (name = "length" ∧ v.length? = some w ∨ name = "has_value" ∧ w = .bool (!v.isNull))) ∨
      ∃ u w applied, target = .term u ∧ Sign.ofMember? name = some applied ∧
        Term.apply t.registry applied u [] = .ok w ∧ o = .term w := by
  cases target with
  | term u =>
    right
    simp only [memberOf] at h
    split at h
    next applied hsign =>
      simp only [outcome?_get_bind, outcome?_ofExcept_bind, outcome?_pure] at h
      obtain ⟨w, hw, ho⟩ := Option.bind_eq_some_iff.mp h
      exact ⟨u, w, applied, rfl, hsign, toOption_eq_some_iff.mp hw, (Option.some.inj ho).symm⟩
    next => cases h
  | value v =>
    left
    by_cases hlength : name = "length"
    · rw [hlength, outcome?_memberOf_length] at h
      obtain ⟨w, hw, rfl⟩ := Option.map_eq_some_iff.mp h
      exact ⟨v, w, rfl, rfl, .inl ⟨hlength, hw⟩⟩
    · simp only [memberOf, hlength, if_false] at h
      split at h
      next hname =>
        cases h
        exact ⟨v, _, rfl, rfl, .inr ⟨hname, rfl⟩⟩
      next => cases h

/-! ### Operators that only fold -/

/-- An operator before one operand only ever gives a constant. -/
theorem unaryOf_cases {op : UnaryOp} {operand : Operand}
    (h : outcome? (unaryOf shown op operand) t = some o) : ∃ v, o = .value v := by
  simp only [unaryOf] at h
  split at h
  · cases h
  · split at h
    · split at h <;> cases h
      exact ⟨_, rfl⟩
    · split at h
      · split at h <;> cases h
        exact ⟨_, rfl⟩
      · cases h
    · rw [outcome?_foldedLength] at h
      obtain ⟨v, -, rfl⟩ := Option.map_eq_some_iff.mp h
      exact ⟨v, rfl⟩
    · cases h

/-- An item of a list is always a constant. -/
theorem itemOf_cases {list index : Operand}
    (h : outcome? (itemOf shown list index) t = some o) : ∃ v, o = .value v := by
  simp only [itemOf] at h
  split at h
  · split at h
    · cases h
    · split at h <;> cases h
      exact ⟨_, rfl⟩
  · cases h

/-- A condition is only an operand as a truth value. -/
theorem asOperand_cases {condition : Option Predicate}
    (h : outcome? (asOperand shown condition) t = some o) : ∃ b, o = .value (.bool b) := by
  unfold asOperand at h
  split at h <;> cases h
  exact ⟨_, rfl⟩

end Compilation

end RowFilter
