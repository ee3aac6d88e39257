import RowFilter.Compilation.Basic
import RowFilter.Proofs.Canonical.Compilation
import RowFilter.Proofs.Cbor.Nesting
import RowFilter.Proofs.Cbor.RoundTrip
import RowFilter.Proofs.Compilation.Congruence
import RowFilter.Proofs.Compilation.Equations
import RowFilter.Proofs.Compilation.Steadiness
import RowFilter.Proofs.Evaluation.Faults

/-!
# Encoding what is compiled

A level of the compilation nests a term by up to three and a predicate by up to five, and the
constants of the expression nest as they are given. So the bound on the nesting of expressions is
one on the nesting of compiled trees (`nestsWithin_of_lowerOperand`, `nesting_of_lowerPredicate`).
The reader of bytes has a bound of its own, and what is below it is read back as it was compiled.
The default bound on expressions does not keep trees below it: a sum of many constants and a member
is written and not read back.
-/

namespace RowFilter

open Item

/-! ### Constants -/

mutual

/-- How deep the deepest constant of an expression nests as an item. -/
def Expr.constantNesting : Expr → Nat
  | .row | .nonFinite _ => 0
  | .constant v => v.toItem.nesting
  | .member target _ => target.constantNesting
  | .unary _ operand => operand.constantNesting
  | .binary _ left right => max left.constantNesting right.constantNesting
  | .call target _ args => max target.constantNesting (Expr.maxConstantNesting args)
  | .staticCall _ args => Expr.maxConstantNesting args
  | .existsIn outer _ _ _ => outer.constantNesting
  | .existsWhere outer _ _ filter _ => max outer.constantNesting filter.constantNesting

/-- How deep the deepest constant of several expressions nests as an item. -/
def Expr.maxConstantNesting : List Expr → Nat
  | [] => 0
  | e :: es => max e.constantNesting (Expr.maxConstantNesting es)

end

namespace Expr

/-- The constants of a part are constants of the whole. -/
theorem constantNesting_le_of_mem_parts {c e : Expr} (h : c ∈ e.parts) :
    c.constantNesting ≤ e.constantNesting := by
  have hparts : maxConstantNesting e.parts ≤ e.constantNesting := by
    cases e <;> simp [constantNesting, maxConstantNesting, parts]
  refine Nat.le_trans (le_of_mem_of_cons_eq_max (fun a as => ?_) h) hparts
  rw [maxConstantNesting]

end Expr

/-! ### Items of trees -/

/-- Only lists nest deeper than by one. -/
theorem Value.nesting_le_one {v : Value} (h : v.isList = false) : v.toItem.nesting ≤ 1 := by
  have hatom : ∀ {name : String} {item : Item}, item.nesting = 0 →
      (variant name item).nesting ≤ 1 := by
    intro name item hitem
    rw [nesting_variant, hitem]
  have hint : ∀ n : Int, (Item.ofInt n).nesting = 0 := by
    intro n
    unfold Item.ofInt
    split <;> rfl
  have hsingle : ∀ x : Single, (Item.ofSingle x).nesting = 0 := by
    intro x
    unfold Item.ofSingle
    dsimp only
    split <;> rfl
  cases v with
  | null => exact Nat.zero_le 1
  | int n => exact hatom (hint _)
  | date d => exact hatom (hint _)
  | float32 x => exact hatom (hsingle _)
  | float64 x =>
    refine hatom ?_
    unfold Item.ofDouble
    dsimp only
    split
    next => exact hsingle _
    next => rfl
  | list _ => cases h
  | _ => exact hatom rfl

/-- The items of a list nest less deep than the list. -/
theorem Value.nesting_lt_of_mem {v : Value} {items : List Value} (h : v ∈ items) :
    v.toItem.nesting < (Value.list items).toItem.nesting := by
  have hmember : v.toItem.nesting ≤ nestingAll (Value.toItems items) := by
    refine le_of_mem_of_cons_eq_max (f := fun w => w.toItem.nesting)
      (g := fun ws => nestingAll (Value.toItems ws)) (fun w ws => ?_) h
    rw [Value.toItems, nestingAll]
  rw [Value.toItem, nesting_variant, nesting]
  omega

section

variable (l r o : Operand) (u w : Term) (p q : Predicate)

theorem Term.nesting_member (ref : MemberRef) : (Term.member ref).toItem.nesting = 2 := rfl

theorem Term.nesting_literal (v : Value) (assigned : Bool) :
    (Term.literal v assigned).toItem.nesting = v.toItem.nesting + 2 := by
  simp [Term.toItem, nestingAll, nesting]

theorem Term.nesting_binary (s : Sign) :
    (Term.binary l s r).toItem.nesting = max l.toItem.nesting r.toItem.nesting + 2 := by
  simp [Term.toItem, nestingAll, nesting]

theorem Term.nesting_unary (s : Sign) (args : List Term) :
    (Term.unary s u args).toItem.nesting =
      max u.toItem.nesting (nestingAll (Term.toItems args) + 1) + 2 := by
  simp [Term.toItem, nestingAll, nesting]

theorem Operand.nesting_term : (Operand.term u).toItem.nesting = u.toItem.nesting + 1 := by
  rw [Operand.toItem, nesting_variant]

theorem Operand.nesting_value (v : Value) :
    (Operand.value v).toItem.nesting = v.toItem.nesting + 1 := by
  rw [Operand.toItem, nesting_variant]

theorem Predicate.nesting_joined (op : Connective) :
    (Predicate.joined p op q).toItem.nesting = max p.toItem.nesting q.toItem.nesting + 2 := by
  simp [Predicate.toItem, nestingAll, nesting]

theorem Predicate.nesting_solo (op : Connective) :
    (Predicate.solo op p).toItem.nesting = p.toItem.nesting + 2 := by
  simp [Predicate.toItem, nestingAll, nesting]

theorem Predicate.nesting_comparison (c : Comparator) (right : RightSide) (ignoreCase : Bool) :
    (Predicate.comparison u c right ignoreCase).toItem.nesting =
      max u.toItem.nesting right.toItem.nesting + 2 := by
  simp [Predicate.toItem, comparisonItem, nestingAll, nesting]

theorem Predicate.nesting_subquery (inner : Inner) (negated : Bool) :
    (Predicate.subquery u inner negated).toItem.nesting =
      max u.toItem.nesting inner.toItem.nesting + 2 := by
  simp [Predicate.toItem, nestingAll, nesting]

theorem Predicate.nesting_shortCircuit (b : Bool) :
    (Predicate.shortCircuit b).toItem.nesting = 1 := rfl

end

/-! ### Operands -/

/-- A value of a kind of texts or numbers is no list. -/
theorem Value.isList_of_kind {v : Value} (h : v.kind = .text ∨ v.kind.isNumeric = true) :
    v.isList = false := by
  cases v <;> first | rfl | (rcases h with h | h <;> cases h)

/-- An operand, compiled with a number of levels, nests within a bound on constants and three for
each level. -/
structure Operand.NestsWithin (constants levels : Nat) (o : Operand) : Prop where
  /-- A plain value nests within the bound on constants. -/
  value_le : ∀ v, o = .value v → v.toItem.nesting ≤ constants
  /-- The operand nests by three more for each level. -/
  nesting_le : o.toItem.nesting ≤ 3 * levels + constants

namespace Operand.NestsWithin

variable {b n : Nat} {o : Operand}

theorem of_value {v : Value} (hn : 1 ≤ n) (hv : v.toItem.nesting ≤ b) :
    (Operand.value v).NestsWithin b n := by
  refine ⟨?_, by rw [nesting_value]; omega⟩
  rintro _ ⟨⟩
  exact hv

theorem of_isList_eq_false {v : Value} (hb : 1 ≤ b) (hn : 1 ≤ n) (hv : v.isList = false) :
    (Operand.value v).NestsWithin b n :=
  of_value hn (Nat.le_trans (Value.nesting_le_one hv) hb)

theorem of_term {u : Term} (hu : u.toItem.nesting + 1 ≤ 3 * n + b) :
    (Operand.term u).NestsWithin b n :=
  ⟨nofun, by rwa [nesting_term]⟩

/-- An operand as a term nests within the same bound. -/
theorem toTerm_lt (h : o.NestsWithin b n) (hn : 1 ≤ n) : o.toTerm.toItem.nesting < 3 * n + b := by
  cases o with
  | term u =>
    have hu := h.nesting_le
    rw [nesting_term] at hu
    exact hu
  | value v =>
    have hv := h.value_le v rfl
    rw [toTerm, Term.ofValue, Term.nesting_literal]
    omega

end Operand.NestsWithin

namespace Compilation

variable {b n : Nat} {shown : String} {t : Trace} {o : Operand}

/-- What an operator makes of one operand is no list. -/
theorem isList_of_unaryOf {op : UnaryOp} {operand : Operand}
    (h : outcome? (unaryOf shown op operand) t = some o) :
    ∃ v, o = .value v ∧ v.isList = false := by
  cases operand with
  | term u => cases h
  | value v =>
    simp only [unaryOf] at h
    split at h
    next =>
      split at h
      next hv =>
        cases h
        exact ⟨v, rfl, Value.isList_of_kind (.inr hv)⟩
      next => cases h
    next =>
      split at h
      next hv =>
        split at h
        next w hw =>
          cases h
          obtain ⟨x, -, hw⟩ := Option.bind_eq_some_iff.mp hw
          refine ⟨w, rfl, Value.isList_of_kind (.inr ?_)⟩
          rw [Value.kind_of_ofDouble? hw]
          split
          next => rfl
          next => exact hv
        next => cases h
      next => cases h
    next items =>
      rw [outcome?_foldedLength] at h
      obtain ⟨w, hw, rfl⟩ := Option.map_eq_some_iff.mp h
      obtain ⟨_, -, rfl⟩ := Option.map_eq_some_iff.mp hw
      exact ⟨_, rfl, rfl⟩
    next => cases h

/-- An item of a list is one of the items of a constant. -/
theorem exists_mem_of_itemOf {list index : Operand}
    (h : outcome? (itemOf shown list index) t = some o) :
    ∃ items, list = .value (.list items) ∧ ∃ v ∈ items, o = .value v := by
  simp only [itemOf] at h
  split at h
  next items index =>
    split at h
    next => cases h
    next =>
      split at h
      next v hv =>
        cases h
        split at hv
        next => exact ⟨items, rfl, v, List.mem_of_getElem? hv, rfl⟩
        next => cases hv
      next => cases h
  next => cases h

theorem nestsWithin_of_arithmeticOf {l r : Operand} {sign : Sign} (hb : 1 ≤ b)
    (hl : l.NestsWithin b n) (hr : r.NestsWithin b n)
    (h : outcome? (arithmeticOf shown l sign r) t = some o) : o.NestsWithin b (n + 1) := by
  rcases arithmeticOf_cases h with ⟨v, w, x, -, -, hx, rfl⟩ | ⟨-, -, rfl⟩
  · have hlist : x.isList = false := by
      obtain ⟨kind, hkind, hx⟩ := Option.bind_eq_some_iff.mp hx
      rw [← Value.kind_of_arithmetic (toOption_eq_some_iff.mp hx)] at hkind
      rcases Kind.of_arithmeticResult_eq_some hkind with htext | ⟨hnumeric, -, -⟩
      · exact Value.isList_of_kind (.inl htext)
      · exact Value.isList_of_kind (.inr hnumeric)
    exact .of_isList_eq_false hb (by omega) hlist
  · have hl := hl.nesting_le
    have hr := hr.nesting_le
    refine .of_term ?_
    rw [Term.nesting_binary]
    omega

/-- Terms nest as deep as the deepest of them. -/
theorem nestingAll_toItems_le {ts : List Term} {d : Nat} (h : ∀ t ∈ ts, t.toItem.nesting ≤ d) :
    nestingAll (Term.toItems ts) ≤ d := by
  induction ts with
  | nil => exact Nat.zero_le d
  | cons t ts ih =>
    obtain ⟨ht, hts⟩ := List.forall_mem_cons.mp h
    rw [Term.toItems, nestingAll]
    exact Nat.max_le.mpr ⟨ht, ih hts⟩

/-- A sign applied to operands as terms nests by three more than they do. -/
theorem nestsWithin_of_apply {registry : Registry} {u w : Term} {sign : Sign} {args : List Term}
    (hu : u.toItem.nesting < 3 * n + b) (hargs : ∀ arg ∈ args, arg.toItem.nesting < 3 * n + b)
    (hw : Term.apply registry sign u args = .ok w) : (Operand.term w).NestsWithin b (n + 1) := by
  obtain ⟨-, -, -, -, rfl⟩ := Term.apply_eq_ok_iff.mp hw
  have hitems : nestingAll (Term.toItems args) ≤ 3 * n + b - 1 :=
    nestingAll_toItems_le fun arg harg => Nat.le_sub_one_of_lt (hargs arg harg)
  refine .of_term ?_
  rw [Term.nesting_unary]
  omega

theorem nestsWithin_of_textFunctionOf {target : Operand} {args : List Operand} {sign : Sign}
    (hb : 1 ≤ b) (hn : 1 ≤ n) (htarget : target.NestsWithin b n)
    (hargs : ∀ arg ∈ args, Operand.NestsWithin b n arg)
    (h : outcome? (textFunctionOf shown sign target args) t = some o) :
    o.NestsWithin b (n + 1) := by
  rcases textFunctionOf_cases h with ⟨_, _, w, -, -, hw, rfl⟩ | ⟨u, w, rfl, hw, rfl⟩
  · have hlist : w.isList = false := by
      refine Value.isList_of_kind ?_
      rw [Value.kind_of_applied? hw]
      split
      next => exact .inr rfl
      next => exact .inl rfl
    exact .of_isList_eq_false hb (by omega) hlist
  · refine nestsWithin_of_apply (htarget.toTerm_lt hn) (List.forall_mem_map.mpr ?_) hw
    exact fun arg harg => (hargs arg harg).toTerm_lt hn

theorem nestsWithin_of_memberOf {target : Operand} {name : String} (hb : 1 ≤ b) (hn : 1 ≤ n)
    (htarget : target.NestsWithin b n)
    (h : outcome? (memberOf shown target name) t = some o) : o.NestsWithin b (n + 1) := by
  rcases memberOf_cases h with ⟨v, w, -, rfl, hw⟩ | ⟨u, w, sign, rfl, -, hw, rfl⟩
  · have hlist : w.isList = false := by
      rcases hw with ⟨-, hw⟩ | ⟨-, rfl⟩
      · cases v <;> simp only [Value.length?, reduceCtorEq] at hw <;>
          obtain ⟨_, -, rfl⟩ := Option.map_eq_some_iff.mp hw <;> rfl
      · rfl
    exact .of_isList_eq_false hb (by omega) hlist
  · exact nestsWithin_of_apply (htarget.toTerm_lt hn) (List.forall_mem_nil _) hw

variable {config : Config} {entity : Entity}

/-- A compiled operand nests by three for each level of depth, above the constants of its
expression. -/
theorem nestsWithin_of_lowerOperand (hb : 1 ≤ b) : ∀ {n : Nat} {e : Expr} {t : Trace} {o : Operand},
    e.constantNesting ≤ b → outcome? (lowerOperand config n entity e) t = some o →
    o.NestsWithin b n := by
  intro n
  induction n with
  | zero =>
    intro e t o he h
    cases h
  | succ n ih =>
    intro e t o he h
    have hparts : ∀ c ∈ e.parts, c.constantNesting ≤ b := fun c hc =>
      Nat.le_trans (Expr.constantNesting_le_of_mem_parts hc) he
    cases loweredOperand_of_outcome? h with
    | constant v => exact .of_value (by omega) he
    | field hu =>
      obtain ⟨f, -, rfl⟩ := Term.ofEntity_eq_ok_iff.mp hu
      exact .of_term (by rw [Term.nesting_member]; omega)
    | member _ hu ho =>
      obtain ⟨k, rfl⟩ := exists_depth_of_lowerOperand hu
      exact nestsWithin_of_memberOf hb (by omega) (ih (hparts _ List.mem_cons_self) hu) ho
    | unary hu ho =>
      obtain ⟨v, rfl, hlist⟩ := isList_of_unaryOf ho
      exact .of_isList_eq_false hb (by omega) hlist
    | arithmetic _ hl hr ho =>
      have hright := hparts _ (List.mem_cons_of_mem _ List.mem_cons_self)
      exact nestsWithin_of_arithmeticOf hb (ih (hparts _ List.mem_cons_self) hl) (ih hright hr) ho
    | item hl hr ho =>
      -- an item of a constant list nests less deep than the list, and may be a list itself
      obtain ⟨items, rfl, v, hv, rfl⟩ := exists_mem_of_itemOf ho
      have hlist := (ih (hparts _ List.mem_cons_self) hl).value_le _ rfl
      exact .of_value (by omega) (by have := Value.nesting_lt_of_mem hv; omega)
    | textFunction os _ hu hos ho =>
      obtain ⟨k, rfl⟩ := exists_depth_of_lowerOperand hu
      refine nestsWithin_of_textFunctionOf hb (by omega) (ih (hparts _ List.mem_cons_self) hu) ?_ ho
      intro a ha
      obtain ⟨arg, harg, _, ha⟩ := exists_mem_of_mem_outcome?_mapM hos ha
      exact ih (hparts arg (List.mem_cons_of_mem _ harg)) ha
    | condition _ _ ho =>
      -- a condition is a value only where it folds to a truth value
      obtain ⟨truth, rfl⟩ := asOperand_cases ho
      exact .of_value (by omega) hb

/-! ### Predicates -/

/-- A comparison nests by two more than its sides. -/
theorem nesting_toPredicate (made : Comparison) (ignoreCase : Bool) :
    (made.ignoringCase ignoreCase).toPredicate.toItem.nesting =
      max made.left.toItem.nesting made.right.toItem.nesting + 2 :=
  Predicate.nesting_comparison _ _ _ _

/-- A comparison with a value nests by two more than its left side, or by three more than the
value. -/
theorem nesting_of_withValue {u : Term} {c : Comparator} {v : Value} {wildcard : Char}
    {made : Comparison} (ignoreCase : Bool)
    (h : Comparison.withValue u c v wildcard = .ok made) :
    (made.ignoringCase ignoreCase).toPredicate.toItem.nesting ≤
      max u.toItem.nesting (max 2 (v.toItem.nesting + 1)) + 2 := by
  obtain ⟨c', right, hassigned, rfl⟩ := Comparison.withValue_eq_ok_iff.mp h
  have hright : right.toItem.nesting ≤ max 2 (v.toItem.nesting + 1) := by
    cases hassigned with
    | isNull | isNotNull | alone => exact Nat.zero_le _
    | absent => exact Nat.le_max_left _ _
    | list | pattern | plain =>
      rw [RightSide.toItem, nesting_variant]
      exact Nat.le_max_right _ _
  rw [nesting_toPredicate]
  dsimp only
  omega

/-- A comparison with an operand nests by two more than its left side or the operand. -/
theorem nesting_of_withOperand {u : Term} {c : Comparator} {right : Operand} {wildcard : Char}
    {made : Comparison} (ignoreCase : Bool)
    (h : Comparison.withOperand u c right wildcard = .ok made) :
    (made.ignoringCase ignoreCase).toPredicate.toItem.nesting ≤
      max u.toItem.nesting (max 2 right.toItem.nesting) + 2 := by
  unfold Comparison.withOperand at h
  split at h
  next v =>
    rw [Operand.nesting_value]
    exact nesting_of_withValue ignoreCase h
  next v assigned =>
    have hmade := nesting_of_withValue ignoreCase h
    have hvalue : (if assigned then v else .null).toItem.nesting ≤ v.toItem.nesting := by
      split
      next => exact Nat.le_refl _
      next => exact Nat.zero_le _
    rw [Operand.nesting_term, Term.nesting_literal]
    omega
  next w _ =>
    split at h <;> cases h
    rw [nesting_toPredicate, RightSide.toItem, nesting_variant, Operand.nesting_term]
    dsimp only
    omega

variable {q : Option Predicate} {l r : Operand}

theorem nesting_of_asCondition (ho : o.NestsWithin b n) (hn : 1 ≤ n)
    (h : outcome? (asCondition shown o) t = some q) :
    ∀ p ∈ q, p.toItem.nesting ≤ 3 * n + b + 2 := by
  rcases asCondition_cases h with ⟨truth, -, rfl⟩ | ⟨u, rfl, -, rfl⟩ <;> rintro p ⟨⟩
  · rw [Predicate.nesting_shortCircuit]
    omega
  · have hu : u.toItem.nesting < 3 * n + b := ho.toTerm_lt hn
    have hright : (RightSide.value (.bool true)).toItem.nesting = 2 := rfl
    rw [Predicate.nesting_comparison, hright]
    omega

theorem nesting_of_hasValue (ho : o.NestsWithin b n) (hn : 1 ≤ n)
    (h : outcome? (hasValue o) t = some q) : ∀ p ∈ q, p.toItem.nesting ≤ 3 * n + b + 2 := by
  rcases hasValue_cases h with ⟨truth, rfl⟩ | ⟨u, made, rfl, hmade, rfl⟩ <;> rintro p ⟨⟩
  · rw [Predicate.nesting_shortCircuit]
    omega
  · have hu : u.toItem.nesting < 3 * n + b := ho.toTerm_lt hn
    have hnull : Value.null.toItem.nesting = 0 := rfl
    have hnesting := nesting_of_withValue false hmade
    omega

theorem nesting_of_compareOperands {c : Comparator} {ignoreCase : Bool}
    (hl : l.NestsWithin b n) (hr : r.NestsWithin b n) (hn : 1 ≤ n)
    (h : outcome? (compareOperands config shown c ignoreCase l r) t = some q) :
    ∀ p ∈ q, p.toItem.nesting ≤ 3 * n + b + 2 := by
  have hleft := hl.toTerm_lt hn
  have hright := hr.toTerm_lt hn
  have hvalue := hl.nesting_le
  have hoperand := hr.nesting_le
  rcases compareOperands_cases h with ⟨u, made, rfl, hmade, rfl⟩ |
    ⟨v, u, made, rfl, rfl, hmade, rfl⟩ | ⟨_, _, truth, -, -, -, rfl⟩ <;> rintro p ⟨⟩
  · have hnesting := nesting_of_withOperand ignoreCase hmade
    rw [Operand.toTerm] at hleft
    omega
  · have hnesting := nesting_of_withValue ignoreCase hmade
    rw [Operand.nesting_value] at hvalue
    rw [Operand.toTerm] at hright
    omega
  · rw [Predicate.nesting_shortCircuit]
    omega

theorem nesting_of_searched {kind : PatternKind} {ignoreCase : Bool} (hl : l.NestsWithin b n)
    (hr : r.NestsWithin b n) (hn : 1 ≤ n) (h : Searched config kind ignoreCase l r q) :
    ∀ p ∈ q, p.toItem.nesting ≤ 3 * n + b + 2 := by
  have hleft := hl.toTerm_lt hn
  have hright := hr.toTerm_lt hn
  have hvalue := hl.nesting_le
  have hoperand := hr.nesting_le
  cases h with
  | constantList _ hmade =>
    rintro p ⟨⟩
    have hnesting := nesting_of_withValue ignoreCase hmade
    rw [Operand.nesting_value] at hvalue
    rw [Operand.toTerm] at hright
    omega
  | termList _ _ hmade =>
    rintro p ⟨⟩
    have hnesting := nesting_of_withOperand ignoreCase hmade
    rw [Operand.toTerm] at hright
    omega
  | pattern _ hmade =>
    rintro p ⟨⟩
    have hnesting := nesting_of_withValue ignoreCase hmade
    have htext : ∀ s : String, (Value.text s).toItem.nesting = 1 := fun _ => rfl
    rw [htext] at hnesting
    rw [Operand.toTerm] at hleft
    omega
  | computedPattern _ hmade =>
    rintro p ⟨⟩
    have hnesting := nesting_of_withOperand ignoreCase hmade
    rw [Operand.toTerm] at hleft
    omega
  | constants _ =>
    rintro p ⟨⟩
    rw [Predicate.nesting_shortCircuit]
    omega

/-- A connective nests by two more than its sides. -/
theorem nesting_of_combine (op : Connective) {left right : Option Predicate} {d : Nat}
    (hleft : ∀ p ∈ left, p.toItem.nesting ≤ d) (hright : ∀ p ∈ right, p.toItem.nesting ≤ d) :
    ∀ p ∈ combine op left right, p.toItem.nesting ≤ d + 2 := by
  cases left with
  | none => exact fun p hp => Nat.le_add_right_of_le (hright p hp)
  | some p =>
    cases right with
    | none => exact fun p hp => Nat.le_add_right_of_le (hleft p hp)
    | some q =>
      rintro _ ⟨⟩
      rw [Predicate.nesting_joined]
      exact Nat.add_le_add_right (Nat.max_le.mpr ⟨hleft p rfl, hright q rfl⟩) 2

section

variable {detail : Entity} {foreignKey : String} {key : Term}

/-- A subquery by a foreign key nests by two more than its outer side. -/
theorem nesting_of_keySubquery (ho : o.NestsWithin b n) (hn : 1 ≤ n)
    (hkey : Term.ofEntity detail foreignKey = .ok key) (negated : Bool) :
    (Predicate.subquery o.toTerm (.foreignKey key) negated).toItem.nesting ≤
      3 * n + b + 2 := by
  have houter := ho.toTerm_lt hn
  obtain ⟨f, -, rfl⟩ := Term.ofEntity_eq_ok_iff.mp hkey
  rw [Predicate.nesting_subquery, Inner.toItem, nesting_variant, Term.nesting_member]
  omega

/-- The link of a foreign key to the outer side of a subquery nests by two more than that side. -/
theorem nesting_of_link {link : Comparison} (ho : o.NestsWithin b n) (hn : 1 ≤ n)
    (hkey : Term.ofEntity detail foreignKey = .ok key)
    (hlink : Comparison.withOperand key .equal (.term o.toTerm) config.wildcard = .ok link) :
    link.toPredicate.toItem.nesting ≤ 3 * n + b + 2 := by
  have houter := ho.toTerm_lt hn
  obtain ⟨f, -, rfl⟩ := Term.ofEntity_eq_ok_iff.mp hkey
  have hnesting := nesting_of_withOperand link.ignoreCase hlink
  rw [Term.nesting_member, Operand.nesting_term] at hnesting
  exact Nat.le_trans hnesting (by omega)

/-- A subquery by a filter nests by five more than the filter, which is joined to the link and then
stands in the subquery. -/
theorem nesting_of_filterSubquery {link : Comparison} {condition : Option Predicate}
    (ho : o.NestsWithin b n) (hn : 1 ≤ n) (hkey : Term.ofEntity detail foreignKey = .ok key)
    (hlink : Comparison.withOperand key .equal (.term o.toTerm) config.wildcard = .ok link)
    (hcondition : ∀ p ∈ condition, p.toItem.nesting ≤ 5 * n + b) (negated : Bool) :
    (Predicate.subquery o.toTerm (.predicate (condition.elim link.toPredicate
      link.toPredicate.and)) negated).toItem.nesting ≤ 5 * (n + 1) + b := by
  have houter := ho.toTerm_lt hn
  have hlink := nesting_of_link ho hn hkey hlink
  have hinner : (condition.elim link.toPredicate link.toPredicate.and).toItem.nesting ≤
      5 * n + b + 2 := by
    cases condition with
    | none => exact Nat.le_trans hlink (by omega)
    | some p =>
      have hp := hcondition p rfl
      rw [Option.elim, Predicate.and, Predicate.nesting_joined]
      omega
  rw [Predicate.nesting_subquery, Inner.toItem, nesting_variant]
  omega

end

/-- A compiled condition nests by five for each level of depth, above the constants of its
expression. -/
theorem nesting_of_lowerPredicate (hb : 1 ≤ b) : ∀ {n : Nat} {entity : Entity} {e : Expr}
    {t : Trace} {q : Option Predicate}, e.constantNesting ≤ b →
    outcome? (lowerPredicate config n entity e) t = some q →
    ∀ p ∈ q, p.toItem.nesting ≤ 5 * n + b := by
  intro n
  induction n with
  | zero =>
    intro entity e t q he h
    cases h
  | succ n ih =>
    intro entity e t q he h
    have hparts : ∀ c ∈ e.parts, c.constantNesting ≤ b := fun c hc =>
      Nat.le_trans (Expr.constantNesting_le_of_mem_parts hc) he
    have hoperand : ∀ {c : Expr} {t : Trace} {o : Operand}, c ∈ e.parts ∨ c = e →
        outcome? (lowerOperand config n entity c) t = some o → o.NestsWithin b n ∧ 1 ≤ n := by
      intro c t o hc ho
      have hconstants : c.constantNesting ≤ b := by
        rcases hc with hc | rfl
        · exact hparts c hc
        · exact he
      obtain ⟨m, rfl⟩ := exists_depth_of_lowerOperand ho
      exact ⟨nestsWithin_of_lowerOperand hb hconstants ho, by omega⟩
    -- what is made of operands alone nests by two more than they do
    have hgrow : (∀ p ∈ q, p.toItem.nesting ≤ 3 * n + b + 2) →
        ∀ p ∈ q, p.toItem.nesting ≤ 5 * (n + 1) + b := by
      intro hq p hp
      have hp := hq p hp
      omega
    cases loweredPredicate_of_outcome? h with
    | truth truth =>
      rintro p ⟨⟩
      rw [Predicate.nesting_shortCircuit]
      omega
    | hasValue ho hq =>
      obtain ⟨ho, hn⟩ := hoperand (.inl List.mem_cons_self) ho
      exact hgrow (nesting_of_hasValue ho hn hq)
    | member ho hq =>
      obtain ⟨ho, hn⟩ := hoperand (.inr rfl) ho
      exact hgrow (nesting_of_asCondition ho hn hq)
    | connected hop hp hq =>
      have hright := hparts _ (List.mem_cons_of_mem _ List.mem_cons_self)
      intro r hr
      have hjoined := nesting_of_combine _ (ih (hparts _ List.mem_cons_self) hp) (ih hright hq) r hr
      omega
    | not hp =>
      intro p' hp'
      obtain ⟨p, hmem, rfl⟩ := Option.map_eq_some_iff.mp hp'
      have hnesting := ih (hparts _ List.mem_cons_self) hp p hmem
      rw [Predicate.negate, Predicate.nesting_solo]
      omega
    | comparison hop hl hr hq =>
      obtain ⟨hl, hn⟩ := hoperand (.inl List.mem_cons_self) hl
      obtain ⟨hr, -⟩ := hoperand (.inl (List.mem_cons_of_mem _ List.mem_cons_self)) hr
      exact hgrow (nesting_of_compareOperands hl hr hn hq)
    | equals hcall hargs hl hr hq =>
      obtain ⟨hl, hn⟩ := hoperand (.inl (mem_parts_of_receiver? hcall)) hl
      obtain ⟨hr, -⟩ := hoperand (.inl (mem_parts_of_soleArgument? hcall hargs)) hr
      exact hgrow (nesting_of_compareOperands hl hr hn hq)
    | nullSearch hcall hargs hkind ha => nofun
    | search hcall hargs hkind ha hr hq =>
      obtain ⟨ha, hn⟩ := hoperand (.inl (mem_parts_of_soleArgument? hcall hargs)) ha
      obtain ⟨hr, -⟩ := hoperand (.inl (mem_parts_of_receiver? hcall)) hr
      exact hgrow (nesting_of_searched hr ha hn (searched_of_outcome? hq))
    | keySubquery ho hkey =>
      obtain ⟨ho, hn⟩ := hoperand (.inl List.mem_cons_self) ho
      refine hgrow ?_
      rintro p ⟨⟩
      exact nesting_of_keySubquery ho hn hkey _
    | filterSubquery condition ho hkey hlink hcondition =>
      obtain ⟨ho, hn⟩ := hoperand (.inl List.mem_cons_self) ho
      have hfilter := ih (hparts _ (List.mem_cons_of_mem _ List.mem_cons_self)) hcondition
      rintro p ⟨⟩
      exact nesting_of_filterSubquery ho hn hkey hlink hfilter _

end Compilation

/-! ### Reading back what is compiled -/

/-- A compiled predicate or term whose bytes are few enough nests by at most five or three for each
level of the bound on expressions, above the constants of its expression. It is read back, and
agrees with what is read, if it nests no deeper than the reader follows it; otherwise nothing is
read. -/
theorem decode_encode_of_compile (entity : Entity) (config : Config) (e : Expr) (t : Trace) :
    (∀ p, ((compilePredicate entity config e).run t).1 = .ok (some p) →
      p.encode.length ≤ maxTreeBytes →
      p.toItem.nesting ≤ 5 * config.maxDepth + max 1 e.constantNesting ∧
      (p.toItem.nesting ≤ maxDepth → ∃ q, Predicate.decode maxTreeBytes p.encode = .ok q ∧
        q.agrees p = true) ∧
      (maxDepth < p.toItem.nesting → ∀ q, Predicate.decode maxTreeBytes p.encode ≠ .ok q)) ∧
    ∀ u, ((compileOperand entity config e).run t).1 = .ok (.term u) →
      u.encode.length ≤ maxTreeBytes →
      u.toItem.nesting < 3 * config.maxDepth + max 1 e.constantNesting ∧
      (u.toItem.nesting ≤ maxDepth → ∃ w, Term.decode maxTreeBytes u.encode = .ok w ∧
        w.agrees u = true) ∧
      (maxDepth < u.toItem.nesting → ∀ w, Term.decode maxTreeBytes u.encode ≠ .ok w) := by
  have hlimit : maxTreeBytes < 2 ^ 64 := by decide
  have hlong : maxTreeBytes < 256 ^ 8 := by decide
  have hconstants := Nat.le_max_right 1 e.constantNesting
  have hone := Nat.le_max_left 1 e.constantNesting
  constructor
  · intro p h hlength
    rw [compilePredicate, ← toOption_eq_some_iff, Compilation.toOption_run_overEntity] at h
    obtain ⟨_, -, h⟩ := Option.bind_eq_some_iff.mp h
    refine ⟨Compilation.nesting_of_lowerPredicate hone hconstants h p rfl, fun hnesting => ?_,
      fun hnesting q => ?_⟩
    · have hmade : ∀ c ∈ p.comparisons, c.Made := fun c hc =>
        ⟨config.wildcard, Compilation.allMade_of_lowerPredicate h p rfl c hc⟩
      exact ⟨p.unresolved,
        Predicate.decode_encode (allCanonical_of_made hmade) ⟨hlimit, hlength, hnesting⟩,
        p.agrees_unresolved⟩
    · exact decodeBytes_deep p.writable_toItem (Nat.lt_of_le_of_lt hlength hlong) hnesting
  · intro u h hlength
    rw [compileOperand, ← toOption_eq_some_iff, Compilation.toOption_run_overEntity] at h
    obtain ⟨_, -, h⟩ := Option.bind_eq_some_iff.mp h
    have hbound := (Compilation.nestsWithin_of_lowerOperand hone hconstants h).nesting_le
    rw [Operand.nesting_term] at hbound
    refine ⟨hbound, fun hnesting => ?_, fun hnesting w => ?_⟩
    · exact ⟨u.unresolved, Term.decode_encode ⟨hlimit, hlength, hnesting⟩, u.agrees_unresolved⟩
    · exact decodeBytes_deep u.writable_toItem (Nat.lt_of_le_of_lt hlength hlong) hnesting

/-- A comparison of a sum and the sum itself are compiled and read back. -/
theorem decode_encode_of_compile_sum :
    let qty : Field := ⟨"qty", .int, false⟩
    let product : Entity := ⟨"Product", "Product", [qty]⟩
    let e : Expr := .binary .add (.field "qty") (.constant (.int 1))
    let u : Term := .binary (.term (.member ⟨"Product", "qty", some qty⟩)) .add (.value (.int 1))
    let p : Predicate := .comparison u .greater (.value (.int 2)) false
    let t : Trace := ⟨.empty, []⟩
    ((compilePredicate product .default (.binary .greater e (.constant (.int 2)))).run t).1 =
        .ok (some p) ∧
      ((compileOperand product .default e).run t).1 = .ok (.term u) ∧
      (∃ q, Predicate.decode maxTreeBytes p.encode = .ok q ∧ q.agrees p = true) ∧
      ∃ w, Term.decode maxTreeBytes u.encode = .ok w ∧ w.agrees u = true := by
  intro qty product e u p t
  have hp : ((compilePredicate product .default (.binary .greater e (.constant (.int 2)))).run
      t).1 = .ok (some p) := rfl
  have hu : ((compileOperand product .default e).run t).1 = .ok (.term u) := rfl
  refine ⟨hp, hu, ?_, ?_⟩
  · exact ((decode_encode_of_compile _ _ _ t).1 p hp (by decide +kernel)).2.1 (by decide)
  · exact ((decode_encode_of_compile _ _ _ t).2 u hu (by decide +kernel)).2.1 (by decide)

/-! ### Sums -/

/-- An expression to which a constant is added a number of times. -/
def Expr.addTimes (e : Expr) (c : Value) : Nat → Expr
  | 0 => e
  | k + 1 => .binary .add (e.addTimes c k) (.constant c)

/-- A term to which a constant is added a number of times. -/
def Term.addTimes (u : Term) (c : Value) : Nat → Term
  | 0 => u
  | k + 1 => .binary (.term (u.addTimes c k)) .add (.value c)

/-- A sum of constants and a member compiles as it is written, if there is a level of depth for each
of them. -/
theorem Compilation.returns_addTimes {config : Config} {entity : Entity} {name : String} {u : Term}
    {c : Value} (hu : Term.ofEntity entity name = .ok u) : ∀ {k n : Nat}, k < n →
    Returns (lowerOperand config n entity ((Expr.field name).addTimes c k))
      (.term (u.addTimes c k)) := by
  intro k
  induction k with
  | zero =>
    intro n hk t
    obtain ⟨n, rfl⟩ := Nat.exists_eq_add_of_le' hk
    rw [Expr.addTimes, lowerOperand_field, outcome?_ofExcept_bind, hu]
    rfl
  | succ k ih =>
    intro n hk
    obtain ⟨n, rfl⟩ : ∃ m, n = m + 2 := ⟨n - 2, by omega⟩
    rw [Expr.addTimes, lowerOperand_arithmetic config (n + 1) entity rfl]
    refine (ih (by omega)).bind (Returns.bind (a := .value c) (returns_pure _) fun t => ?_)
    rw [outcome?_arithmeticOf (.inl rfl)]
    rfl

/-- Each constant that is added nests a sum by three more. -/
theorem Term.nesting_addTimes {u : Term} {c : Value} (hc : c.toItem.nesting ≤ 1)
    (hu : 1 ≤ u.toItem.nesting) (k : Nat) :
    (u.addTimes c k).toItem.nesting = u.toItem.nesting + 3 * k := by
  induction k with
  | zero => rfl
  | succ k ih =>
    rw [Term.addTimes, Term.nesting_binary, Operand.nesting_term, Operand.nesting_value, ih]
    omega

theorem Item.length_head {n : Nat} (hn : n < 24) (major : Nat) : (head major n).length = 1 := by
  rw [head, if_pos hn, List.length_singleton]

/-- A short text takes a byte for its head. -/
theorem Item.length_render_text {s : String} (hs : s.utf8ByteSize < 24) :
    (text s).render.length = s.utf8ByteSize + 1 := by
  rw [render, List.length_append, length_toUTF8_toList, length_head hs, Nat.add_comm]

/-- A variant takes a byte and its name before its payload. -/
theorem Item.length_render_variant {name : String} (hname : name.utf8ByteSize < 24)
    (payload : Item) : (variant name payload).render.length =
      name.utf8ByteSize + 2 + payload.render.length := by
  have hentry : (variant name payload).render =
      head 5 1 ++ (text name).render ++ payload.render := by
    rw [variant, render.eq_def]
  rw [hentry, List.length_append, List.length_append, length_head (by decide),
    length_render_text hname]
  omega

/-- A record of three fields takes a byte before its names and fields. -/
theorem Item.length_render_fields (a b c : String) (x y z : Item) :
    (fields [(a, x), (b, y), (c, z)]).render.length =
      1 + (text a).render.length + x.render.length + (text b).render.length + y.render.length +
        (text c).render.length + z.render.length := by
  have hmap : (fields [(a, x), (b, y), (c, z)]).render =
      head 5 (6 / 2) ++ renderAll [text a, x, text b, y, text c, z] := by
    rw [fields, render.eq_def]
    rfl
  rw [hmap, List.length_append, length_head (by decide)]
  simp only [renderAll, List.length_append, List.length_nil]
  omega

/-- Each small constant that is added makes a sum longer by as many bytes. -/
theorem Term.length_addTimes (u : Term) (k : Nat) :
    (u.addTimes (.int 1) k).encode.length = u.encode.length + 48 * k := by
  have hone : (Operand.value (.int 1)).toItem.render.length = 13 := by decide +kernel
  have hnames : "Binary".utf8ByteSize + "left".utf8ByteSize + "Expr".utf8ByteSize +
      "sign".utf8ByteSize + Sign.add.label.utf8ByteSize + "right".utf8ByteSize = 26 := rfl
  induction k with
  | zero => rfl
  | succ k ih =>
    rw [encode] at ih
    rw [addTimes, encode, toItem, length_render_variant (by decide), length_render_fields,
      Operand.toItem, length_render_variant (by decide), ih, hone, length_render_text (by decide),
      length_render_text (by decide), length_render_text (by decide),
      length_render_text (by decide)]
    omega

/-- A column with one added to it sixty times compiles under the default configuration and is
written in few bytes, and nothing is read back from them. -/
theorem decode_encode_sixty_additions :
    let qty : Field := ⟨"qty", .int, false⟩
    let product : Entity := ⟨"Product", "Product", [qty]⟩
    let e : Expr := (Expr.field "qty").addTimes (.int 1) 60
    let u : Term := (Term.member ⟨"Product", "qty", some qty⟩).addTimes (.int 1) 60
    ((compileOperand product .default e).run ⟨.empty, []⟩).1 = .ok (.term u) ∧
      u.encode.length ≤ maxTreeBytes ∧ ∀ w, Term.decode maxTreeBytes u.encode ≠ .ok w := by
  intro qty product e u
  have hlower : Compilation.Returns (Compilation.lowerOperand .default 64 product e) (.term u) :=
    Compilation.returns_addTimes rfl (by decide)
  have hregister : Registry.empty.register product = .ok ⟨[product]⟩ := rfl
  have hbytes : (Term.member ⟨"Product", "qty", some qty⟩).encode.length = 34 := by
    decide +kernel
  have hlength : u.encode.length ≤ maxTreeBytes := by
    rw [Term.length_addTimes, hbytes]
    decide
  have hnesting : u.toItem.nesting = 182 := Term.nesting_addTimes (by decide) (by decide) 60
  refine ⟨?_, hlength, fun w => ?_⟩
  · rw [compileOperand, ← toOption_eq_some_iff, Compilation.toOption_run_overEntity, hregister,
      toOption_ok, Option.bind_some]
    exact hlower _
  · refine decodeBytes_deep u.writable_toItem (Nat.lt_of_le_of_lt hlength (by decide)) ?_
    rw [hnesting]
    decide

end RowFilter
