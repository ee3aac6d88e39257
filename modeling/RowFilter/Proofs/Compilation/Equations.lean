import RowFilter.Proofs.Compilation.Outcome

/-!
# Compilation by the shape of an expression

One equation for each shape of expression, with the shape given by a hypothesis where the
definition decides by an operator, a method or a name. Each is about a depth of one at least, since
nothing compiles without depth.
-/

namespace RowFilter

namespace Compilation

variable (config : Config) (n : Nat) (entity : Entity)

/-! ### As a value -/

theorem lowerOperand_row :
    lowerOperand config (n + 1) entity .row = throw (.unsupportedShape Expr.row.display) := rfl

theorem lowerOperand_constant (v : Value) :
    lowerOperand config (n + 1) entity (.constant v) = pure (.value v) := rfl

theorem lowerOperand_field (name : String) :
    lowerOperand config (n + 1) entity (.field name) =
      (do return .term (← ofExcept (Term.ofEntity entity name))) := rfl

theorem lowerOperand_member {target : Expr} (htarget : target ≠ .row) (name : String) :
    lowerOperand config (n + 1) entity (.member target name) =
      (do memberOf (Expr.member target name).display
            (← lowerOperand config n entity target) name) := by
  cases target <;> first | rfl | exact absurd rfl htarget

theorem lowerOperand_arithmetic {op : BinaryOp} {sign : Sign} (hop : op.sign? = some sign)
    (left right : Expr) :
    lowerOperand config (n + 1) entity (.binary op left right) =
      (do
        let l ← lowerOperand config n entity left
        let r ← lowerOperand config n entity right
        arithmeticOf (Expr.binary op left right).display l sign r) := by
  cases op <;> cases hop <;> rfl

theorem lowerOperand_textFunction {method : String} {sign : Sign}
    (hmethod : Sign.ofMethod? method = some sign) (target : Expr) (args : List Expr) :
    lowerOperand config (n + 1) entity (.call target method args) =
      (do
        let t ← lowerOperand config n entity target
        let operands ← args.mapM (lowerOperand config n entity)
        textFunctionOf (Expr.call target method args).display sign t operands) := by
  simp only [lowerOperand, hmethod]

theorem lowerOperand_unary {op : UnaryOp} (hop : op ≠ .not) (operand : Expr) :
    lowerOperand config (n + 1) entity (.unary op operand) =
      (do unaryOf (Expr.unary op operand).display op
            (← lowerOperand config n entity operand)) := by
  cases op <;> first | rfl | exact absurd rfl hop

theorem lowerOperand_item (left right : Expr) :
    lowerOperand config (n + 1) entity (.binary .arrayIndex left right) =
      (do
        let l ← lowerOperand config n entity left
        let r ← lowerOperand config n entity right
        itemOf (Expr.binary .arrayIndex left right).display l r) := rfl

/-- A condition is no operand of its own. -/
theorem lowerOperand_condition {e : Expr} (he : e.isPredicate = true) :
    lowerOperand config (n + 1) entity e =
      (do asOperand e.display (← lowerPredicate config n entity e)) := by
  cases e with
  | unary op operand =>
    cases op <;> first | rfl | cases he
  | binary op left right =>
    cases op <;> first | rfl | cases he
  | call target method args =>
    have hsign : Sign.ofMethod? method = none := by
      simp only [Expr.isPredicate, Expr.isPredicateMethod, Bool.or_eq_true, beq_iff_eq] at he
      rcases he with ((rfl | rfl) | rfl) | rfl <;> rfl
    simp only [lowerOperand, hsign, he, if_true]
  | staticCall method args => simp only [lowerOperand, he, if_true]
  | existsIn _ _ _ _ => rfl
  | existsWhere _ _ _ _ _ => rfl
  | _ => cases he

/-! ### What a compiled operand came from -/

section

variable {config : Config} {n : Nat} {entity : Entity} {e : Expr} {t : Trace} {o : Operand}

/-- What compiles to an operand has depth left. -/
theorem exists_depth_of_lowerOperand (h : outcome? (lowerOperand config n entity e) t = some o) :
    ∃ m, n = m + 1 := by
  cases n with
  | zero =>
    cases h
  | succ m => exact ⟨m, rfl⟩

/-- An operand of a constant is the constant. -/
theorem eq_of_lowerOperand_constant {v : Value}
    (h : outcome? (lowerOperand config n entity (.constant v)) t = some o) : o = .value v := by
  obtain ⟨n, rfl⟩ := exists_depth_of_lowerOperand h
  rw [lowerOperand_constant, outcome?_pure] at h
  exact (Option.some.inj h).symm

/-- An operand of a direct member is the term of a declared member. -/
theorem exists_of_lowerOperand_field {name : String}
    (h : outcome? (lowerOperand config n entity (.field name)) t = some o) :
    ∃ u, Term.ofEntity entity name = .ok u ∧ o = .term u := by
  obtain ⟨n, rfl⟩ := exists_depth_of_lowerOperand h
  rw [lowerOperand_field, outcome?_ofExcept_bind] at h
  obtain ⟨u, hu, h⟩ := Option.bind_eq_some_iff.mp h
  exact ⟨u, toOption_eq_some_iff.mp hu, (Option.some.inj h).symm⟩

/-- An operand of an arithmetic expression is made of the operands of its sides. -/
theorem exists_of_lowerOperand_arithmetic {op : BinaryOp} {sign : Sign}
    (hop : op.sign? = some sign) {left right : Expr}
    (h : outcome? (lowerOperand config n entity (.binary op left right)) t = some o) :
    ∃ m l r t₁ t₂ t₃, n = m + 1 ∧ outcome? (lowerOperand config m entity left) t₁ = some l ∧
      outcome? (lowerOperand config m entity right) t₂ = some r ∧
      outcome? (arithmeticOf (Expr.binary op left right).display l sign r) t₃ = some o := by
  obtain ⟨n, rfl⟩ := exists_depth_of_lowerOperand h
  rw [lowerOperand_arithmetic _ _ _ hop] at h
  obtain ⟨l, t₂, hl, h⟩ := exists_of_outcome?_bind h
  obtain ⟨r, t₃, hr, h⟩ := exists_of_outcome?_bind h
  exact ⟨n, l, r, t, t₂, t₃, rfl, hl, hr, h⟩

/-- An operand of a text function is made of the operands of its target and arguments. -/
theorem exists_of_lowerOperand_textFunction {method : String} {sign : Sign}
    (hmethod : Sign.ofMethod? method = some sign) {target : Expr} {args : List Expr}
    (h : outcome? (lowerOperand config n entity (.call target method args)) t = some o) :
    ∃ m u os t₁ t₂ t₃, n = m + 1 ∧ outcome? (lowerOperand config m entity target) t₁ = some u ∧
      outcome? (args.mapM (lowerOperand config m entity)) t₂ = some os ∧
      outcome? (textFunctionOf (Expr.call target method args).display sign u os) t₃ = some o := by
  obtain ⟨n, rfl⟩ := exists_depth_of_lowerOperand h
  rw [lowerOperand_textFunction _ _ _ hmethod] at h
  obtain ⟨u, t₂, hu, h⟩ := exists_of_outcome?_bind h
  obtain ⟨os, t₃, hos, h⟩ := exists_of_outcome?_bind h
  exact ⟨n, u, os, t, t₂, t₃, rfl, hu, hos, h⟩

/-- An operand of a member of a computed target is made of the operand of the target. -/
theorem exists_of_lowerOperand_member {target : Expr} (htarget : target ≠ .row) {name : String}
    (h : outcome? (lowerOperand config n entity (.member target name)) t = some o) :
    ∃ m u t₁ t₂, n = m + 1 ∧ outcome? (lowerOperand config m entity target) t₁ = some u ∧
      outcome? (memberOf (Expr.member target name).display u name) t₂ = some o := by
  obtain ⟨n, rfl⟩ := exists_depth_of_lowerOperand h
  rw [lowerOperand_member _ _ _ htarget] at h
  obtain ⟨u, t₂, hu, h⟩ := exists_of_outcome?_bind h
  exact ⟨n, u, t, t₂, rfl, hu, h⟩

end

/-! ### As a condition -/

/-- What compiles to a condition has depth left. -/
theorem exists_depth_of_lowerPredicate {config : Config} {n : Nat} {entity : Entity} {e : Expr}
    {t : Trace} {q : Option Predicate}
    (h : outcome? (lowerPredicate config n entity e) t = some q) : ∃ m, n = m + 1 := by
  cases n with
  | zero =>
    cases h
  | succ m => exact ⟨m, rfl⟩

theorem lowerPredicate_truth (b : Bool) :
    lowerPredicate config (n + 1) entity (.constant (.bool b)) =
      pure (some (.shortCircuit b)) := rfl

theorem lowerPredicate_hasValue (target : Expr) :
    lowerPredicate config (n + 1) entity (.member target "has_value") =
      (do hasValue (← lowerOperand config n entity target)) := rfl

theorem lowerPredicate_member {name : String} (hname : name ≠ "has_value") (target : Expr) :
    lowerPredicate config (n + 1) entity (.member target name) =
      (do asCondition (Expr.member target name).display
            (← lowerOperand config n entity (.member target name))) :=
  if_neg hname

theorem lowerPredicate_comparison {op : BinaryOp} {comparator : Comparator}
    (hop : op.comparator? = some comparator) (left right : Expr) :
    lowerPredicate config (n + 1) entity (.binary op left right) =
      (do
        let l ← lowerOperand config n entity left
        let r ← lowerOperand config n entity right
        compareOperands config (Expr.binary op left right).display comparator false l r) := by
  cases op <;> cases hop <;> rfl

theorem lowerPredicate_connected {op : BinaryOp} {connective : Connective}
    (hop : op = .andAlso ∧ connective = .and ∨ op = .orElse ∧ connective = .or)
    (left right : Expr) :
    lowerPredicate config (n + 1) entity (.binary op left right) =
      (do
        let p ← lowerPredicate config n entity left
        let q ← lowerPredicate config n entity right
        return combine connective p q) := by
  rcases hop with ⟨rfl, rfl⟩ | ⟨rfl, rfl⟩ <;> rfl

theorem lowerPredicate_not (operand : Expr) :
    lowerPredicate config (n + 1) entity (.unary .not operand) =
      (do return (← lowerPredicate config n entity operand).map Predicate.negate) := rfl

/-- An equality by a call, with a target or without. -/
theorem lowerPredicate_of_equals {e receiver arg : Expr} {args : List Expr} {ignoreCase : Bool}
    (hcall : receiver? e = some (receiver, "equals", args))
    (hargs : soleArgument? args = some (arg, ignoreCase)) :
    lowerPredicate config (n + 1) entity e =
      (do
        let l ← lowerOperand config n entity receiver
        let r ← lowerOperand config n entity arg
        compareOperands config e.display .equal ignoreCase l r) := by
  cases e <;> try (cases hcall; done)
  all_goals simp only [lowerPredicate, hcall, hargs, if_true]

/-- A search by a call, with a target or without. -/
theorem lowerPredicate_of_search {e receiver arg : Expr} {method : String} {args : List Expr}
    {ignoreCase : Bool} {kind : PatternKind}
    (hcall : receiver? e = some (receiver, method, args))
    (hargs : soleArgument? args = some (arg, ignoreCase))
    (hkind : PatternKind.ofMethod? method = some kind) :
    lowerPredicate config (n + 1) entity e =
      (do
        let a ← lowerOperand config n entity arg
        if a.value? = some .null then return none
        else
          let r ← lowerOperand config n entity receiver
          searchOperands config e.display kind ignoreCase r a) := by
  have hmethod : method ≠ "equals" := by
    rintro rfl
    cases hkind
  cases e <;> try (cases hcall; done)
  all_goals simp only [lowerPredicate, hcall, hargs, hmethod, hkind, if_false]

theorem lowerPredicate_equals {args : List Expr} {arg : Expr} {ignoreCase : Bool}
    (hargs : soleArgument? args = some (arg, ignoreCase)) (receiver : Expr) :
    lowerPredicate config (n + 1) entity (.call receiver "equals" args) =
      (do
        let l ← lowerOperand config n entity receiver
        let r ← lowerOperand config n entity arg
        compareOperands config (Expr.call receiver "equals" args).display .equal ignoreCase l
          r) := by
  rw [lowerPredicate_of_equals config n entity rfl hargs]

/-! ### What a compiled condition came from -/

section

variable {config : Config} {n : Nat} {entity : Entity} {t : Trace} {q : Option Predicate}

/-- A condition under a connective is made of the conditions of its sides. -/
theorem exists_of_lowerPredicate_connected {op : BinaryOp} {connective : Connective}
    (hop : op = .andAlso ∧ connective = .and ∨ op = .orElse ∧ connective = .or) {left right : Expr}
    (h : outcome? (lowerPredicate config n entity (.binary op left right)) t = some q) :
    ∃ m p r t₁ t₂, n = m + 1 ∧ outcome? (lowerPredicate config m entity left) t₁ = some p ∧
      outcome? (lowerPredicate config m entity right) t₂ = some r ∧ q = combine connective p r := by
  obtain ⟨n, rfl⟩ := exists_depth_of_lowerPredicate h
  rw [lowerPredicate_connected _ _ _ hop] at h
  obtain ⟨p, t₂, hp, h⟩ := exists_of_outcome?_bind h
  obtain ⟨r, _, hr, h⟩ := exists_of_outcome?_bind h
  exact ⟨n, p, r, t, t₂, rfl, hp, hr, (Option.some.inj h).symm⟩

/-- A negated condition is the negation of a condition. -/
theorem exists_of_lowerPredicate_not {operand : Expr}
    (h : outcome? (lowerPredicate config n entity (.unary .not operand)) t = some q) :
    ∃ m p t₁, n = m + 1 ∧ outcome? (lowerPredicate config m entity operand) t₁ = some p ∧
      q = p.map Predicate.negate := by
  obtain ⟨n, rfl⟩ := exists_depth_of_lowerPredicate h
  rw [lowerPredicate_not] at h
  obtain ⟨p, _, hp, h⟩ := exists_of_outcome?_bind h
  exact ⟨n, p, t, rfl, hp, (Option.some.inj h).symm⟩

end

end Compilation

end RowFilter
