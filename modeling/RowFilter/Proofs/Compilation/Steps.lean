import RowFilter.Proofs.Compilation.Outcome

/-!
# What one level of a compilation has done

`LoweredOperand` and `LoweredPredicate` list all that a compilation that succeeds can have done with
an expression at its own level: which parts it compiled, over which entity and to what, and which
operator made the result of them. The parts have one level of depth less than the whole. What holds
of every result is proved by an induction on the depth, with one case for each constructor.
-/

namespace RowFilter

namespace Compilation

/-! ### As a value -/

/-- All that a compilation to an operand can have done with an expression, whose parts had the depth
`n`. -/
inductive LoweredOperand (config : Config) (n : Nat) (entity : Entity) : Expr → Operand → Prop
  /-- A constant is taken as it is. -/
  | constant (v : Value) : LoweredOperand config n entity (.constant v) (.value v)
  /-- A member of the row is one that the entity declares. -/
  | field {name : String} {u : Term} (hu : Term.ofEntity entity name = .ok u) :
      LoweredOperand config n entity (.member .row name) (.term u)
  /-- A member of anything else is computed from the target. -/
  | member {target : Expr} {name : String} {u o : Operand} {t₁ t₂ : Trace} (htarget : target ≠ .row)
      (hu : outcome? (lowerOperand config n entity target) t₁ = some u)
      (ho : outcome? (memberOf (Expr.member target name).display u name) t₂ = some o) :
      LoweredOperand config n entity (.member target name) o
  /-- An operator before an operand is computed from the operand. -/
  | unary {op : UnaryOp} {operand : Expr} {u o : Operand} {t₁ t₂ : Trace}
      (hu : outcome? (lowerOperand config n entity operand) t₁ = some u)
      (ho : outcome? (unaryOf (Expr.unary op operand).display op u) t₂ = some o) :
      LoweredOperand config n entity (.unary op operand) o
  /-- Arithmetic is computed from both sides. -/
  | arithmetic {op : BinaryOp} {sign : Sign} {left right : Expr} {l r o : Operand}
      {t₁ t₂ t₃ : Trace} (hop : op.sign? = some sign)
      (hl : outcome? (lowerOperand config n entity left) t₁ = some l)
      (hr : outcome? (lowerOperand config n entity right) t₂ = some r)
      (ho : outcome? (arithmeticOf (Expr.binary op left right).display l sign r) t₃ = some o) :
      LoweredOperand config n entity (.binary op left right) o
  /-- An item is taken from the left side at the right side. -/
  | item {left right : Expr} {l r o : Operand} {t₁ t₂ t₃ : Trace}
      (hl : outcome? (lowerOperand config n entity left) t₁ = some l)
      (hr : outcome? (lowerOperand config n entity right) t₂ = some r)
      (ho : outcome? (itemOf (Expr.binary .arrayIndex left right).display l r) t₃ = some o) :
      LoweredOperand config n entity (.binary .arrayIndex left right) o
  /-- A text function is computed from the target and the arguments. -/
  | textFunction {method : String} {sign : Sign} {target : Expr} {args : List Expr} {u o : Operand}
      {t₁ t₂ t₃ : Trace} (os : List Operand) (hmethod : Sign.ofMethod? method = some sign)
      (hu : outcome? (lowerOperand config n entity target) t₁ = some u)
      (hos : outcome? (args.mapM (lowerOperand config n entity)) t₂ = some os)
      (ho : outcome? (textFunctionOf (Expr.call target method args).display sign u os) t₃ =
        some o) : LoweredOperand config n entity (.call target method args) o
  /-- A condition in the place of an operand is one that has folded. -/
  | condition {e : Expr} {q : Option Predicate} {o : Operand} {t₁ t₂ : Trace}
      (he : e.isPredicate = true) (hq : outcome? (lowerPredicate config n entity e) t₁ = some q)
      (ho : outcome? (asOperand e.display q) t₂ = some o) : LoweredOperand config n entity e o

variable {config : Config} {n : Nat} {entity : Entity} {e : Expr} {t : Trace}

/-- An operand of a condition is one that the condition has folded to. -/
theorem loweredOperand_of_condition {o : Operand}
    (h : outcome? (if e.isPredicate then lowerPredicate config n entity e >>= asOperand e.display
      else throw (.unsupportedShape e.display)) t = some o) :
    LoweredOperand config n entity e o := by
  split at h
  next he =>
    obtain ⟨q, _, hq, h⟩ := exists_of_outcome?_bind h
    exact .condition he hq h
  next => cases h

/-- A compilation to an operand has done one of the things that `LoweredOperand` lists. -/
theorem loweredOperand_of_outcome? {o : Operand}
    (h : outcome? (lowerOperand config (n + 1) entity e) t = some o) :
    LoweredOperand config n entity e o := by
  unfold lowerOperand at h
  dsimp only at h
  split at h
  next v =>
    cases h
    exact .constant v
  next => cases h
  next name =>
    rw [outcome?_ofExcept_bind] at h
    obtain ⟨u, hu, h⟩ := Option.bind_eq_some_iff.mp h
    cases h
    exact .field (toOption_eq_some_iff.mp hu)
  next target name htarget =>
    obtain ⟨u, _, hu, h⟩ := exists_of_outcome?_bind h
    exact .member htarget hu h
  next => exact loweredOperand_of_condition h
  next op operand _ =>
    obtain ⟨u, _, hu, h⟩ := exists_of_outcome?_bind h
    exact .unary hu h
  next op left right =>
    split at h
    next sign hop =>
      obtain ⟨l, _, hl, h⟩ := exists_of_outcome?_bind h
      obtain ⟨r, _, hr, h⟩ := exists_of_outcome?_bind h
      exact .arithmetic hop hl hr h
    next =>
      split at h
      next hop =>
        obtain ⟨l, _, hl, h⟩ := exists_of_outcome?_bind h
        obtain ⟨r, _, hr, h⟩ := exists_of_outcome?_bind h
        cases hop
        exact .item hl hr h
      next => exact loweredOperand_of_condition h
  next target method args =>
    split at h
    next sign hmethod =>
      obtain ⟨u, _, hu, h⟩ := exists_of_outcome?_bind h
      obtain ⟨os, _, hos, h⟩ := exists_of_outcome?_bind h
      exact .textFunction os hmethod hu hos h
    next => exact loweredOperand_of_condition h
  next => exact loweredOperand_of_condition h
  next => exact loweredOperand_of_condition h
  next => exact loweredOperand_of_condition h
  next => cases h

/-! ### As a condition -/

/-- All that a compilation to a condition can have done with an expression, whose parts had the
depth `n`. -/
inductive LoweredPredicate (config : Config) (n : Nat) (entity : Entity) :
    Expr → Option Predicate → Prop
  /-- A truth value is taken as it is. -/
  | truth (b : Bool) :
      LoweredPredicate config n entity (.constant (.bool b)) (some (.shortCircuit b))
  /-- The target of a test for null is an operand. -/
  | hasValue {target : Expr} {o : Operand} {q : Option Predicate} {t₁ t₂ : Trace}
      (ho : outcome? (lowerOperand config n entity target) t₁ = some o)
      (hq : outcome? (Compilation.hasValue o) t₂ = some q) :
      LoweredPredicate config n entity (.member target "has_value") q
  /-- Any other member is an operand of kind boolean. -/
  | member {target : Expr} {name : String} {o : Operand} {q : Option Predicate} {t₁ t₂ : Trace}
      (ho : outcome? (lowerOperand config n entity (.member target name)) t₁ = some o)
      (hq : outcome? (asCondition (Expr.member target name).display o) t₂ = some q) :
      LoweredPredicate config n entity (.member target name) q
  /-- The sides of a connective are conditions. -/
  | connected {op : BinaryOp} {connective : Connective} {left right : Expr}
      {p q : Option Predicate} {t₁ t₂ : Trace}
      (hop : op = .andAlso ∧ connective = .and ∨ op = .orElse ∧ connective = .or)
      (hp : outcome? (lowerPredicate config n entity left) t₁ = some p)
      (hq : outcome? (lowerPredicate config n entity right) t₂ = some q) :
      LoweredPredicate config n entity (.binary op left right) (combine connective p q)
  /-- What is negated is a condition. -/
  | not {operand : Expr} {p : Option Predicate} {t₁ : Trace}
      (hp : outcome? (lowerPredicate config n entity operand) t₁ = some p) :
      LoweredPredicate config n entity (.unary .not operand) (p.map Predicate.negate)
  /-- The sides of a comparison are operands. -/
  | comparison {op : BinaryOp} {comparator : Comparator} {left right : Expr} {l r : Operand}
      {q : Option Predicate} {t₁ t₂ t₃ : Trace} (hop : op.comparator? = some comparator)
      (hl : outcome? (lowerOperand config n entity left) t₁ = some l)
      (hr : outcome? (lowerOperand config n entity right) t₂ = some r)
      (hq : outcome? (compareOperands config (Expr.binary op left right).display comparator false
        l r) t₃ = some q) : LoweredPredicate config n entity (.binary op left right) q
  /-- The receiver and the argument of an equality are operands. -/
  | equals {e receiver arg : Expr} {args : List Expr} {ignoreCase : Bool} {l r : Operand}
      {q : Option Predicate} {t₁ t₂ t₃ : Trace}
      (hcall : receiver? e = some (receiver, "equals", args))
      (hargs : soleArgument? args = some (arg, ignoreCase))
      (hl : outcome? (lowerOperand config n entity receiver) t₁ = some l)
      (hr : outcome? (lowerOperand config n entity arg) t₂ = some r)
      (hq : outcome? (compareOperands config e.display .equal ignoreCase l r) t₃ = some q) :
      LoweredPredicate config n entity e q
  /-- A search for null is no condition at all. -/
  | nullSearch {e receiver arg : Expr} {method : String} {args : List Expr} {ignoreCase : Bool}
      {kind : PatternKind} {t₁ : Trace} (hcall : receiver? e = some (receiver, method, args))
      (hargs : soleArgument? args = some (arg, ignoreCase))
      (hkind : PatternKind.ofMethod? method = some kind)
      (ha : outcome? (lowerOperand config n entity arg) t₁ = some (.value .null)) :
      LoweredPredicate config n entity e none
  /-- The receiver and the argument of any other search are operands. -/
  | search {e receiver arg : Expr} {method : String} {args : List Expr} {ignoreCase : Bool}
      {kind : PatternKind} {a r : Operand} {q : Option Predicate} {t₁ t₂ t₃ : Trace}
      (hcall : receiver? e = some (receiver, method, args))
      (hargs : soleArgument? args = some (arg, ignoreCase))
      (hkind : PatternKind.ofMethod? method = some kind)
      (ha : outcome? (lowerOperand config n entity arg) t₁ = some a)
      (hr : outcome? (lowerOperand config n entity receiver) t₂ = some r)
      (hq : outcome? (searchOperands config e.display kind ignoreCase r a) t₃ = some q) :
      LoweredPredicate config n entity e q
  /-- A subquery by a foreign key has an operand on its outer side. -/
  | keySubquery {outer : Expr} {detail : Entity} {foreignKey : String} {negated : Bool}
      {o : Operand} {key : Term} {t₁ : Trace}
      (ho : outcome? (lowerOperand config n entity outer) t₁ = some o)
      (hkey : Term.ofEntity detail foreignKey = .ok key) :
      LoweredPredicate config n entity (.existsIn outer detail foreignKey negated)
        (some (.subquery o.toTerm (.foreignKey key) negated))
  /-- A subquery by a filter links the foreign key to the outer side. The filter is a condition over
  the other entity, and may be none. -/
  | filterSubquery {outer filter : Expr} {detail : Entity} {foreignKey : String} {negated : Bool}
      {o : Operand} {key : Term} {link : Comparison} {t₁ t₂ : Trace} (condition : Option Predicate)
      (ho : outcome? (lowerOperand config n entity outer) t₁ = some o)
      (hkey : Term.ofEntity detail foreignKey = .ok key)
      (hlink : Comparison.withOperand key .equal (.term o.toTerm) config.wildcard = .ok link)
      (hcondition : outcome? (lowerPredicate config n detail filter) t₂ = some condition) :
      LoweredPredicate config n entity (.existsWhere outer detail foreignKey filter negated)
        (some (.subquery o.toTerm
          (.predicate (condition.elim link.toPredicate link.toPredicate.and)) negated))

/-- A call that is a condition is an equality or a search. -/
theorem loweredPredicate_of_methodCall {q : Option Predicate} {receiver : Expr} {method : String}
    {args : List Expr} (hcall : receiver? e = some (receiver, method, args))
    (h : outcome? (lowerPredicate config (n + 1) entity e) t = some q) :
    LoweredPredicate config n entity e q := by
  cases e <;> try (cases hcall; done)
  -- a call with a target and one without have the same equation
  all_goals
    simp only [lowerPredicate, hcall] at h
    split at h
    next => cases h
    next arg ignoreCase hargs =>
      split at h
      next hmethod =>
        obtain ⟨l, _, hl, h⟩ := exists_of_outcome?_bind h
        obtain ⟨r, _, hr, h⟩ := exists_of_outcome?_bind h
        rw [hmethod] at hcall
        exact .equals hcall hargs hl hr h
      next =>
        split at h
        next => cases h
        next kind hkind =>
          obtain ⟨a, _, ha, h⟩ := exists_of_outcome?_bind h
          split at h
          next hnull =>
            cases h
            cases a with
            | value v =>
              cases hnull
              exact .nullSearch hcall hargs hkind ha
            | term u => cases hnull
          next =>
            obtain ⟨r, _, hr, h⟩ := exists_of_outcome?_bind h
            exact .search hcall hargs hkind ha hr h

/-- A compilation to a condition has done one of the things that `LoweredPredicate` lists. -/
theorem loweredPredicate_of_outcome? {q : Option Predicate}
    (h : outcome? (lowerPredicate config (n + 1) entity e) t = some q) :
    LoweredPredicate config n entity e q := by
  cases hcall : receiver? e with
  | some call => exact loweredPredicate_of_methodCall hcall h
  | none =>
    unfold lowerPredicate at h
    split at h
    next b =>
      cases h
      exact .truth b
    next target name =>
      split at h
      next hname =>
        obtain ⟨o, _, ho, h⟩ := exists_of_outcome?_bind h
        rw [hname]
        exact .hasValue ho h
      next =>
        obtain ⟨o, _, ho, h⟩ := exists_of_outcome?_bind h
        exact .member ho h
    next left right =>
      obtain ⟨p, _, hp, h⟩ := exists_of_outcome?_bind h
      obtain ⟨r, _, hr, h⟩ := exists_of_outcome?_bind h
      cases h
      exact .connected (.inl ⟨rfl, rfl⟩) hp hr
    next left right =>
      obtain ⟨p, _, hp, h⟩ := exists_of_outcome?_bind h
      obtain ⟨r, _, hr, h⟩ := exists_of_outcome?_bind h
      cases h
      exact .connected (.inr ⟨rfl, rfl⟩) hp hr
    next operand =>
      obtain ⟨p, _, hp, h⟩ := exists_of_outcome?_bind h
      cases h
      exact .not hp
    next op left right _ _ =>
      split at h
      next comparator hop =>
        obtain ⟨l, _, hl, h⟩ := exists_of_outcome?_bind h
        obtain ⟨r, _, hr, h⟩ := exists_of_outcome?_bind h
        exact .comparison hop hl hr h
      next => cases h
    next =>
      rw [hcall] at h
      cases h
    next =>
      rw [hcall] at h
      cases h
    next outer detail foreignKey negated =>
      obtain ⟨_, _, -, h⟩ := exists_of_outcome?_bind h
      obtain ⟨o, _, ho, h⟩ := exists_of_outcome?_bind h
      rw [outcome?_ofExcept_bind] at h
      obtain ⟨key, hkey, h⟩ := Option.bind_eq_some_iff.mp h
      cases h
      exact .keySubquery ho (toOption_eq_some_iff.mp hkey)
    next outer detail foreignKey filter negated =>
      obtain ⟨_, _, -, h⟩ := exists_of_outcome?_bind h
      obtain ⟨o, _, ho, h⟩ := exists_of_outcome?_bind h
      rw [outcome?_ofExcept_bind] at h
      obtain ⟨key, hkey, h⟩ := Option.bind_eq_some_iff.mp h
      obtain ⟨link, _, hlink, h⟩ := exists_of_outcome?_bind h
      rw [outcome?_compared] at hlink
      obtain ⟨condition, _, hcondition, h⟩ := exists_of_outcome?_bind h
      have hsubquery : LoweredPredicate config n entity
          (.existsWhere outer detail foreignKey filter negated) _ :=
        .filterSubquery condition ho (toOption_eq_some_iff.mp hkey) (toOption_eq_some_iff.mp hlink)
          hcondition
      cases condition <;> cases h <;> exact hsubquery
    next => cases h

end Compilation

end RowFilter
