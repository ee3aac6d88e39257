import RowFilter.Compilation.Constant
import RowFilter.Compilation.Pattern

/-!
# From expressions to predicates and operands

`lowerPredicate` reads an expression as a condition and `lowerOperand` reads it as a value; each
calls the other where a condition holds a value or a value is a condition. Both descend on the depth
that is left, of which every call takes one, and fail when it is used up.

Parts are compiled before the whole, left before right, and the first error ends the compilation. A
search method whose argument is null makes no predicate at all, and a connective drops a side that
makes none.
-/

namespace RowFilter

namespace Compilation

variable (config : Config) (shown : String)

/-- Two optional predicates under a connective; a missing side leaves the other. -/
def combine (op : Connective) : Option Predicate → Option Predicate → Option Predicate
  | some p, some q => some (.joined p op q)
  | some p, none => some p
  | none, q => q

/-- A comparison as the result of a compilation. -/
def asPredicate (ignoreCase : Bool) (c : Comparison) : Option Predicate :=
  some (c.ignoringCase ignoreCase).toPredicate

/-- The comparison of two operands. A constant on the left changes places with a term on the right,
and two constants fold. -/
def compareOperands (comparator : Comparator) (ignoreCase : Bool) (left right : Operand) :
    Compilation (Option Predicate) := do
  match left, right with
  | .term l, r =>
    asPredicate ignoreCase <$>
      compared comparator (Comparison.withOperand l comparator r config.wildcard)
  | .value v, .term r =>
    report .comparatorReversal
    asPredicate ignoreCase <$>
      compared comparator.reverse (Comparison.withValue r comparator.reverse v config.wildcard)
  | .value a, .value b =>
    match Value.comparison? comparator ignoreCase a b with
    | some truth => foldedTo truth
    | none => throw (.unsupportedShape shown)

/-- A search method on two operands: membership where one side is a list and the other is not in the
tree already, a pattern where the receiver is a text, and a truth value where both are constants. -/
def searchOperands (kind : PatternKind) (ignoreCase : Bool) (receiver arg : Operand) :
    Compilation (Option Predicate) := do
  match receiver, arg with
  | .value (.list items), .term t =>
    if kind = .contains then
      asPredicate ignoreCase <$>
        compared .isIn (Comparison.withValue t .isIn (.list items) config.wildcard)
    else throw (.unsupportedShape shown)
  | .value _, .term _ => throw (.unsupportedShape shown)
  | .term t, .value v =>
    let listed ←
      if kind = .contains then (fun k => decide (k = .list)) <$> kindOf t else pure false
    if listed then
      asPredicate ignoreCase <$>
        compared .isIn (Comparison.withOperand (.ofValue v) .isIn (.term t) defaultWildcard)
    else
      match v with
      | .text s =>
        if (← kindOf t).isText then
          asPredicate ignoreCase <$>
            compared kind.comparator
              (Comparison.withValue t kind.comparator (.text (kind.wrap config.wildcard s))
                config.wildcard)
        else throw (.unsupportedShape shown)
      | _ => throw (.unsupportedShape shown)
  | .term t, .term a =>
    let receiverKind ← kindOf t
    if receiverKind.isText then
      asPredicate ignoreCase <$>
        compared kind.comparator
          (Comparison.withOperand t kind.comparator (.term a) config.wildcard)
    else throw (.unsupportedShape shown)
  | .value r, .value a =>
    match Value.pattern? kind ignoreCase r a with
    | some truth => foldedTo truth
    | none => throw (.unsupportedShape shown)

/-- Whether a computed operand has a value. A member that never holds null always has one. -/
def hasValue : Operand → Compilation (Option Predicate)
  | .value v => foldedTo (!v.isNull)
  | .term t => do
    let nullable ← match t.member? with
      | some ref => do pure (← ofExcept (ref.field (← get).registry)).nullable
      | none => pure true
    if nullable then
      asPredicate false <$> compared .isNotNull (Comparison.unary t .isNotNull)
    else foldedTo true

/-- An operand of kind boolean as a condition. -/
def asCondition (operand : Operand) : Compilation (Option Predicate) := do
  match operand with
  | .term t =>
    if (← kindOf t) = .bool then
      asPredicate false <$>
        compared .equal (Comparison.withValue t .equal (.bool true) defaultWildcard)
    else throw (.unsupportedShape shown)
  | .value (.bool b) => foldedTo b
  | .value _ => throw (.unsupportedShape shown)

/-- A condition as an operand: only one that has folded to a truth value is a value. -/
def asOperand (condition : Option Predicate) : Compilation Operand :=
  match condition.bind Predicate.truth? with
  | some b => return .value (.bool b)
  | none => throw (.unsupportedShape shown)

/-- The one argument of a predicate method, and whether a literal flag turns letter case off. -/
def soleArgument? : List Expr → Option (Expr × Bool)
  | [arg] => some (arg, false)
  | [arg, .constant (.bool ignoreCase)] => some (arg, ignoreCase)
  | _ => none

/-- Receiver and arguments of a predicate method. Without a target the first argument is one. -/
def receiver? : Expr → Option (Expr × String × List Expr)
  | .call target method args => some (target, method, args)
  | .staticCall method (target :: args) => some (target, method, args)
  | _ => none

mutual

/-- Compile an expression over an entity as a condition; `none` is no condition at all. -/
def lowerPredicate : Nat → Entity → Expr → Compilation (Option Predicate)
  | 0, _, e => throw (.nestingTooDeep config.maxDepth e.display)
  | n + 1, entity, e => do
    match e with
    | .constant (.bool b) => return some (.shortCircuit b)
    | .member target name =>
      if name = "has_value" then hasValue (← lowerOperand n entity target)
      else asCondition e.display (← lowerOperand n entity e)
    | .binary .andAlso left right =>
      let p ← lowerPredicate n entity left
      let q ← lowerPredicate n entity right
      return combine .and p q
    | .binary .orElse left right =>
      let p ← lowerPredicate n entity left
      let q ← lowerPredicate n entity right
      return combine .or p q
    | .unary .not operand => return (← lowerPredicate n entity operand).map Predicate.negate
    | .binary op left right =>
      match op.comparator? with
      | some comparator =>
        let l ← lowerOperand n entity left
        let r ← lowerOperand n entity right
        compareOperands config e.display comparator false l r
      | none => throw (.unsupportedShape e.display)
    | .call _ _ _ | .staticCall _ _ =>
      match receiver? e with
      | none => throw (.unsupportedShape e.display)
      | some (receiver, method, args) =>
        match soleArgument? args with
        | none => throw (.unsupportedShape e.display)
        | some (arg, ignoreCase) =>
          if method = "equals" then
            let l ← lowerOperand n entity receiver
            let r ← lowerOperand n entity arg
            compareOperands config e.display .equal ignoreCase l r
          else
            match PatternKind.ofMethod? method with
            | none => throw (.unsupportedShape e.display)
            | some kind =>
              let a ← lowerOperand n entity arg
              if a.value? = some .null then return none
              else
                let r ← lowerOperand n entity receiver
                searchOperands config e.display kind ignoreCase r a
    | .existsIn outer detail foreignKey negated =>
      register detail
      let o ← lowerOperand n entity outer
      let key ← ofExcept (Term.ofEntity detail foreignKey)
      return some (.subquery o.toTerm (.foreignKey key) negated)
    | .existsWhere outer detail foreignKey filter negated =>
      register detail
      let o ← lowerOperand n entity outer
      let key ← ofExcept (Term.ofEntity detail foreignKey)
      let link ← compared .equal
        (Comparison.withOperand key .equal (.term o.toTerm) config.wildcard)
      let condition ← lowerPredicate n detail filter
      let inner := match condition with
        | some p => link.toPredicate.and p
        | none => link.toPredicate
      return some (.subquery o.toTerm (.predicate inner) negated)
    | _ => throw (.unsupportedShape e.display)

/-- Compile an expression over an entity as a value. -/
def lowerOperand : Nat → Entity → Expr → Compilation Operand
  | 0, _, e => throw (.nestingTooDeep config.maxDepth e.display)
  | n + 1, entity, e => do
    -- an expression that is no operand of its own may still be a condition that folds
    let condition := do
      if e.isPredicate then asOperand e.display (← lowerPredicate n entity e)
      else throw (.unsupportedShape e.display)
    match e with
    | .constant v => return .value v
    | .nonFinite _ => throw (.nonFiniteConstant e.display)
    | .member .row name => return .term (← ofExcept (Term.ofEntity entity name))
    | .member target name => memberOf e.display (← lowerOperand n entity target) name
    | .unary .not _ => condition
    | .unary op operand => unaryOf e.display op (← lowerOperand n entity operand)
    | .binary op left right =>
      match op.sign? with
      | some sign =>
        let l ← lowerOperand n entity left
        let r ← lowerOperand n entity right
        arithmeticOf e.display l sign r
      | none =>
        if op = .arrayIndex then
          let l ← lowerOperand n entity left
          let r ← lowerOperand n entity right
          itemOf e.display l r
        else condition
    | .call target method args =>
      match Sign.ofMethod? method with
      | some sign =>
        let t ← lowerOperand n entity target
        let operands ← args.mapM (lowerOperand n entity)
        textFunctionOf e.display sign t operands
      | none => condition
    | .staticCall _ _ | .existsIn _ _ _ _ | .existsWhere _ _ _ _ _ => condition
    | .row => throw (.unsupportedShape e.display)

end

end Compilation

end RowFilter
