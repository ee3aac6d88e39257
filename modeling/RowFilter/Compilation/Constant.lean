import RowFilter.Term.Evaluation
import RowFilter.Compilation.Trace

/-!
# Operands of the compilation

How the operands of an expression's parts make the operand of the whole: constants fold into one,
anything with a member in it grows a term. The expression itself appears by its canonical text in
errors only.
-/

namespace RowFilter

namespace Fault

/-- The error of a fault in folding the constants of an expression, by its canonical text. -/
def inExpr (shown : String) : Fault → Error
  | unsupported => .unsupportedShape shown
  | outOfRange => .constantOutOfRange shown

end Fault

namespace Compilation

variable (shown : String)

/-- A folded constant, or the error of a fault. -/
def foldedOr : Except Fault Value → Compilation Operand
  | .ok v => folded v
  | .error fault => throw (fault.inExpr shown)

/-- A folded length. -/
def foldedLength (n : Nat) : Compilation Operand :=
  match Value.int64? n with
  | some k => folded (.int k)
  | none => throw (.constantOutOfRange shown)

/-- A member of a computed target: the length of a text, the length of a constant list, and whether
a constant is not null. -/
def memberOf (target : Operand) (name : String) : Compilation Operand := do
  match target with
  | .term t =>
    match Sign.ofMember? name with
    | some sign => return .term (← ofExcept (Term.apply (← get).registry sign t []))
    | none => throw (.unsupportedShape shown)
  | .value v =>
    if name = "length" then
      match v with
      | .text s => foldedLength shown s.length
      | .list items => foldedLength shown items.length
      | _ => throw (.unsupportedShape shown)
    else if name = "has_value" then folded (.bool (!v.isNull))
    else throw (.unsupportedShape shown)

/-- The negated number, a signed one for an unsigned one, if it is in range. -/
def negated? (v : Value) : Option Value := do
  let x ← v.toDouble?
  Value.ofDouble? (if v.kind = .uint then .int else v.kind) { x with negative := !x.negative }

/-- An operator before a constant. -/
def unaryOf (op : UnaryOp) (operand : Operand) : Compilation Operand := do
  match operand with
  | .term _ => throw (.unsupportedShape shown)
  | .value v =>
    match op, v with
    | .plus, v => if v.isNumeric then return .value v else throw (.unsupportedShape shown)
    | .negate, v =>
      if v.isNumeric then
        match negated? v with
        | some w => folded w
        | none => throw (.constantOutOfRange shown)
      else throw (.unsupportedShape shown)
    | .arrayLength, .list items => foldedLength shown items.length
    | _, _ => throw (.unsupportedShape shown)

/-- Two operands joined by an arithmetic sign. -/
def arithmeticOf (left : Operand) (sign : Sign) (right : Operand) : Compilation Operand := do
  match left, right with
  | .value a, .value b =>
    match Kind.arithmeticResult a.kind b.kind with
    | none => throw (.unsupportedShape shown)
    | some kind => foldedOr shown (Value.arithmetic kind sign a b)
  | left, right => return .term (← ofExcept (Term.join left sign right))

/-- An item of a constant list. -/
def itemOf (list index : Operand) : Compilation Operand := do
  match list, index with
  | .value (.list items), .value index =>
    match index.index? with
    | none => throw (.unsupportedShape shown)
    | some position =>
      let n := position.toInt
      match if 0 ≤ n then items[n.toNat]? else none with
      | some v => folded v
      | none => throw (.indexOutOfRange n items.length shown)
  | _, _ => throw (.unsupportedShape shown)

/-- Integers of constant operands, if all are integers. -/
def positions? : List Operand → Option (List Int64)
  | [] => some []
  | .value v :: rest => do return (← v.index?) :: (← positions? rest)
  | .term _ :: _ => none

/-- A function of texts on a computed target. -/
def textFunctionOf (sign : Sign) (target : Operand) (args : List Operand) :
    Compilation Operand := do
  match target with
  | .term t =>
    return .term (← ofExcept (Term.apply (← get).registry sign t (args.map Operand.toTerm)))
  | .value v =>
    match v.coalescedText? with
    | none => throw (.operandNotText sign v.kind shown)
    | some s =>
      match positions? args with
      | none => throw (.unsupportedShape shown)
      | some positions => foldedOr shown (Value.textFunction sign s positions)

end Compilation

end RowFilter
