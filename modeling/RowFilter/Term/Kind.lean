import RowFilter.Term.Basic

/-!
# Kinds of terms, and checked construction

The kind of a term follows from the kinds of its members. The checked constructors `Term.join` and
`Term.apply` refuse what could not be evaluated; the plain constructors of `Term` do not check.
-/

namespace RowFilter

mutual

/-- Kind of the value that a term computes. Where arithmetic on the two kinds of a join is not
defined, the kind of its left side stands in. -/
def Term.kind (registry : Registry) : Term → Except Error Kind
  | .member ref => ref.kind registry
  | .literal v _ => .ok v.kind
  | .binary l _ r => do
    let j ← l.kind registry
    let k ← r.kind registry
    return (Kind.arithmeticResult j k).getD j
  | .unary s _ _ => .ok (if s = .length then .int else .text)

/-- Kind of the value that an operand computes. -/
def Operand.kind (registry : Registry) : Operand → Except Error Kind
  | .term t => t.kind registry
  | .value v => .ok v.kind

end

namespace Term

/-- The term of a declared member of an entity. -/
def ofEntity (e : Entity) (name : String) : Except Error Term :=
  (MemberRef.ofEntity e name).map .member

/-- Join two operands by an arithmetic sign. -/
def join (left : Operand) (sign : Sign) (right : Operand) : Except Error Term :=
  if sign.isArithmetic then .ok (.binary left sign right) else .error (.signJoinsNothing sign)

/-- Check that the arguments of a sign are integers. -/
def checkArguments (registry : Registry) (sign : Sign) : List Term → Except Error Unit
  | [] => .ok ()
  | arg :: args => do
    let kind ← arg.kind registry
    if kind.isInteger then checkArguments registry sign args
    else .error (.argumentNotInteger sign kind arg.display)

/-- Apply a sign for texts to a term of kind text, with as many integer arguments as it takes. -/
def apply (registry : Registry) (sign : Sign) (operand : Term) (args : List Term) :
    Except Error Term := do
  if !sign.isString then throw (.signAppliesToNothing sign)
  let kind ← operand.kind registry
  if !kind.isText then throw (.operandNotText sign kind operand.display)
  if sign.maxArguments < args.length then throw (.tooManyArguments sign args.length)
  checkArguments registry sign args
  return .unary sign operand args

end Term

end RowFilter
