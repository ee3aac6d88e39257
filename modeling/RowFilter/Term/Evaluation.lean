import RowFilter.Term.Kind
import RowFilter.Value.Operation

/-!
# Evaluation of terms

The value of a term over a row. Children come before their parent, left before right, and the first
error ends the evaluation.
-/

namespace RowFilter

namespace Fault

/-- The error of a fault at a node of a term, by its canonical text. -/
def atNode (shown : String) : Fault → Error
  | unsupported => .notImplemented shown
  | outOfRange => .resultOutOfRange shown

end Fault

/-- The text that a function of texts works on; null is the empty text. -/
def Value.coalescedText? : Value → Option String
  | .null => some ""
  | .text s => some s
  | _ => none

mutual

/-- Value of a term over a row. -/
def Term.evaluate (registry : Registry) (row : Row) : Term → Except Error Value
  | .member ref =>
    match row.value? ref.name with
    | some v => .ok v
    | none => .error (.unknownMember .evaluate ref.owner ref.name)
  | .literal v assigned => .ok (if assigned then v else .null)
  | .binary l s r => do
    let kind ← (Term.binary l s r).kind registry
    let a ← l.evaluate registry row
    let b ← r.evaluate registry row
    (Value.arithmetic kind s a b).mapError (Fault.atNode (Term.binary l s r).display)
  | .unary s t args => do
    let shown := (Term.unary s t args).display
    match (← t.evaluate registry row).coalescedText? with
    | none => throw (.notImplemented shown)
    | some text =>
      let positions ← Term.evaluateArgs registry row shown args
      (Value.textFunction s text positions).mapError (Fault.atNode shown)

/-- Value of an operand over a row. -/
def Operand.evaluate (registry : Registry) (row : Row) : Operand → Except Error Value
  | .term t => t.evaluate registry row
  | .value v => .ok v

/-- Integers of the arguments of a node, given by its canonical text. -/
def Term.evaluateArgs (registry : Registry) (row : Row) (shown : String) :
    List Term → Except Error (List Int64)
  | [] => .ok []
  | arg :: args => do
    match (← arg.evaluate registry row).index? with
    | none => throw (.notImplemented shown)
    | some n => return n :: (← Term.evaluateArgs registry row shown args)

end

end RowFilter
