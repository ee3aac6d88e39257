import RowFilter.Cbor.Bytes
import RowFilter.Clause.Basic
import RowFilter.Digest.Fingerprint
import RowFilter.Predicate.Comparison

/-!
# Items of trees

What a tree is written as. A record is a map from the names of its fields, in a fixed order; a
variant without a payload is its name, and one with a payload is an entry. The fields that member
references carry are not written.
-/

namespace RowFilter

open Item

/-- Item of a date: its count of days. -/
def Date.toItem (d : Date) : Item := ofInt d.days.toInt

mutual

/-- Item of a value. -/
def Value.toItem : Value → Item
  | .null => .text "Null"
  | .bool b => variant "Bool" (.bool b)
  | .int n => variant "Int" (ofInt n.toInt)
  | .uint n => variant "Uint" (.unsigned n.toNat)
  | .float32 x => variant "Float32" (ofSingle x.toFloating)
  | .float64 x => variant "Float64" (ofDouble x.toFloating)
  | .text s => variant "Text" (.text s)
  | .date d => variant "Date" d.toItem
  | .list items => variant "List" (.array (Value.toItems items))

/-- Items of values. -/
def Value.toItems : List Value → List Item
  | [] => []
  | v :: vs => v.toItem :: Value.toItems vs

end

/-- Item of a member reference. -/
def MemberRef.toItem (ref : MemberRef) : Item :=
  fields [("owner", .text ref.owner), ("member", .text ref.name)]

mutual

/-- Item of a term. -/
def Term.toItem : Term → Item
  | .member ref => variant "Member" ref.toItem
  | .literal v assigned =>
    variant "Literal" (fields [("value", v.toItem), ("has_value", .bool assigned)])
  | .binary l s r =>
    variant "Binary" (fields [("left", l.toItem), ("sign", .text s.label), ("right", r.toItem)])
  | .unary s t args =>
    variant "Unary"
      (fields
        [("sign", .text s.label), ("operand", t.toItem), ("args", .array (Term.toItems args))])

/-- Item of an operand. -/
def Operand.toItem : Operand → Item
  | .term t => variant "Expr" t.toItem
  | .value v => variant "Value" v.toItem

/-- Items of terms. -/
def Term.toItems : List Term → List Item
  | [] => []
  | t :: ts => t.toItem :: Term.toItems ts

end

/-- Item of the four parts of a comparison. -/
def comparisonItem (left : Item) (comparator : Comparator) (right : Item) (ignoreCase : Bool) :
    Item :=
  fields
    [("left", left), ("comparator", .text comparator.label), ("right", right),
      ("ignore_case", .bool ignoreCase)]

mutual

/-- Item of a predicate. -/
def Predicate.toItem : Predicate → Item
  | .joined p op q =>
    variant "Logical" (fields [("left", p.toItem), ("op", .text op.label), ("right", q.toItem)])
  | .solo op p =>
    variant "Logical" (fields [("left", .null), ("op", .text op.label), ("right", p.toItem)])
  | .comparison l c r i => variant "Compare" (comparisonItem l.toItem c r.toItem i)
  | .subquery o x n =>
    variant "Exists" (fields [("outer", o.toItem), ("inner", x.toItem), ("negate", .bool n)])
  | .shortCircuit b => variant "ShortCircuit" (.bool b)

/-- Item of a right side. -/
def RightSide.toItem : RightSide → Item
  | .empty => .text "Empty"
  | .operand t => variant "Operand" t.toItem
  | .predicate p => variant "Expression" p.toItem
  | .value v => variant "Value" v.toItem

/-- Item of the inner side of a subquery. -/
def Inner.toItem : Inner → Item
  | .foreignKey t => variant "ForeignKey" t.toItem
  | .predicate p => variant "Criteria" p.toItem

end

/-- Item of a comparison on its own. -/
def Comparison.toItem (c : Comparison) : Item :=
  comparisonItem c.left.toItem c.comparator c.right.toItem c.ignoreCase

/-- Item of a new value. -/
def SetValue.toItem : SetValue → Item
  | .value v => variant "Value" v.toItem
  | .operand t => variant "Operand" t.toItem

/-- Item of a chain, whose payloads stand under a name. -/
def Chain.toItem {α : Type} (name : String) (payload : α → Item) : Chain α → Item
  | .start ref a => fields [("member", ref.toItem), (name, payload a), ("prior", .null)]
  | .link prior ref a =>
    fields [("member", ref.toItem), (name, payload a), ("prior", prior.toItem name payload)]

/-- Item of a set clause. -/
def SetClause.toItem (c : SetClause) : Item := Chain.toItem "value" SetValue.toItem c

/-- Item of a sort clause. -/
def SortClause.toItem (c : SortClause) : Item :=
  Chain.toItem "direction" (fun d => .text d.label) c

/-- Item of a fingerprint: an array of its bytes. -/
def Fingerprint.toItem (f : Fingerprint) : Item :=
  .array (f.bytes.map fun b => .unsigned b.toNat)

/-- Item of a report of an error. -/
def ErrorReport.toItem (e : ErrorReport) : Item :=
  fields
    [("kind", .text e.category.label), ("origin", .text e.origin.label),
      ("message", .text e.message)]

end RowFilter
