import RowFilter.Clause.Basic
import RowFilter.Digest.Bytes
import RowFilter.Predicate.Basic

/-!
# Byte streams of trees

The bytes that stand for a tree in digests. Every node starts with a tag, every text and every list
with its length, and nothing that tells two trees apart is left out; only the fields that member
references carry do not appear.
-/

namespace RowFilter

namespace ByteStream

/-- A truth value. -/
def ofBool (b : Bool) : List UInt8 := [if b then 1 else 0]

/-- A length. -/
def ofLength (n : Nat) : List UInt8 := bigEndian 8 n

/-- A text after its length in bytes. -/
def ofText (s : String) : List UInt8 :=
  ofLength s.utf8ByteSize ++ s.toUTF8.toList

/-- A member reference. -/
def ofMember (ref : MemberRef) : List UInt8 := ofText ref.owner ++ ofText ref.name

end ByteStream

open ByteStream

mutual

/-- Stream of a value. -/
def Value.stream : Value → List UInt8
  | .null => [Kind.null.tag]
  | .bool b => Kind.bool.tag :: ofBool b
  | .int n => Kind.int.tag :: bigEndian 8 n.toUInt64.toNat
  | .uint n => Kind.uint.tag :: bigEndian 8 n.toNat
  | .float32 x => Kind.float32.tag :: bigEndian 4 x.toBits
  | .float64 x => Kind.float64.tag :: bigEndian 8 x.toBits
  | .text s => Kind.text.tag :: ofText s
  | .date d => Kind.date.tag :: bigEndian 4 d.days.toUInt32.toNat
  | .list items => Kind.list.tag :: ofLength items.length ++ Value.streamItems items

/-- Stream of the items of a list, each after a mark. -/
def Value.streamItems : List Value → List UInt8
  | [] => []
  | v :: vs => 0xff :: v.stream ++ Value.streamItems vs

end

mutual

/-- Stream of a term. -/
def Term.stream : Term → List UInt8
  | .member ref => 0x30 :: ofMember ref
  | .literal v assigned => 0x31 :: v.stream ++ ofBool assigned
  | .binary l s r => 0x32 :: l.stream ++ s.tag :: r.stream
  | .unary s t args => 0x33 :: s.tag :: t.stream ++ ofLength args.length ++ Term.streamArgs args

/-- Stream of an operand. -/
def Operand.stream : Operand → List UInt8
  | .term t => 0x01 :: t.stream
  | .value v => 0x02 :: v.stream

/-- Stream of arguments. -/
def Term.streamArgs : List Term → List UInt8
  | [] => []
  | t :: ts => t.stream ++ Term.streamArgs ts

end

mutual

/-- Stream of a predicate. -/
def Predicate.stream : Predicate → List UInt8
  | .joined p op q => 0x20 :: op.tag :: 0x01 :: p.stream ++ q.stream
  | .solo op p => 0x20 :: op.tag :: 0x00 :: p.stream
  | .comparison l c r i => 0x21 :: l.stream ++ c.tag :: r.stream ++ ofBool i
  | .subquery o x n => 0x22 :: o.stream ++ x.stream ++ ofBool n
  | .shortCircuit b => 0x23 :: ofBool b

/-- Stream of a right side. -/
def RightSide.stream : RightSide → List UInt8
  | .empty => [0x00]
  | .operand t => 0x01 :: t.stream
  | .predicate p => 0x02 :: p.stream
  | .value v => 0x03 :: v.stream

/-- Stream of the inner side of a subquery. -/
def Inner.stream : Inner → List UInt8
  | .foreignKey t => 0x01 :: t.stream
  | .predicate p => 0x02 :: p.stream

end

/-- Stream of a new value. -/
def SetValue.stream : SetValue → List UInt8
  | .value v => 0x01 :: v.stream
  | .operand t => 0x02 :: t.stream

/-- Stream of a chain under a tag: the number of entries, then the entries, oldest first. -/
def Chain.streamWith {α : Type} (tag : UInt8) (payload : α → List UInt8) (c : Chain α) :
    List UInt8 :=
  tag :: ofLength c.entries.length ++ c.entries.flatMap fun e => ofMember e.1 ++ payload e.2

/-- Stream of a set clause. -/
def SetClause.stream (c : SetClause) : List UInt8 := c.streamWith 0x40 SetValue.stream

/-- Stream of a sort clause. -/
def SortClause.stream (c : SortClause) : List UInt8 := c.streamWith 0x41 fun d => [d.tag]

end RowFilter
