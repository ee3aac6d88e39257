import RowFilter.Cbor.Decoding
import RowFilter.Cbor.Encoding

/-!
# Trees of items

Reading items as trees. The functions descend on a bound of nesting, which the bound on the nesting
of items keeps from being used up. Every comparison is checked for its canonical shape once its
parts are read, and every float for being finite.
-/

namespace RowFilter

namespace Item

/-- The integer of 64 bits with sign of an item. -/
def asInt64 (item : Item) : Decoded Int64 := orMalformed (item.integer?.bind Value.int64?)

/-- The integer of 64 bits without sign of an item. -/
def asUInt64 (item : Item) : Decoded UInt64 := orMalformed (item.integer?.bind Value.uint64?)

/-- The date of an item. -/
def asDate (item : Item) : Decoded Date :=
  orMalformed <| item.integer?.bind fun n =>
    if Int32.minValue.toInt ≤ n ∧ n ≤ Int32.maxValue.toInt then some ⟨.ofInt n⟩ else none

/-- The byte of an item. -/
def asByte (item : Item) : Decoded UInt8 :=
  orMalformed <| item.integer?.bind fun n =>
    if 0 ≤ n ∧ n < 256 then some (.ofNat n.toNat) else none

/-- One of labelled alternatives without payloads. -/
def asLabel {α : Type} (all : List α) (label : α → String) : Item → Decoded α :=
  asVariant (all.map fun a => (label a, .bare a))

/-- The comparator of an item. -/
def asComparator : Item → Decoded Comparator := asLabel Comparator.all Comparator.label

/-- The sign of an item. -/
def asSign : Item → Decoded Sign := asLabel Sign.all Sign.label

/-- The connective of an item. -/
def asConnective : Item → Decoded Connective := asLabel Connective.all Connective.label

/-- The direction of an item. -/
def asDirection : Item → Decoded Direction := asLabel Direction.all Direction.label

/-- The value of an item. -/
def asValue : (nesting : Nat) → Item → Decoded Value
  | 0, _ => .error .malformed
  | n + 1, item =>
    asVariant
      [("Null", .bare .null),
        ("Bool", .payload fun i => Value.bool <$> i.asBool),
        ("Int", .payload fun i => Value.int <$> i.asInt64),
        ("Uint", .payload fun i => Value.uint <$> i.asUInt64),
        ("Float32", .payload fun i => Value.float32 <$> i.asFinite "Float32"),
        ("Float64", .payload fun i => Value.float64 <$> i.asFinite "Float64"),
        ("Text", .payload fun i => Value.text <$> i.asText),
        ("Date", .payload fun i => Value.date <$> i.asDate),
        ("List", .payload fun i => do Value.list <$> (← i.asArray).mapM (asValue n))]
      item

/-- The member reference of an item; it carries no field. -/
def asMemberRef (item : Item) : Decoded MemberRef := do
  let (owner, name) ← record2 "owner" asText "member" asText item
  return .named owner name

mutual

/-- The term of an item. -/
def asTerm : (nesting : Nat) → Item → Decoded Term
  | 0, _ => .error .malformed
  | n + 1, item =>
    asVariant
      [("Member", .payload fun i => Term.member <$> i.asMemberRef),
        ("Literal", .payload fun i => do
          let (v, assigned) ← record2 "value" (asValue n) "has_value" asBool i
          return .literal v assigned),
        ("Binary", .payload fun i => do
          let (l, s, r) ← record3 "left" (asOperand n) "sign" asSign "right" (asOperand n) i
          return .binary l s r),
        ("Unary", .payload fun i => do
          let (s, t, args) ←
            record3 "sign" asSign "operand" (asTerm n) "args"
              (fun j => do (← j.asArray).mapM (asTerm n)) i
          return .unary s t args)]
      item

/-- The operand of an item. -/
def asOperand : (nesting : Nat) → Item → Decoded Operand
  | 0, _ => .error .malformed
  | n + 1, item =>
    asVariant
      [("Expr", .payload fun i => Operand.term <$> asTerm n i),
        ("Value", .payload fun i => Operand.value <$> asValue n i)]
      item

end

/-- Check a comparison that has been read for its canonical shape. -/
def canonical (parts : Term × Comparator × RightSide × Bool) : Decoded Comparison :=
  let (left, comparator, right, ignoreCase) := parts
  if Comparison.isCanonical comparator right then .ok { left, comparator, right, ignoreCase }
  else .error (.notCanonical comparator)

mutual

/-- The predicate of an item. -/
def asPredicate : (nesting : Nat) → Item → Decoded Predicate
  | 0, _ => .error .malformed
  | n + 1, item =>
    asVariant
      [("Logical", .payload fun i => do
          let (left, op, right) ←
            optional3 "left" (asOption (asPredicate n)) "op" asConnective "right" (asPredicate n) i
          let op ← orMalformed op
          let right ← orMalformed right
          match left.join with
          | some left => return .joined left op right
          | none => return .solo op right),
        ("Compare", .payload fun i => Comparison.toPredicate <$> asComparison n i),
        ("Exists", .payload fun i => do
          let (outer, inner, negated) ←
            record3 "outer" (asTerm n) "inner" (asInner n) "negate" asBool i
          return .subquery outer inner negated),
        ("ShortCircuit", .payload fun i => Predicate.shortCircuit <$> i.asBool)]
      item

/-- The comparison of an item. -/
def asComparison : (nesting : Nat) → Item → Decoded Comparison
  | 0, _ => .error .malformed
  | n + 1, item => do
    canonical
      (← record4 "left" (asTerm n) "comparator" asComparator "right" (asRightSide n) "ignore_case"
        asBool item)

/-- The right side of an item. -/
def asRightSide : (nesting : Nat) → Item → Decoded RightSide
  | 0, _ => .error .malformed
  | n + 1, item =>
    asVariant
      [("Empty", .bare .empty),
        ("Operand", .payload fun i => RightSide.operand <$> asTerm n i),
        ("Expression", .payload fun i => RightSide.predicate <$> asPredicate n i),
        ("Value", .payload fun i => RightSide.value <$> asValue n i)]
      item

/-- The inner side of a subquery of an item. -/
def asInner : (nesting : Nat) → Item → Decoded Inner
  | 0, _ => .error .malformed
  | n + 1, item =>
    asVariant
      [("ForeignKey", .payload fun i => Inner.foreignKey <$> asTerm n i),
        ("Criteria", .payload fun i => Inner.predicate <$> asPredicate n i)]
      item

end

/-- The new value of an item. -/
def asSetValue (nesting : Nat) : Item → Decoded SetValue :=
  asVariant
    [("Value", .payload fun i => SetValue.value <$> asValue nesting i),
      ("Operand", .payload fun i => SetValue.operand <$> asTerm nesting i)]

/-- The chain of an item, whose payloads stand under a name. -/
def asChain {α : Type} (name : String) (payload : Item → Decoded α) :
    (nesting : Nat) → Item → Decoded (Chain α)
  | 0, _ => .error .malformed
  | n + 1, item => do
    let (ref, a, prior) ←
      optional3 "member" asMemberRef name payload "prior"
        (asOption (asChain name payload n)) item
    let ref ← orMalformed ref
    let a ← orMalformed a
    match prior.join with
    | some prior => return .link prior ref a
    | none => return .start ref a

/-- The fingerprint of an item. -/
def asFingerprint (item : Item) : Decoded Fingerprint := do
  let items ← item.asArray
  let bytes ← (items.take 32).mapM asByte
  if h : bytes.length = 32 ∧ items.length = 32 then return ⟨bytes, h.1⟩ else throw .malformed

/-- The report of an error of an item. -/
def asErrorReport (item : Item) : Decoded ErrorReport := do
  let (category, origin, message) ←
    record3 "kind" (asLabel ErrorClass.all ErrorClass.label) "origin"
      (asLabel ErrorOrigin.all ErrorOrigin.label) "message" asText item
  return ⟨category, origin, message⟩

/-- Bound of nesting for reading trees: no item nests deeper. -/
def treeNesting : Nat := 2 * maxDepth + 2

end Item

namespace Value

/-- Bytes of a value. -/
def encode (v : Value) : List UInt8 := v.toItem.render

/-- Read a value from bytes. -/
def decode (limit : Nat) (bytes : List UInt8) : Decoded Value :=
  decodeBytes (Item.asValue Item.treeNesting) limit bytes

end Value

namespace Date

/-- Bytes of a date. -/
def encode (d : Date) : List UInt8 := d.toItem.render

/-- Read a date from bytes. -/
def decode (limit : Nat) (bytes : List UInt8) : Decoded Date :=
  decodeBytes Item.asDate limit bytes

end Date

namespace Term

/-- Bytes of a term. -/
def encode (t : Term) : List UInt8 := t.toItem.render

/-- Read a term from bytes. -/
def decode (limit : Nat) (bytes : List UInt8) : Decoded Term :=
  decodeBytes (Item.asTerm Item.treeNesting) limit bytes

end Term

namespace Operand

/-- Bytes of an operand. -/
def encode (o : Operand) : List UInt8 := o.toItem.render

/-- Read an operand from bytes. -/
def decode (limit : Nat) (bytes : List UInt8) : Decoded Operand :=
  decodeBytes (Item.asOperand Item.treeNesting) limit bytes

end Operand

namespace Comparison

/-- Bytes of a comparison. -/
def encode (c : Comparison) : List UInt8 := c.toItem.render

/-- Read a comparison from bytes. -/
def decode (limit : Nat) (bytes : List UInt8) : Decoded Comparison :=
  decodeBytes (Item.asComparison Item.treeNesting) limit bytes

end Comparison

namespace Predicate

/-- Bytes of a predicate. -/
def encode (p : Predicate) : List UInt8 := p.toItem.render

/-- Read a predicate from bytes. -/
def decode (limit : Nat) (bytes : List UInt8) : Decoded Predicate :=
  decodeBytes (Item.asPredicate Item.treeNesting) limit bytes

end Predicate

namespace SetClause

/-- Bytes of a set clause. -/
def encode (c : SetClause) : List UInt8 := c.toItem.render

/-- Read a set clause from bytes. -/
def decode (limit : Nat) (bytes : List UInt8) : Decoded SetClause :=
  decodeBytes (Item.asChain "value" (Item.asSetValue Item.treeNesting) Item.treeNesting) limit bytes

end SetClause

namespace SortClause

/-- Bytes of a sort clause. -/
def encode (c : SortClause) : List UInt8 := c.toItem.render

/-- Read a sort clause from bytes. -/
def decode (limit : Nat) (bytes : List UInt8) : Decoded SortClause :=
  decodeBytes (Item.asChain "direction" Item.asDirection Item.treeNesting) limit bytes

end SortClause

namespace Fingerprint

/-- Bytes of a fingerprint in transport. -/
def encode (f : Fingerprint) : List UInt8 := f.toItem.render

/-- Read a fingerprint from bytes. -/
def decode (limit : Nat) (bytes : List UInt8) : Decoded Fingerprint :=
  decodeBytes Item.asFingerprint limit bytes

end Fingerprint

namespace ErrorReport

/-- Bytes of a report of an error. -/
def encode (e : ErrorReport) : List UInt8 := e.toItem.render

/-- Read a report of an error from bytes. -/
def decode (limit : Nat) (bytes : List UInt8) : Decoded ErrorReport :=
  decodeBytes Item.asErrorReport limit bytes

end ErrorReport

end RowFilter
