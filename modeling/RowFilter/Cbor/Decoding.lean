import RowFilter.Cbor.Bytes
import RowFilter.Error
import RowFilter.Value.Basic

/-!
# Reading items as typed data

The shapes that typed data takes in items. A record is a map from field names or an array of the
fields in order; a variant is an entry, an array of name and payload, or a bare name. A name may be
given as text, as bytes or by its position. Parts are read in the order in which they stand, and the
first error counts.
-/

namespace RowFilter

/-- A reading that may fail. -/
abbrev Decoded (α : Type) := Except DecodeError α

namespace Item

/-- A reading that is malformed if there is nothing. -/
def orMalformed {α : Type} : Option α → Decoded α
  | some a => .ok a
  | none => .error .malformed

/-- The integer of an item. -/
def integer? (item : Item) : Option Int :=
  match item.untag with
  | unsigned n => some n
  | negative n => some (-1 - n)
  | _ => none

/-- The truth value of an item. -/
def asBool (item : Item) : Decoded Bool :=
  match item.untag with
  | bool b => .ok b
  | _ => .error .malformed

/-- The text of an item; a string of bytes in UTF-8 is one too. -/
def asText (item : Item) : Decoded String :=
  match item.untag with
  | text s => .ok s
  | bytes b => orMalformed (utf8? b)
  | _ => .error .malformed

/-- The number of a format of an item: a float of any width, rounded, or an integer of 64 bits. -/
def asFloating {f : FloatFormat} (item : Item) : Decoded (Floating f) :=
  match item.untag with
  | unsigned n => .ok (.ofInt n)
  | negative n => if n < 0x8000000000000000 then .ok (.ofInt (-1 - n)) else .error .malformed
  | half x => .ok x.convert
  | single x => .ok x.convert
  | double x => .ok x.convert
  | _ => .error .malformed

/-- The finite number of an item, for the type of a name. -/
def asFinite {f : FloatFormat} (type : String) (item : Item) : Decoded (Finite f) := do
  let x : Floating f ← item.asFloating
  match Finite.ofFloating? x with
  | some y => return y
  | none => throw (.nonFinite type x.text)

/-- The items of an array. -/
def asArray (item : Item) : Decoded (List Item) :=
  match item.untag with
  | array items => .ok items
  | _ => .error .malformed

/-- The item carries nothing. -/
def asUnit (item : Item) : Decoded Unit :=
  match item.untag with
  | null | undefined => .ok ()
  | _ => .error .malformed

/-- What stands for a missing value is null itself, without tags; all else is a value. -/
def asOption {α : Type} (decode : Item → Decoded α) : Item → Decoded (Option α)
  | null => .ok none
  | item => some <$> decode item

/-- Position of the name that an item gives, if it gives one of the names. -/
def name? (names : List String) (item : Item) : Decoded (Option Nat) :=
  match item.untag with
  | text s => .ok (names.idxOf? s)
  | bytes b => .ok (names.findIdx? fun name => name.toUTF8.toList == b)
  | unsigned n => .ok (if n < names.length then some n else none)
  | _ => .error .malformed

/-- Read the pairs of a record. Unknown names are passed over; what they name has to be intact. -/
def foldPairs {σ : Type} (names : List String) (step : Nat → Item → σ → Decoded σ) :
    List Item → σ → Decoded σ
  | [], s => .ok s
  | key :: value :: rest, s => do
    match ← name? names key with
    | some i => foldPairs names step rest (← step i value s)
    | none => if value.intact then foldPairs names step rest s else throw .malformed
  | [_], _ => .error .malformed

/-- Read the items of a record in order, from position `i` on; there have to be exactly `count`. -/
def foldElements {σ : Type} (count : Nat) (step : Nat → Item → σ → Decoded σ) :
    (i : Nat) → List Item → σ → Decoded σ
  | i, [], s => if i = count then .ok s else .error .malformed
  | i, item :: items, s => do
    if i < count then foldElements count step (i + 1) items (← step i item s)
    else throw .malformed

/-- Read a record, field by field. -/
def foldRecord {σ : Type} (names : List String) (step : Nat → Item → σ → Decoded σ) (init : σ)
    (item : Item) : Decoded σ :=
  match item.untag with
  | map content => foldPairs names step content init
  | entry key value => foldPairs names step [key, value] init
  | array items => foldElements names.length step 0 items init
  | _ => .error .malformed

/-- Put a field that has not been read before. -/
def put {α : Type} (old : Option α) (decode : Item → Decoded α) (item : Item) :
    Decoded (Option α) :=
  match old with
  | some _ => .error .malformed
  | none => some <$> decode item

/-- Read a record of two fields. -/
def record2 {α β : Type} (a : String) (decodeA : Item → Decoded α) (b : String)
    (decodeB : Item → Decoded β) (item : Item) : Decoded (α × β) := do
  let step (i : Nat) (item : Item) (s : Option α × Option β) : Decoded (Option α × Option β) :=
    match i with
    | 0 => do return (← put s.1 decodeA item, s.2)
    | _ => do return (s.1, ← put s.2 decodeB item)
  let (x, y) ← foldRecord [a, b] step (none, none) item
  return (← orMalformed x, ← orMalformed y)

/-- Read a record of three fields, of which each may be missing if the record is a map. -/
def optional3 {α β γ : Type} (a : String) (decodeA : Item → Decoded α) (b : String)
    (decodeB : Item → Decoded β) (c : String) (decodeC : Item → Decoded γ) (item : Item) :
    Decoded (Option α × Option β × Option γ) :=
  let step (i : Nat) (item : Item) (s : Option α × Option β × Option γ) :
      Decoded (Option α × Option β × Option γ) :=
    match i with
    | 0 => do return (← put s.1 decodeA item, s.2)
    | 1 => do return (s.1, ← put s.2.1 decodeB item, s.2.2)
    | _ => do return (s.1, s.2.1, ← put s.2.2 decodeC item)
  foldRecord [a, b, c] step (none, none, none) item

/-- Read a record of three fields. -/
def record3 {α β γ : Type} (a : String) (decodeA : Item → Decoded α) (b : String)
    (decodeB : Item → Decoded β) (c : String) (decodeC : Item → Decoded γ) (item : Item) :
    Decoded (α × β × γ) := do
  let (x, y, z) ← optional3 a decodeA b decodeB c decodeC item
  return (← orMalformed x, ← orMalformed y, ← orMalformed z)

/-- Read a record of four fields. -/
def record4 {α β γ δ : Type} (a : String) (decodeA : Item → Decoded α) (b : String)
    (decodeB : Item → Decoded β) (c : String) (decodeC : Item → Decoded γ) (d : String)
    (decodeD : Item → Decoded δ) (item : Item) : Decoded (α × β × γ × δ) := do
  let step (i : Nat) (item : Item) (s : Option α × Option β × Option γ × Option δ) :
      Decoded (Option α × Option β × Option γ × Option δ) :=
    match i with
    | 0 => do return (← put s.1 decodeA item, s.2)
    | 1 => do return (s.1, ← put s.2.1 decodeB item, s.2.2)
    | 2 => do return (s.1, s.2.1, ← put s.2.2.1 decodeC item, s.2.2.2)
    | _ => do return (s.1, s.2.1, s.2.2.1, ← put s.2.2.2 decodeD item)
  let (x, y, z, w) ← foldRecord [a, b, c, d] step (none, none, none, none) item
  return (← orMalformed x, ← orMalformed y, ← orMalformed z, ← orMalformed w)

/-- How the alternatives of a type are told apart: bare ones stand for a value, the others read a
payload. -/
inductive Alternative (α : Type) where
  /-- An alternative without a payload. -/
  | bare (a : α)
  /-- An alternative that reads its payload. -/
  | payload (decode : Item → Decoded α)

namespace Alternative

/-- Read the payload of an alternative. -/
def read {α : Type} (alternative : Alternative α) (item : Item) : Decoded α :=
  match alternative with
  | bare a => do item.asUnit; return a
  | payload decode => decode item

end Alternative

/-- The alternative that an item names. -/
def alternative {α : Type} (alternatives : List (String × Alternative α)) (item : Item) :
    Decoded (Alternative α) := do
  let i ← orMalformed (← name? (alternatives.map Prod.fst) item)
  orMalformed ((alternatives[i]?).map Prod.snd)

/-- Read one of several alternatives. -/
def asVariant {α : Type} (alternatives : List (String × Alternative α)) (item : Item) :
    Decoded α :=
  match item with
  | entry key value => do (← alternative alternatives key).read value
  | array (key :: value :: rest) => do
    let a ← (← alternative alternatives key).read value
    if rest.isEmpty then return a else throw .malformed
  | array _ => .error .malformed
  | item => do
    match ← alternative alternatives item with
    | .bare a => return a
    | .payload _ => throw .malformed

end Item

/-- Read bytes as one item and the item as typed data. The length is checked first, and nothing may
follow the item. -/
def decodeBytes {α : Type} (decode : Item → Decoded α) (limit : Nat) (bytes : List UInt8) :
    Decoded α :=
  if limit < bytes.length then .error (.tooLong bytes.length limit)
  else do
    let (item, rest) := Item.read bytes
    let a ← decode item
    match rest with
    | some [] => return a
    | _ => throw .malformed

/-- Most bytes of a tree that are read unless another limit is given. -/
def maxTreeBytes : Nat := 1048576

end RowFilter
