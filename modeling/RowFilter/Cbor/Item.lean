import RowFilter.Floating.Rounding

/-!
# Data items of the concise binary format

A data item is what a stretch of CBOR bytes stands for, before any meaning of it as a tree. A map of
exactly one pair whose length stands in its head byte is kept apart as an `entry`: variants of a
type are written so.
-/

namespace RowFilter

/-- A data item. -/
inductive Item where
  /-- A natural number. -/
  | unsigned (n : Nat)
  /-- The negative integer one below the negated number. -/
  | negative (n : Nat)
  /-- A string of bytes. -/
  | bytes (b : List UInt8)
  /-- A text. -/
  | text (s : String)
  /-- A sequence of items. -/
  | array (items : List Item)
  /-- A map of one pair. -/
  | entry (key value : Item)
  /-- Any other map; keys and values take turns. -/
  | map (content : List Item)
  /-- A tagged item; the tag itself has no meaning here. -/
  | tagged (inner : Item)
  /-- A truth value. -/
  | bool (b : Bool)
  /-- The null item. -/
  | null
  /-- The undefined item. -/
  | undefined
  /-- A number of 16 bits. -/
  | half (x : Floating .half)
  /-- A number of 32 bits. -/
  | single (x : Single)
  /-- A number of 64 bits. -/
  | double (x : Double)
  /-- The place at which reading failed; nothing follows it. -/
  | broken
deriving Repr

namespace Item

instance : Inhabited Item := ⟨broken⟩

/-- An item without the tags around it. -/
def untag : Item → Item
  | tagged inner => inner.untag
  | item => item

mutual

/-- Reading did not fail within an item. -/
def intact : Item → Bool
  | array items => intactAll items
  | entry key value => key.intact && value.intact
  | map content => intactAll content
  | tagged inner => inner.intact
  | broken => false
  | _ => true

/-- Reading did not fail within any of the items. -/
def intactAll : List Item → Bool
  | [] => true
  | item :: items => item.intact && intactAll items

end

/-- The item of an integer. -/
def ofInt (n : Int) : Item := if 0 ≤ n then unsigned n.toNat else negative (-1 - n).toNat

/-- The item of a number of 32 bits: the shortest that keeps it. -/
def ofSingle (x : Single) : Item :=
  let h : Floating .half := x.convert
  if h.convert = x then half h else single x

/-- The item of a number of 64 bits: the shortest that keeps it. -/
def ofDouble (x : Double) : Item :=
  let s : Single := x.convert
  if s.convert = x then ofSingle s else double x

/-- The item of a variant with a payload. -/
def variant (name : String) (payload : Item) : Item := entry (text name) payload

/-- The item of named fields. -/
def fields (entries : List (String × Item)) : Item :=
  map (entries.flatMap fun e => [text e.1, e.2])

end Item

end RowFilter
