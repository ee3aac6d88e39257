import RowFilter.Calendar.Date
import RowFilter.Floating.Decimal
import RowFilter.Text.Slice
import RowFilter.Value.Kind

/-!
# Values

The values that filters compare and compute with. A value has two texts: `text` tells values apart
and is part of every canonical text, `plainText` is what text concatenation appends.
-/

namespace RowFilter

/-- A value of a row, a constant or a result. -/
inductive Value where
  | null
  | bool (b : Bool)
  | int (n : Int64)
  | uint (n : UInt64)
  | float32 (x : Finite .single)
  | float64 (x : Finite .double)
  | text (s : String)
  | date (d : Date)
  | list (items : List Value)
deriving Repr

namespace Value

instance : Inhabited Value := ⟨null⟩

mutual

/-- Equality of values, as a test. -/
def beq : Value → Value → Bool
  | null, null => true
  | bool a, bool b => a == b
  | int a, int b => a == b
  | uint a, uint b => a == b
  | float32 a, float32 b => decide (a = b)
  | float64 a, float64 b => decide (a = b)
  | text a, text b => a == b
  | date a, date b => decide (a = b)
  | list a, list b => beqItems a b
  | _, _ => false

/-- Equality of lists of values, as a test. -/
def beqItems : List Value → List Value → Bool
  | [], [] => true
  | a :: as, b :: bs => beq a b && beqItems as bs
  | _, _ => false

end

mutual

theorem beq_iff : ∀ a b : Value, beq a b = true ↔ a = b
  | null, b => by cases b <;> simp [beq]
  | bool _, b => by cases b <;> simp [beq]
  | int _, b => by cases b <;> simp [beq]
  | uint _, b => by cases b <;> simp [beq]
  | float32 _, b => by cases b <;> simp [beq]
  | float64 _, b => by cases b <;> simp [beq]
  | text _, b => by cases b <;> simp [beq]
  | date _, b => by cases b <;> simp [beq]
  | list as, b => by
    cases b with
    | list bs => simp [beq, beqItems_iff as bs]
    | _ => simp [beq]

theorem beqItems_iff : ∀ as bs : List Value, beqItems as bs = true ↔ as = bs
  | [], bs => by cases bs <;> simp [beqItems]
  | a :: as, bs => by
    cases bs with
    | nil => simp [beqItems]
    | cons b bs => simp [beqItems, beq_iff a b, beqItems_iff as bs]

end

instance : DecidableEq Value := fun a b => decidable_of_iff _ (beq_iff a b)

/-- Kind of a value. -/
def kind : Value → Kind
  | null => .null
  | bool _ => .bool
  | int _ => .int
  | uint _ => .uint
  | float32 _ => .float32
  | float64 _ => .float64
  | text _ => .text
  | date _ => .date
  | list _ => .list

/-- The value is null. -/
def isNull : Value → Bool
  | null => true
  | _ => false

/-- The value is a number. -/
def isNumeric (v : Value) : Bool := v.kind.isNumeric

/-- The value is a list. -/
def isList : Value → Bool
  | list _ => true
  | _ => false

/-- The text of a text value. -/
def text? : Value → Option String
  | text s => some s
  | _ => none

/-- The items of a list value. -/
def items? : Value → Option (List Value)
  | list items => some items
  | _ => none

/-- The truth value of a boolean. -/
def bool? : Value → Option Bool
  | bool b => some b
  | _ => none

/-- An integer of 64 bits with sign, if the integer fits. -/
def int64? (n : Int) : Option Int64 :=
  if Int64.minValue.toInt ≤ n ∧ n ≤ Int64.maxValue.toInt then some (.ofInt n) else none

/-- An integer of 64 bits without sign, if the integer fits. -/
def uint64? (n : Int) : Option UInt64 :=
  if 0 ≤ n ∧ n < UInt64.size then some (.ofNat n.toNat) else none

/-- The integer of a value that can serve as a position. -/
def index? : Value → Option Int64
  | int n => some n
  | uint n => int64? n.toNat
  | _ => none

/-- The value is a text in which the wildcard occurs. -/
def isWildcarded (wildcard : Char) : Value → Bool
  | text s => s.toList.contains wildcard
  | _ => false

mutual

/-- Canonical text of a value: its kind and its content. -/
def display : Value → String
  | null => "Null"
  | bool b => "Bool(" ++ toString b ++ ")"
  | int n => "Int(" ++ toString n.toInt ++ ")"
  | uint n => "Uint(" ++ toString n.toNat ++ ")"
  | float32 x => "Float32(" ++ x.toFloating.text ++ ")"
  | float64 x => "Float64(" ++ x.toFloating.text ++ ")"
  | text s => "Text(" ++ Text.quoted s ++ ")"
  | date d => "Date(" ++ d.text ++ ")"
  | list items => "List[" ++ ", ".intercalate (displayItems items) ++ "]"

/-- Canonical texts of the items of a list. -/
def displayItems : List Value → List String
  | [] => []
  | v :: vs => display v :: displayItems vs

end

mutual

/-- Content of a value without its kind; null is empty. -/
def plainText : Value → String
  | null => ""
  | bool b => toString b
  | int n => toString n.toInt
  | uint n => toString n.toNat
  | float32 x => x.toFloating.text
  | float64 x => x.toFloating.text
  | text s => s
  | date d => d.text
  | list items => ",".intercalate (plainTextItems items)

/-- Contents of the items of a list. -/
def plainTextItems : List Value → List String
  | [] => []
  | v :: vs => plainText v :: plainTextItems vs

end

@[simp]
theorem displayItems_eq_map (vs : List Value) : displayItems vs = vs.map display := by
  induction vs with
  | nil => rfl
  | cons v vs ih => simp [displayItems, ih]

end Value

end RowFilter
