/-!
# Kinds of values

The nine kinds of values, and the kind that arithmetic on two kinds yields.
-/

namespace RowFilter

/-- The kind of a value. -/
inductive Kind where
  | null
  | bool
  | int
  | uint
  | float32
  | float64
  | text
  | date
  | list
deriving DecidableEq, Repr

namespace Kind

/-- All kinds, in the order of their tags. -/
def all : List Kind := [null, bool, int, uint, float32, float64, text, date, list]

/-- The byte that stands for a kind in encodings. -/
def tag : Kind → UInt8
  | null => 1
  | bool => 2
  | int => 3
  | uint => 4
  | float32 => 5
  | float64 => 6
  | text => 7
  | date => 8
  | list => 9

theorem tag_injective {j k : Kind} (h : j.tag = k.tag) : j = k := by
  cases j <;> cases k <;> first | rfl | exact absurd h (by decide)

/-- Name of a kind. -/
def label : Kind → String
  | null => "Null"
  | bool => "Bool"
  | int => "Int"
  | uint => "Uint"
  | float32 => "Float32"
  | float64 => "Float64"
  | text => "Text"
  | date => "Date"
  | list => "List"

/-- The four kinds of numbers. -/
def isNumeric : Kind → Bool
  | int | uint | float32 | float64 => true
  | _ => false

/-- The kind of texts. -/
def isText : Kind → Bool
  | text => true
  | _ => false

/-- The kinds that can serve as a position. -/
def isInteger : Kind → Bool
  | int | uint => true
  | _ => false

/-- Kind of the result of arithmetic on two kinds. Text absorbs everything, null gives way to a
number, a float absorbs an integer and the wider float the narrower, and a signed integer absorbs
an unsigned one. -/
def arithmeticResult : Kind → Kind → Option Kind
  | text, _ | _, text => some text
  | null, k | k, null => if k.isNumeric then some k else none
  | j, k =>
    if !(j.isNumeric && k.isNumeric) then none
    else if j = float64 ∨ k = float64 then some float64
    else if j = float32 ∨ k = float32 then some float32
    else if j = int ∨ k = int then some int
    else some uint

end Kind

end RowFilter
