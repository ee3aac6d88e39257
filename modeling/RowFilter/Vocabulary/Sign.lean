/-!
# Signs of operations

The signs of computed operands: four join two operands by arithmetic, seven apply to a text.
-/

namespace RowFilter

/-- What an operation of an operand does. -/
inductive Sign where
  | absent
  | add
  | subtract
  | multiply
  | divide
  | length
  | toLower
  | toUpper
  | trimStart
  | trimEnd
  | trim
  | substring
deriving DecidableEq, Repr

namespace Sign

/-- All signs, in the order of their tags. -/
def all : List Sign :=
  [absent, add, subtract, multiply, divide, length, toLower, toUpper, trimStart, trimEnd, trim,
    substring]

theorem mem_all (s : Sign) : s ∈ all := by cases s <;> simp [all]

/-- The byte that stands for a sign in encodings. -/
def tag : Sign → UInt8
  | absent => 0
  | add => 1
  | subtract => 2
  | multiply => 3
  | divide => 4
  | length => 5
  | toLower => 6
  | toUpper => 7
  | trimStart => 8
  | trimEnd => 9
  | trim => 10
  | substring => 11

/-- Name of a sign. -/
def label : Sign → String
  | absent => "None"
  | add => "Add"
  | subtract => "Subtract"
  | multiply => "Multiply"
  | divide => "Divide"
  | length => "Length"
  | toLower => "ToLower"
  | toUpper => "ToUpper"
  | trimStart => "TrimStart"
  | trimEnd => "TrimEnd"
  | trim => "Trim"
  | substring => "Substring"

/-- What a query writer puts for a sign. -/
def token : Sign → String
  | absent => ""
  | add => "+"
  | subtract => "-"
  | multiply => "*"
  | divide => "/"
  | length => "length"
  | toLower => "lower"
  | toUpper => "upper"
  | trimStart => "ltrim"
  | trimEnd => "rtrim"
  | trim => "trim"
  | substring => "substring"

/-- Signs that join two operands. -/
def isArithmetic : Sign → Bool
  | add | subtract | multiply | divide => true
  | _ => false

/-- Signs that apply to a text. -/
def isString : Sign → Bool
  | length | toLower | toUpper | trimStart | trimEnd | trim | substring => true
  | _ => false

/-- Most arguments that a sign takes beside its operand. -/
def maxArguments (s : Sign) : Nat := if s = substring then 2 else 0

/-- The sign that a member name stands for. -/
def ofMember? (name : String) : Option Sign :=
  if name = "length" then some length else none

/-- The sign that a method name stands for. -/
def ofMethod? (name : String) : Option Sign :=
  match name with
  | "length" => some length
  | "to_lower" => some toLower
  | "to_upper" => some toUpper
  | "trim_start" => some trimStart
  | "trim_end" => some trimEnd
  | "trim" => some trim
  | "substring" => some substring
  | _ => none

end Sign

end RowFilter
