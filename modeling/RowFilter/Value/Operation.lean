import RowFilter.Text.Blank
import RowFilter.Text.Case
import RowFilter.Value.Coercion
import RowFilter.Vocabulary.Sign

/-!
# Operations on values

What the signs do to values. Both the folding of constants and the evaluation over a row go through
`arithmetic` and `textFunction`, and each reports a fault in its own words.
-/

namespace RowFilter

/-- Why an operation has no result. -/
inductive Fault where
  /-- The operation is not defined on such values. -/
  | unsupported
  /-- The result or an argument is out of range. -/
  | outOfRange
deriving DecidableEq, Repr

namespace Value

/-- Arithmetic of a sign on finite numbers. -/
def combine? : Sign → Finite .double → Finite .double → Option Double
  | .add, x, y => some (x.add y)
  | .subtract, x, y => some (x.sub y)
  | .multiply, x, y => some (x.mul y)
  | .divide, x, y => some (x.div y)
  | _, _, _ => none

/-- Result of an arithmetic sign on two values, as a value of the given kind. Texts are joined by
addition; numbers are combined as numbers of 64 bits and taken back to the kind. -/
def arithmetic (kind : Kind) (sign : Sign) (a b : Value) : Except Fault Value :=
  if kind.isText then
    if sign = .add then .ok (text (a.plainText ++ b.plainText)) else .error .unsupported
  else if !kind.isNumeric then .error .unsupported
  else
    match a.toDouble?, b.toDouble? with
    | some x, some y =>
      match combine? sign x y with
      | some z =>
        match ofDouble? kind z with
        | some v => .ok v
        | none => .error .outOfRange
      | none => .error .unsupported
    | _, _ => .error .unsupported

/-- The part of a text from a start, of a length if one is given; no argument keeps the text. -/
def substring (s : String) : List Int64 → Except Fault String
  | [] => .ok s
  | [start] => sliced start.toInt (s.length - start.toInt)
  | [start, count] => sliced start.toInt count.toInt
  | _ => .error .outOfRange
where
  /-- A slice of the text, or the fault that it leaves the text. -/
  sliced (start count : Int) : Except Fault String :=
    match Text.slice? s start count with
    | some t => .ok t
    | none => .error .outOfRange

/-- Result of a sign for texts on a text and integer arguments. Only a substring takes any. -/
def textFunction (sign : Sign) (s : String) (args : List Int64) : Except Fault Value :=
  if sign ≠ .substring ∧ args ≠ [] then .error .outOfRange
  else
    match sign with
    | .length =>
      match int64? s.length with
      | some n => .ok (int n)
      | none => .error .outOfRange
    | .toLower => .ok (text (Text.lower s))
    | .toUpper => .ok (text (Text.upper s))
    | .trimStart => .ok (text (Text.trimStart s))
    | .trimEnd => .ok (text (Text.trimEnd s))
    | .trim => .ok (text (Text.trim s))
    | .substring => (substring s args).map text
    | _ => .error .unsupported

end Value

end RowFilter
