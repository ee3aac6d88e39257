import RowFilter.Floating.Finite

/-!
# Shortest decimal text

The decimal text of a number is the one with the fewest digits among those that round back to the
number, and the nearest to it among these. Text is always positional, without an exponent, and a
whole number has no decimal point.
-/

namespace RowFilter

namespace FloatFormat

variable (f : FloatFormat)

/-- Number of significant decimal digits that determine any number of the format. -/
def decimalDigits : Nat := 2 + (f.fractionBits + 1) * 30103 / 100000

end FloatFormat

/-- A positive decimal fraction: `digits` times ten to the `exponent`. -/
structure Decimal where
  /-- The significant digits as one natural number. -/
  digits : Nat
  /-- The power of ten. -/
  exponent : Int
deriving DecidableEq, Repr

namespace Decimal

/-- Positional text: zeros fill up to the point on either side, and a whole number has no point. -/
def text (d : Decimal) : String :=
  let digits := Nat.toDigits 10 d.digits
  if 0 ≤ d.exponent then
    String.ofList (digits ++ List.replicate d.exponent.toNat '0')
  else
    let places := (-d.exponent).toNat
    let padded := List.replicate (places + 1 - digits.length) '0' ++ digits
    let whole := padded.length - places
    let fraction := ((padded.drop whole).reverse.dropWhile (· = '0')).reverse
    String.ofList
      (padded.take whole ++ if fraction.isEmpty then [] else '.' :: fraction)

end Decimal

/-- The reals that round to one number of a format, as fractions over a common denominator. -/
structure RoundingInterval where
  /-- Numerator of the lower end. -/
  low : Nat
  /-- Numerator of the number itself. -/
  value : Nat
  /-- Numerator of the upper end. -/
  high : Nat
  /-- The common denominator. -/
  den : Nat
  /-- Whether the two ends belong to the interval. -/
  closed : Bool
deriving DecidableEq, Repr

namespace RoundingInterval

/-- Rounding interval of a nonzero finite magnitude: it ends halfway to the two neighbours, and has
its ends exactly if the code is even, since ties go to even. -/
def ofCode (f : FloatFormat) (code : Nat) : RoundingInterval where
  low := f.magnitude (code - 1) + f.magnitude code
  value := 2 * f.magnitude code
  high := f.magnitude code + f.magnitude (code + 1)
  den := 2 * f.one
  closed := code % 2 = 0

variable (i : RoundingInterval)

/-- The fraction `num / den` lies in the interval. -/
def contains (num den : Nat) : Bool :=
  if i.closed then i.low * den ≤ num * i.den && num * i.den ≤ i.high * den
  else i.low * den < num * i.den && num * i.den < i.high * den

/-- Exponent of the power of ten just above the value: the value is below that power and not below a
tenth of it. -/
def leadingExponent : Int :=
  if i.den ≤ i.value then ((Nat.toDigits 10 (i.value / i.den)).length : Int)
  else 1 - ((Nat.toDigits 10 ((i.den + i.value - 1) / i.value - 1)).length : Int)

/-- The multiple of ten to the `exponent` nearest to the value among its two neighbours on that
grid, if one of them lies in the interval. Of two equally near ones the upper is taken. -/
def gridPoint? (exponent : Int) : Option Decimal :=
  let (num, den) :=
    if 0 ≤ exponent then (Nat.pow 10 exponent.toNat, 1) else (1, Nat.pow 10 (-exponent).toNat)
  -- the value in steps of the grid is `steps / unit`
  let steps := i.value * den
  let unit := i.den * num
  let below := steps / unit
  let lowerHit := i.contains (below * num) den
  let upperHit := i.contains ((below + 1) * num) den
  if lowerHit && (!upperHit || 2 * (steps % unit) < unit) then some ⟨below, exponent⟩
  else if upperHit then some ⟨below + 1, exponent⟩
  else none

/-- The shortest decimal in the interval, searched from one digit upwards. -/
def shortest (maxDigits : Nat) : Decimal :=
  let lead := i.leadingExponent
  ((List.range maxDigits).findSome? fun (n : Nat) => i.gridPoint? (lead - 1 - (n : Int))).getD
    ⟨i.value / i.den, 0⟩

end RoundingInterval

namespace Floating

variable {f : FloatFormat}

/-- Decimal text of a number; the three kinds without digits have names. -/
def text (x : Floating f) : String :=
  if x.isNaN then "NaN"
  else
    let magnitude :=
      if !x.isFinite then "inf"
      else if x.code = 0 then "0"
      else ((RoundingInterval.ofCode f x.code).shortest f.decimalDigits).text
    if x.negative then "-" ++ magnitude else magnitude

end Floating

end RowFilter
