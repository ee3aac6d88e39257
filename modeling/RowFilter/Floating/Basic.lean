/-!
# Binary floating-point numbers

A number of a binary interchange format is a sign and a *code*: the bits below the sign bit read
as a natural number. Codes below the code of infinity name the finite magnitudes in increasing
order, so order, neighbours and parity of a number are those of its code.

Every finite magnitude is a whole multiple of the format's least positive number, its *unit*, and
`Floating.units` is that multiple with the sign. All arithmetic of the library is exact integer
arithmetic on units followed by one rounding.
-/

namespace RowFilter

/-- Shape of a binary interchange format: one sign bit, an exponent field, a fraction field. -/
structure FloatFormat where
  /-- Width of the exponent field. -/
  exponentBits : Nat
  /-- Width of the fraction field. -/
  fractionBits : Nat
deriving DecidableEq, Repr

namespace FloatFormat

/-- The format of 16 bits. -/
def half : FloatFormat := ⟨5, 10⟩

/-- The format of 32 bits. -/
def single : FloatFormat := ⟨8, 23⟩

/-- The format of 64 bits. -/
def double : FloatFormat := ⟨11, 52⟩

variable (f : FloatFormat)

/-- Number of bits below the sign bit. -/
def codeBits : Nat := f.exponentBits + f.fractionBits

/-- Number of bytes of a number. -/
def byteWidth : Nat := (f.codeBits + 1) / 8

/-- Number of codes. -/
def codeCount : Nat := Nat.pow 2 f.codeBits

/-- Number of codes that share an exponent field. -/
def binadeSize : Nat := Nat.pow 2 f.fractionBits

/-- Code of infinity: the first code that names no finite magnitude. -/
def infinityCode : Nat := (Nat.pow 2 f.exponentBits - 1) * f.binadeSize

/-- The unit of the format is two to the negated `unitExponent`. -/
def unitExponent : Nat := Nat.pow 2 (f.exponentBits - 1) - 2 + f.fractionBits

/-- Units per one. -/
def one : Nat := Nat.pow 2 f.unitExponent

/-- Magnitude named by a code, in units. Codes with exponent field zero or one share a spacing of
one unit; each further exponent doubles the spacing. -/
def magnitude (code : Nat) : Nat :=
  let exponent := code / f.binadeSize
  if exponent = 0 then code
  else (f.binadeSize + code % f.binadeSize) * Nat.pow 2 (exponent - 1)

theorem codeCount_pos : 0 < f.codeCount := Nat.two_pow_pos _

theorem binadeSize_pos : 0 < f.binadeSize := Nat.two_pow_pos _

/-- Every exponent field has its binade of codes. -/
theorem codeCount_eq : f.codeCount = Nat.pow 2 f.exponentBits * f.binadeSize :=
  Nat.pow_add ..

theorem infinityCode_lt : f.infinityCode < f.codeCount := by
  have he : 0 < Nat.pow 2 f.exponentBits := Nat.two_pow_pos _
  rw [infinityCode, codeCount_eq]
  exact Nat.mul_lt_mul_of_pos_right (Nat.sub_lt he Nat.one_pos) f.binadeSize_pos

@[simp]
theorem magnitude_zero : f.magnitude 0 = 0 := by
  simp [magnitude]

end FloatFormat

/-- A number of a binary interchange format, infinities and not-a-numbers included. -/
structure Floating (f : FloatFormat) where
  /-- The sign bit. -/
  negative : Bool
  /-- The bits below the sign bit. -/
  code : Nat
  /-- A code fits the bits below the sign bit. -/
  code_lt : code < f.codeCount
deriving DecidableEq, Repr

/-- A number of 32 bits. -/
abbrev Single := Floating .single

/-- A number of 64 bits. -/
abbrev Double := Floating .double

namespace Floating

variable {f : FloatFormat}

/-- The number with the given bit pattern; bits above the format's width are dropped. -/
def ofBits (bits : Nat) : Floating f where
  negative := bits.testBit f.codeBits
  code := bits % f.codeCount
  code_lt := Nat.mod_lt _ f.codeCount_pos

/-- Bit pattern of a number. -/
def toBits (x : Floating f) : Nat :=
  (if x.negative then f.codeCount else 0) + x.code

/-- Positive zero. -/
def zero : Floating f := ⟨false, 0, f.codeCount_pos⟩

/-- The infinity of a sign. -/
def infinity (negative : Bool) : Floating f := ⟨negative, f.infinityCode, f.infinityCode_lt⟩

/-- The quiet not-a-number with an empty payload. -/
def nan : Floating f := ofBits (f.infinityCode + Nat.pow 2 (f.fractionBits - 1))

/-- The number is neither an infinity nor a not-a-number. -/
def isFinite (x : Floating f) : Bool := x.code < f.infinityCode

/-- The number is a not-a-number. -/
def isNaN (x : Floating f) : Bool := f.infinityCode < x.code

/-- Signed number of units of a finite number. -/
def units (x : Floating f) : Int :=
  if x.negative then - (f.magnitude x.code : Int) else f.magnitude x.code

@[simp]
theorem units_zero : (zero : Floating f).units = 0 := by
  simp [units, zero]

end Floating

end RowFilter
