/-!
# Natural numbers as bytes

Fixed-width big-endian and little-endian forms, and the hexadecimal text of bytes.
-/

namespace RowFilter

/-- The `count` lowest bytes of a natural number, the highest first. -/
def bigEndian (count n : Nat) : List UInt8 :=
  match count with
  | 0 => []
  | k + 1 => .ofNat (n / Nat.pow 256 k) :: bigEndian k n

/-- The natural number of big-endian bytes. -/
def ofBigEndian (bytes : List UInt8) : Nat :=
  bytes.foldl (fun n b => 256 * n + b.toNat) 0

/-- The natural number of little-endian bytes. -/
def ofLittleEndian (bytes : List UInt8) : Nat :=
  bytes.foldr (fun b n => b.toNat + 256 * n) 0

/-- Hexadecimal text of bytes, two lowercase digits for each. -/
def hexText (bytes : List UInt8) : String :=
  String.ofList <| bytes.flatMap fun b =>
    [Nat.digitChar (b.toNat / 16), Nat.digitChar (b.toNat % 16)]

/-- Value of a hexadecimal digit in either case. -/
def hexDigit? (c : Char) : Option Nat :=
  if '0' ≤ c ∧ c ≤ '9' then some (c.toNat - '0'.toNat)
  else if 'a' ≤ c ∧ c ≤ 'f' then some (c.toNat - 'a'.toNat + 10)
  else if 'A' ≤ c ∧ c ≤ 'F' then some (c.toNat - 'A'.toNat + 10)
  else none

/-- The bytes of hexadecimal digits, two for each byte; a half byte at the end is left out. -/
def ofHexDigits? : List Char → Option (List UInt8)
  | [] => some []
  | [_] => some []
  | high :: low :: rest => do
    let h ← hexDigit? high
    let l ← hexDigit? low
    return .ofNat (16 * h + l) :: (← ofHexDigits? rest)

/-- The bytes that a hexadecimal text stands for. -/
def ofHexText? (s : String) : Option (List UInt8) := ofHexDigits? s.toList

@[simp]
theorem length_bigEndian (count n : Nat) : (bigEndian count n).length = count := by
  induction count with
  | zero => rfl
  | succ k ih => simp [bigEndian, ih]

end RowFilter
