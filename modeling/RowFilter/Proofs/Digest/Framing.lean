import Mathlib.Tactic.Ring
import RowFilter.Digest.Stream

/-!
# Framing of numbers and texts

A number of fixed width and a text after its length can be split off the front of any bytes: two
such codes with arbitrary bytes behind them are equal only if both the coded items and the bytes
behind them are. The lemmas of this module say so for each primitive of the streams, and every
longer stream is split by them piece by piece.

Lengths are written in eight bytes, so the statements about texts ask for lengths below
`lengthLimit`.
-/

namespace RowFilter

/-! ### Bytes of a text -/

/-- The bytes of a byte array are those of its data. -/
theorem toList_eq_data_toList (bs : ByteArray) : bs.toList = bs.data.toList := by
  -- the bytes before `i` are in the accumulator, last first
  have hloop : ∀ i acc,
      ByteArray.toList.loop bs i acc = acc.reverse ++ bs.data.toList.drop i := by
    intro i acc
    fun_induction ByteArray.toList.loop bs i acc with
    | case1 i acc hi ih =>
      have hi' : i < bs.data.toList.length := by simpa using hi
      have hget : bs.get! i = bs.data.toList[i] := by
        simp [ByteArray.get!, getElem!_pos bs.data i hi]
      rw [ih, List.drop_eq_getElem_cons hi', hget]
      simp
    | case2 i acc hi =>
      have hi' : bs.data.toList.length ≤ i := by simpa using hi
      rw [List.drop_eq_nil_of_le hi', List.append_nil]
  rw [ByteArray.toList, hloop]
  rfl

/-- The number of bytes of a text. -/
theorem length_toUTF8_toList (s : String) : s.toUTF8.toList.length = s.utf8ByteSize := by
  rw [toList_eq_data_toList]
  rfl

/-- The bytes of a text determine it. -/
theorem toUTF8_toList_injective {s t : String} (h : s.toUTF8.toList = t.toUTF8.toList) :
    s = t := by
  rw [toList_eq_data_toList, toList_eq_data_toList] at h
  exact String.toByteArray_inj.mp (ByteArray.ext (Array.toList_inj.mp h))

/-! ### Numbers of fixed width -/

/-- Reading big-endian bytes goes on from the number read so far. -/
theorem foldl_bigEndian (count n start : Nat) :
    (bigEndian count n).foldl (fun m b => 256 * m + b.toNat) start =
      start * 256 ^ count + n % 256 ^ count := by
  induction count generalizing start with
  | zero => simp [bigEndian, Nat.mod_one]
  | succ k ih =>
    -- the first byte is the digit of weight `256 ^ k`, and the rest is read as the remainder
    have hbyte : (UInt8.ofNat (n / Nat.pow 256 k)).toNat = n / 256 ^ k % 256 := by
      simp [UInt8.toNat_ofNat']
    have hsplit : n % 256 ^ (k + 1) = n % 256 ^ k + 256 ^ k * (n / 256 ^ k % 256) := by
      rw [pow_succ, Nat.mod_mul]
    rw [bigEndian, List.foldl_cons, ih, hbyte, hsplit, pow_succ]
    ring

/-- The number of the big-endian bytes of a number that fits them. -/
theorem ofBigEndian_bigEndian {count n : Nat} (h : n < 256 ^ count) :
    ofBigEndian (bigEndian count n) = n := by
  rw [ofBigEndian, foldl_bigEndian, Nat.zero_mul, Nat.zero_add, Nat.mod_eq_of_lt h]

/-- A number of fixed width can be split off the front. -/
theorem bigEndian_append_inj {count m n : Nat} {xs ys : List UInt8} (hm : m < 256 ^ count)
    (hn : n < 256 ^ count) (h : bigEndian count m ++ xs = bigEndian count n ++ ys) :
    m = n ∧ xs = ys := by
  obtain ⟨hcode, hrest⟩ := List.append_inj h (by simp)
  refine ⟨?_, hrest⟩
  rw [← ofBigEndian_bigEndian hm, hcode, ofBigEndian_bigEndian hn]

namespace ByteStream

variable {xs ys : List UInt8}

/-- Lengths from here on do not fit the eight bytes that they are written in. -/
def lengthLimit : Nat := 256 ^ 8

/-- A truth value can be split off the front. -/
theorem ofBool_append_inj {a b : Bool} (h : ofBool a ++ xs = ofBool b ++ ys) :
    a = b ∧ xs = ys := by
  cases a <;> cases b <;> simp_all [ofBool]

/-- A length can be split off the front. -/
theorem ofLength_append_inj {m n : Nat} (hm : m < lengthLimit) (hn : n < lengthLimit)
    (h : ofLength m ++ xs = ofLength n ++ ys) : m = n ∧ xs = ys :=
  bigEndian_append_inj hm hn h

/-- A text can be split off the front. -/
theorem ofText_append_inj {s t : String} (hs : s.utf8ByteSize < lengthLimit)
    (ht : t.utf8ByteSize < lengthLimit) (h : ofText s ++ xs = ofText t ++ ys) :
    s = t ∧ xs = ys := by
  rw [ofText, ofText, List.append_assoc, List.append_assoc] at h
  obtain ⟨hsize, hbytes⟩ := ofLength_append_inj hs ht h
  -- the written sizes are equal, so both texts end at the same byte
  have hlength : s.toUTF8.toList.length = t.toUTF8.toList.length := by
    rw [length_toUTF8_toList, length_toUTF8_toList, hsize]
  obtain ⟨htext, hrest⟩ := List.append_inj hbytes hlength
  exact ⟨toUTF8_toList_injective htext, hrest⟩

end ByteStream

end RowFilter
