import RowFilter.Cbor.Decoding
import RowFilter.Proofs.Digest.Values
import RowFilter.Proofs.Floating.Conversion

/-!
# Reading what was written

An item that is written is read back, whatever bytes follow it (`Item.readOne_render`). Three things
have to hold: the item is one that has a written form of its own (`Item.Writable`), its arrays, maps
and tags nest no deeper than the reader follows them (`Item.nesting`), and its lengths fit the eight
bytes of a head. The last follows from the length of the written bytes, since every item has a byte.

The reader is driven by fuel. Two units for each byte are enough: one to read an item, and one to
go on to the next.
-/

namespace RowFilter

namespace Item

/-! ### Items with a written form -/

mutual

/-- How many arrays, maps and tags nest in an item. -/
def nesting : Item → Nat
  | array items => nestingAll items + 1
  | entry key value => max key.nesting value.nesting + 1
  | map content => nestingAll content + 1
  | tagged inner => inner.nesting + 1
  | _ => 0

/-- How many arrays, maps and tags nest in any of the items. -/
def nestingAll : List Item → Nat
  | [] => 0
  | item :: items => max item.nesting (nestingAll items)

end

mutual

/-- The item is read back as itself: its numbers fit the bytes of a head, its maps consist of pairs,
and a map of one pair is an entry. -/
def Writable : Item → Prop
  | unsigned n => n < 256 ^ 8
  | negative n => n < 256 ^ 8
  | array items => AllWritable items
  | entry key value => key.Writable ∧ value.Writable
  | map content => content.length % 2 = 0 ∧ content.length ≠ 2 ∧ AllWritable content
  | tagged inner => inner.Writable
  | broken => False
  | _ => True

/-- All items are read back as themselves. -/
def AllWritable : List Item → Prop
  | [] => True
  | item :: items => item.Writable ∧ AllWritable items

end

/-! ### Heads -/

/-- Additional information in the head byte of an argument. -/
def headInfo (argument : Nat) : Nat :=
  if argument < 24 then argument
  else if argument < 0x100 then 24
  else if argument < 0x10000 then 25
  else if argument < 0x100000000 then 26
  else 27

/-- Bytes of an argument after the head byte. -/
def headTail (argument : Nat) : List UInt8 :=
  if argument < 24 then []
  else if argument < 0x100 then bigEndian 1 argument
  else if argument < 0x10000 then bigEndian 2 argument
  else if argument < 0x100000000 then bigEndian 4 argument
  else bigEndian 8 argument

/-- A head is its first byte and what is left of the argument. -/
theorem head_eq (major n : Nat) : head major n = .ofNat (32 * major + headInfo n) :: headTail n := by
  unfold head headInfo headTail
  split_ifs <;> rfl

theorem headInfo_le (n : Nat) : headInfo n ≤ 27 := by
  unfold headInfo
  split_ifs <;> omega

/-- A head that is written has a definite length. -/
theorem headInfo_ne_indefinite (n : Nat) : headInfo n ≠ 31 := by
  have hinfo := headInfo_le n
  omega

/-- The head byte says that there is one exactly if there is. -/
theorem headInfo_eq_one {n : Nat} : headInfo n = 1 ↔ n = 1 := by
  unfold headInfo
  split_ifs <;> omega

/-- The first byte of a head holds the major type and the additional information. -/
theorem toNat_headByte {major : Nat} (hmajor : major < 8) (n : Nat) :
    (UInt8.ofNat (32 * major + headInfo n)).toNat / 32 = major ∧
      (UInt8.ofNat (32 * major + headInfo n)).toNat % 32 = headInfo n := by
  have hinfo := headInfo_le n
  rw [UInt8.toNat_ofNat', Nat.mod_eq_of_lt (by omega)]
  omega

/-- A front of a known length is taken off. -/
theorem take?_append {count : Nat} {front : List UInt8} (h : front.length = count)
    (rest : List UInt8) : take? count (front ++ rest) = some (front, rest) := by
  subst h
  simp [take?]

/-- A number of fixed width is read back. -/
theorem number?_bigEndian (count : Nat) {n : Nat} (h : n < 256 ^ count) (rest : List UInt8) :
    number? count (bigEndian count n ++ rest) = some (n, rest) := by
  rw [number?, take?_append (length_bigEndian count n), Option.map_some, ofBigEndian_bigEndian h]

/-- The argument of a head is read back. -/
theorem argument?_headTail {n : Nat} (h : n < 256 ^ 8) (rest : List UInt8) :
    argument? (headInfo n) (headTail n ++ rest) = some (n, rest) := by
  unfold headInfo headTail
  split_ifs with h0 h1 h2 h4
  · exact if_pos h0
  · exact number?_bigEndian 1 h1 rest
  · exact number?_bigEndian 2 h2 rest
  · exact number?_bigEndian 4 h4 rest
  · exact number?_bigEndian 8 h rest

/-! ### Reading after a head

What the reader does with a head of each major type that is written, and with the bytes of the
simple items, which have no head. -/

section

variable {fuel depth n : Nat} {bs : List UInt8}

theorem readOne_head_unsigned (h : n < 256 ^ 8) :
    readOne (fuel + 1) depth (head 0 n ++ bs) = (unsigned n, some bs) := by
  obtain ⟨hmajor, hinfo⟩ := toNat_headByte (by decide : 0 < 8) n
  -- the equations of `readOne` ask whether it may descend, which this major type does not
  rw [head_eq, List.cons_append, readOne.eq_def]
  simp only [hmajor, hinfo, argument?_headTail h, found]

theorem readOne_head_negative (h : n < 256 ^ 8) :
    readOne (fuel + 1) depth (head 1 n ++ bs) = (negative n, some bs) := by
  obtain ⟨hmajor, hinfo⟩ := toNat_headByte (by decide : 1 < 8) n
  rw [head_eq, List.cons_append, readOne.eq_def]
  simp only [hmajor, hinfo, argument?_headTail h, found]

/-- A string of definite length is read back. -/
theorem anyString?_headTail (major : Nat) {front : List UInt8} (h : front.length < 256 ^ 8)
    (rest : List UInt8) :
    anyString? major (headInfo front.length) (headTail front.length ++ (front ++ rest)) =
      some (front, rest) := by
  rw [anyString?, if_neg (headInfo_ne_indefinite _), string?, argument?_headTail h]
  exact take?_append rfl rest

theorem readOne_head_bytes {b : List UInt8} (h : b.length < 256 ^ 8) :
    readOne (fuel + 1) depth (head 2 b.length ++ (b ++ bs)) = (bytes b, some bs) := by
  obtain ⟨hmajor, hinfo⟩ := toNat_headByte (by decide : 2 < 8) b.length
  rw [head_eq, List.cons_append, readOne.eq_def]
  simp only [hmajor, hinfo, anyString?_headTail 2 h, found]

/-- The bytes of a text are its text again. -/
theorem utf8?_toUTF8_toList (s : String) : utf8? s.toUTF8.toList = some s := by
  rw [utf8?, toList_eq_data_toList, Array.toArray_toList, String.fromUTF8?]
  exact dif_pos s.isValidUTF8

theorem readOne_head_text {s : String} (h : s.utf8ByteSize < 256 ^ 8) :
    readOne (fuel + 1) depth (head 3 s.utf8ByteSize ++ (s.toUTF8.toList ++ bs)) =
      (text s, some bs) := by
  rw [← length_toUTF8_toList] at h ⊢
  obtain ⟨hmajor, hinfo⟩ := toNat_headByte (by decide : 3 < 8) s.toUTF8.toList.length
  rw [head_eq, List.cons_append, readOne.eq_def]
  simp only [hmajor, hinfo, anyString?_headTail 3 h, utf8?_toUTF8_toList]

theorem readOne_head_array (h : n < 256 ^ 8) :
    readOne (fuel + 1) (depth + 1) (head 4 n ++ bs) =
      (array (readMany fuel depth n [] bs).1, (readMany fuel depth n [] bs).2) := by
  obtain ⟨hmajor, hinfo⟩ := toNat_headByte (by decide : 4 < 8) n
  rw [head_eq, List.cons_append, readOne.eq_def]
  simp only [hmajor, hinfo, if_neg (headInfo_ne_indefinite n), argument?_headTail h]

theorem readOne_head_map (h : n < 256 ^ 8) :
    readOne (fuel + 1) (depth + 1) (head 5 n ++ bs) =
      (ofPairs (headInfo n) (readMany fuel depth (2 * n) [] bs).1,
        (readMany fuel depth (2 * n) [] bs).2) := by
  obtain ⟨hmajor, hinfo⟩ := toNat_headByte (by decide : 5 < 8) n
  rw [head_eq, List.cons_append, readOne.eq_def]
  simp only [hmajor, hinfo, if_neg (headInfo_ne_indefinite n), argument?_headTail h]

theorem readOne_head_tagged (h : n < 256 ^ 8) :
    readOne (fuel + 1) (depth + 1) (head 6 n ++ bs) =
      (tagged (readOne fuel depth bs).1, (readOne fuel depth bs).2) := by
  obtain ⟨hmajor, hinfo⟩ := toNat_headByte (by decide : 6 < 8) n
  rw [head_eq, List.cons_append, readOne.eq_def]
  simp only [hmajor, hinfo, argument?_headTail h]

/-- What stands in a head byte of major type seven is read as its additional information says. -/
theorem readOne_simple {info : Nat} {b : UInt8} (hb : b.toNat = 224 + info) (hinfo : info < 32) :
    readOne (fuel + 1) depth (b :: bs) = simple info bs := by
  have hmajor : b.toNat / 32 = 7 := by omega
  have hrest : b.toNat % 32 = info := by omega
  rw [readOne.eq_def]
  simp only [hmajor, hrest]

/-- A float is read back from its bit pattern. -/
theorem found_number?_toBits {f : FloatFormat} (count : Nat)
    (hwidth : 2 * f.codeCount = 256 ^ count) (x : Floating f) (toItem : Floating f → Item) :
    found (fun n => toItem (.ofBits n)) (number? count (bigEndian count x.toBits ++ bs)) =
      (toItem x, some bs) := by
  have hbits : x.toBits < 256 ^ count := hwidth ▸ x.toBits_lt
  rw [number?_bigEndian count hbits, found, Floating.ofBits_toBits]

theorem readOne_half (x : Floating .half) :
    readOne (fuel + 1) depth ((half x).render ++ bs) = (half x, some bs) := by
  change readOne _ _ (0xf9 :: (bigEndian 2 x.toBits ++ bs)) = _
  rw [readOne_simple rfl (by decide : 25 < 32)]
  exact found_number?_toBits 2 rfl x half

theorem readOne_single (x : Single) :
    readOne (fuel + 1) depth ((single x).render ++ bs) = (single x, some bs) := by
  change readOne _ _ (0xfa :: (bigEndian 4 x.toBits ++ bs)) = _
  rw [readOne_simple rfl (by decide : 26 < 32)]
  exact found_number?_toBits 4 rfl x single

theorem readOne_double (x : Double) :
    readOne (fuel + 1) depth ((double x).render ++ bs) = (double x, some bs) := by
  change readOne _ _ (0xfb :: (bigEndian 8 x.toBits ++ bs)) = _
  rw [readOne_simple rfl (by decide : 27 < 32)]
  exact found_number?_toBits 8 rfl x double

theorem readMany_zero (soFar : List Item) :
    readMany (fuel + 1) depth 0 soFar bs = (soFar.reverse, some bs) := by
  rw [readMany]
  exact Nat.succ_ne_zero fuel

theorem readMany_succ {item : Item} {count : Nat} {rest : List UInt8} (soFar : List Item)
    (h : readOne fuel depth bs = (item, some rest)) :
    readMany (fuel + 1) depth (count + 1) soFar bs =
      readMany fuel depth count (item :: soFar) rest := by
  rw [readMany, h]

end

/-! ### Lengths -/

/-- Every head has a byte. -/
theorem length_head_pos (major n : Nat) : 0 < (head major n).length := by
  rw [head_eq]
  exact Nat.succ_pos _

/-- Every item has a byte. -/
theorem length_render_pos (item : Item) : 0 < item.render.length := by
  cases item <;> simp only [render, List.length_append, List.length_cons] <;>
    first
    | exact Nat.succ_pos _
    | exact length_head_pos _ _
    | exact Nat.add_pos_left (length_head_pos _ _) _
    | exact Nat.add_pos_left (Nat.add_pos_left (length_head_pos _ _) _) _

/-- There are no more items than bytes of them. -/
theorem length_le_length_renderAll (items : List Item) :
    items.length ≤ (renderAll items).length := by
  induction items with
  | nil => exact Nat.zero_le _
  | cons item items ih =>
    have hpos := length_render_pos item
    rw [renderAll, List.length_append, List.length_cons]
    omega

/-! ### Reading back -/

/-- Only one pair is read as an entry. -/
theorem ofPairs_of_ne_one {info : Nat} (h : info ≠ 1) (content : List Item) :
    ofPairs info content = map content := by
  unfold ofPairs
  split
  · exact absurd rfl h
  · exact absurd rfl h
  · rfl

section

variable {fuel depth : Nat} {rest : List UInt8}

/-- An array is read back if its items are. -/
theorem readOne_array {items : List Item} (hcount : items.length < 256 ^ 8)
    (h : readMany fuel depth items.length [] (renderAll items ++ rest) = (items, some rest)) :
    readOne (fuel + 1) (depth + 1) ((array items).render ++ rest) = (array items, some rest) := by
  change readOne _ _ (head 4 items.length ++ renderAll items ++ rest) = _
  rw [List.append_assoc, readOne_head_array hcount, h]

/-- A map of one pair is read back if its key and its value are. The reader goes over the two as over
a list: two items and the end. -/
theorem readOne_entry {key value : Item}
    (hkey : readOne (fuel + 2) depth (key.render ++ (value.render ++ rest)) =
      (key, some (value.render ++ rest)))
    (hvalue : readOne (fuel + 1) depth (value.render ++ rest) = (value, some rest)) :
    readOne (fuel + 4) (depth + 1) ((entry key value).render ++ rest) =
      (entry key value, some rest) := by
  change readOne _ _ (head 5 1 ++ key.render ++ value.render ++ rest) = _
  rw [List.append_assoc, List.append_assoc, readOne_head_map (by decide), readMany_succ [] hkey,
    readMany_succ [key] hvalue, readMany_zero]
  rfl

/-- A map of several pairs, or of none, is read back if its content is. -/
theorem readOne_map {content : List Item} (heven : content.length % 2 = 0)
    (htwo : content.length ≠ 2) (hcount : content.length < 256 ^ 8)
    (h : readMany fuel depth content.length [] (renderAll content ++ rest) =
      (content, some rest)) :
    readOne (fuel + 1) (depth + 1) ((map content).render ++ rest) = (map content, some rest) := by
  have hpairs : 2 * (content.length / 2) = content.length := by omega
  -- one pair would be read as an entry
  have hone : headInfo (content.length / 2) ≠ 1 := by
    rw [Ne, headInfo_eq_one]
    omega
  change readOne _ _ (head 5 (content.length / 2) ++ renderAll content ++ rest) = _
  rw [List.append_assoc, readOne_head_map (by omega), hpairs, h, ofPairs_of_ne_one hone]

/-- A tagged item is read back if the item is. -/
theorem readOne_tagged {inner : Item}
    (h : readOne fuel depth (inner.render ++ rest) = (inner, some rest)) :
    readOne (fuel + 1) (depth + 1) ((tagged inner).render ++ rest) =
      (tagged inner, some rest) := by
  change readOne _ _ (head 6 0 ++ inner.render ++ rest) = _
  rw [List.append_assoc, readOne_head_tagged (by decide), h]

end

mutual

/-- An item that is written is read back, whatever follows it. -/
theorem readOne_render : ∀ (item : Item) {fuel depth : Nat} (rest : List UInt8),
    item.Writable → item.render.length < 256 ^ 8 → item.nesting ≤ depth →
    2 * item.render.length ≤ fuel →
    readOne fuel depth (item.render ++ rest) = (item, some rest) := by
  -- by the structure of the item; the lengths of its parts and the fuel that is left for them
  -- follow from its own by arithmetic, as every head and every part has a byte
  intro item fuel depth rest hwritable hlength hnesting hfuel
  have hpos := length_render_pos item
  obtain ⟨fuel, rfl⟩ : ∃ k, fuel = k + 1 := ⟨fuel - 1, by omega⟩
  match item with
  | unsigned n => exact readOne_head_unsigned hwritable
  | negative n => exact readOne_head_negative hwritable
  | bytes b =>
    rw [render, List.length_append] at hlength
    rw [render, List.append_assoc]
    exact readOne_head_bytes (by omega)
  | text s =>
    rw [render, List.length_append, length_toUTF8_toList] at hlength
    rw [render, List.append_assoc]
    exact readOne_head_text (by omega)
  | array items =>
    have hhead := length_head_pos 4 items.length
    have hcount := length_le_length_renderAll items
    rw [render, List.length_append] at hlength hfuel
    rw [nesting] at hnesting
    obtain ⟨depth, rfl⟩ : ∃ k, depth = k + 1 := ⟨depth - 1, by omega⟩
    have hread := readMany_renderAll items [] rest hwritable
      (by omega) (by omega : nestingAll items ≤ depth) (by omega : _ ≤ fuel)
    exact readOne_array (by omega) hread
  | entry key value =>
    have hhead := length_head_pos 5 1
    have hkeypos := length_render_pos key
    have hvaluepos := length_render_pos value
    rw [render, List.length_append, List.length_append] at hlength hfuel
    rw [nesting] at hnesting
    obtain ⟨hkey, hvalue⟩ := hwritable
    obtain ⟨fuel, rfl⟩ : ∃ k, fuel = k + 3 := ⟨fuel - 3, by omega⟩
    obtain ⟨depth, rfl⟩ : ∃ k, depth = k + 1 := ⟨depth - 1, by omega⟩
    exact readOne_entry (readOne_render key _ hkey (by omega) (by omega) (by omega))
      (readOne_render value rest hvalue (by omega) (by omega) (by omega))
  | map content =>
    have hhead := length_head_pos 5 (content.length / 2)
    have hcount := length_le_length_renderAll content
    rw [render, List.length_append] at hlength hfuel
    rw [nesting] at hnesting
    obtain ⟨heven, htwo, hcontent⟩ := hwritable
    obtain ⟨depth, rfl⟩ : ∃ k, depth = k + 1 := ⟨depth - 1, by omega⟩
    have hread := readMany_renderAll content [] rest hcontent
      (by omega) (by omega : nestingAll content ≤ depth) (by omega : _ ≤ fuel)
    exact readOne_map heven htwo (by omega) hread
  | tagged inner =>
    have hhead := length_head_pos 6 0
    rw [render, List.length_append] at hlength hfuel
    rw [nesting] at hnesting
    obtain ⟨depth, rfl⟩ : ∃ k, depth = k + 1 := ⟨depth - 1, by omega⟩
    exact readOne_tagged (readOne_render inner rest hwritable (by omega) (by omega) (by omega))
  | bool b =>
    cases b
    · exact readOne_simple rfl (by decide : 20 < 32)
    · exact readOne_simple rfl (by decide : 21 < 32)
  | null => exact readOne_simple rfl (by decide : 22 < 32)
  | undefined => exact readOne_simple rfl (by decide : 23 < 32)
  | half x => exact readOne_half x
  | single x => exact readOne_single x
  | double x => exact readOne_double x
  | broken => exact hwritable.elim

/-- Items that are written are read back after those read so far. -/
theorem readMany_renderAll : ∀ (items : List Item) {fuel depth : Nat} (soFar : List Item)
    (rest : List UInt8), AllWritable items → (renderAll items).length < 256 ^ 8 →
    nestingAll items ≤ depth → 2 * (renderAll items).length + 1 ≤ fuel →
    readMany fuel depth items.length soFar (renderAll items ++ rest) =
      (soFar.reverse ++ items, some rest) := by
  intro items fuel depth soFar rest hwritable hlength hnesting hfuel
  obtain ⟨fuel, rfl⟩ : ∃ k, fuel = k + 1 := ⟨fuel - 1, by omega⟩
  match items with
  | [] =>
    rw [List.append_nil]
    exact readMany_zero soFar
  | item :: items =>
    have hpos := length_render_pos item
    rw [renderAll, List.length_append] at hlength hfuel
    rw [nestingAll] at hnesting
    obtain ⟨hitem, hitems⟩ := hwritable
    -- one unit of fuel goes to this item, and what is left is enough for either part
    have hone : readOne fuel depth (item.render ++ (renderAll items ++ rest)) =
        (item, some (renderAll items ++ rest)) :=
      readOne_render item _ hitem (by omega) (by omega) (by omega)
    rw [renderAll, List.append_assoc, List.length_cons, readMany_succ soFar hone,
      readMany_renderAll items (item :: soFar) rest hitems (by omega) (by omega) (by omega),
      List.reverse_cons, List.append_assoc, List.singleton_append]

end

/-- Written bytes that nothing follows are read back in full. -/
theorem read_render {item : Item} (hwritable : item.Writable)
    (hlength : item.render.length < 256 ^ 8) (hnesting : item.nesting ≤ maxDepth) :
    read item.render = (item, some []) := by
  have hread := readOne_render item [] hwritable hlength hnesting
    (by omega : 2 * item.render.length ≤ 2 * item.render.length + 2)
  rwa [List.append_nil] at hread

end Item

/-- The decoder admits the bytes of an item under a limit of its length: they are not too many, and
the item nests no deeper than the reader follows it. The limit is a number of 64 bits. -/
structure Item.Admitted (limit : Nat) (item : Item) : Prop where
  limit_lt : limit < 2 ^ 64
  length_le : item.render.length ≤ limit
  nesting_le : item.nesting ≤ Item.maxDepth

/-- Data that an item is read as is decoded from the written bytes of the item. -/
theorem decodeBytes_render {α : Type} {decode : Item → Decoded α} {limit : Nat} {item : Item}
    {a : α} (hwritable : item.Writable) (hadmitted : item.Admitted limit)
    (h : decode item = .ok a) : decodeBytes decode limit item.render = .ok a := by
  obtain ⟨hlimit, hlength, hnesting⟩ := hadmitted
  have hread := Item.read_render hwritable (by omega) hnesting
  rw [decodeBytes, if_neg (by omega), hread]
  change (decode item >>= fun b => Except.ok b) = _
  rw [h]
  rfl

end RowFilter
