import RowFilter.Proofs.Cbor.Rendering
import RowFilter.Proofs.Result

/-!
# Items that nest too deep

The reader follows arrays, maps and tags to a bound, and fails at the first that lies deeper. So an
item that is written and that nests deeper than the bound is not read back, and its bytes decode to
nothing, as whatever type of data.
-/

namespace RowFilter

namespace Item

variable {fuel depth : Nat} {rest : List UInt8}

/-- Where no more nesting is followed, the head of an array, a map or a tagged item is not read. -/
theorem readOne_head_bottom {major : Nat} (hmajor : 4 ≤ major ∧ major ≤ 6) (n : Nat)
    (bs : List UInt8) : readOne (fuel + 1) 0 (head major n ++ bs) = (broken, none) := by
  obtain ⟨hbyte, -⟩ := toNat_headByte (by omega : major < 8) n
  rw [head_eq, List.cons_append, readOne.eq_def]
  simp only [hbyte]
  obtain rfl | rfl | rfl : major = 4 ∨ major = 5 ∨ major = 6 := by omega
  all_goals rfl

/-- A list of items ends where the first of them is not read. -/
theorem readMany_of_none {bs : List UInt8} (h : (readOne fuel depth bs).2 = none) (count : Nat)
    (soFar : List Item) : (readMany (fuel + 1) depth (count + 1) soFar bs).2 = none := by
  rw [readMany]
  rcases hread : readOne fuel depth bs with ⟨item, _ | rest⟩
  · rfl
  · rw [hread] at h
    cases h

mutual

/-- An item that is written and nests deeper than the reader follows it is not read. -/
theorem readOne_deep : ∀ (item : Item) {fuel depth : Nat} (rest : List UInt8),
    item.Writable → item.render.length < 256 ^ 8 → depth < item.nesting →
    2 * item.render.length ≤ fuel → (readOne fuel depth (item.render ++ rest)).2 = none := by
  intro item fuel depth rest hwritable hlength hnesting hfuel
  have hpos := length_render_pos item
  obtain ⟨fuel, rfl⟩ : ∃ k, fuel = k + 1 := ⟨fuel - 1, by omega⟩
  match item with
  | array items =>
    have hhead := length_head_pos 4 items.length
    have hcount := length_le_length_renderAll items
    rw [render, List.length_append] at hlength hfuel
    rw [nesting] at hnesting
    rw [render, List.append_assoc]
    cases depth with
    | zero => rw [readOne_head_bottom (by omega)]
    | succ depth =>
      rw [readOne_head_array (by omega)]
      exact readMany_deep items [] rest hwritable (by omega) (by omega) (by omega)
  | entry key value =>
    have hhead := length_head_pos 5 1
    have hkeypos := length_render_pos key
    have hvaluepos := length_render_pos value
    rw [render, List.length_append, List.length_append] at hlength hfuel
    rw [nesting] at hnesting
    obtain ⟨hkey, hvalue⟩ := hwritable
    rw [render, List.append_assoc, List.append_assoc]
    cases depth with
    | zero => rw [readOne_head_bottom (by omega)]
    | succ depth =>
      obtain ⟨fuel, rfl⟩ : ∃ k, fuel = k + 2 := ⟨fuel - 2, by omega⟩
      rw [readOne_head_map (by decide)]
      -- the reader goes over key and value as over a list
      by_cases hdeep : depth < key.nesting
      · exact readMany_of_none
          (readOne_deep key _ hkey (by omega) hdeep (by omega)) 1 []
      · rw [readMany_succ [] (readOne_render key _ hkey (by omega) (by omega) (by omega))]
        exact readMany_of_none
          (readOne_deep value rest hvalue (by omega) (by omega) (by omega)) 0 [key]
  | map content =>
    have hhead := length_head_pos 5 (content.length / 2)
    have hcount := length_le_length_renderAll content
    rw [render, List.length_append] at hlength hfuel
    rw [nesting] at hnesting
    obtain ⟨heven, -, hcontent⟩ := hwritable
    have hpairs : 2 * (content.length / 2) = content.length := by omega
    rw [render, List.append_assoc]
    cases depth with
    | zero => rw [readOne_head_bottom (by omega)]
    | succ depth =>
      rw [readOne_head_map (by omega), hpairs]
      exact readMany_deep content [] rest hcontent (by omega) (by omega) (by omega)
  | tagged inner =>
    have hhead := length_head_pos 6 0
    rw [render, List.length_append] at hlength hfuel
    rw [nesting] at hnesting
    rw [render, List.append_assoc]
    cases depth with
    | zero => rw [readOne_head_bottom (by omega)]
    | succ depth =>
      rw [readOne_head_tagged (by decide)]
      exact readOne_deep inner rest hwritable (by omega) (by omega) (by omega)
  | unsigned _ | negative _ | bytes _ | text _ | bool _ | null | undefined | half _ | single _
  | double _ | broken => simp only [nesting, Nat.not_lt_zero] at hnesting

/-- A list of items of which one nests deeper than the reader follows it is not read. -/
theorem readMany_deep : ∀ (items : List Item) {fuel depth : Nat} (soFar : List Item)
    (rest : List UInt8), AllWritable items → (renderAll items).length < 256 ^ 8 →
    depth < nestingAll items → 2 * (renderAll items).length + 1 ≤ fuel →
    (readMany fuel depth items.length soFar (renderAll items ++ rest)).2 = none := by
  intro items fuel depth soFar rest hwritable hlength hnesting hfuel
  match items with
  | [] => simp only [nestingAll, Nat.not_lt_zero] at hnesting
  | item :: items =>
    have hpos := length_render_pos item
    rw [renderAll, List.length_append] at hlength hfuel
    rw [nestingAll] at hnesting
    obtain ⟨hitem, hitems⟩ := hwritable
    obtain ⟨fuel, rfl⟩ : ∃ k, fuel = k + 1 := ⟨fuel - 1, by omega⟩
    rw [renderAll, List.append_assoc, List.length_cons]
    -- the items before the first that is too deep are read as they were written
    by_cases hdeep : depth < item.nesting
    · exact readMany_of_none (readOne_deep item _ hitem (by omega) hdeep (by omega)) _ soFar
    · rw [readMany_succ soFar
        (readOne_render item _ hitem (by omega) (by omega) (by omega))]
      exact readMany_deep items (item :: soFar) rest hitems (by omega) (by omega) (by omega)

end

end Item

/-- The bytes of an item that nests too deep decode to nothing. -/
theorem decodeBytes_deep {α : Type} {decode : Item → Decoded α} {limit : Nat} {item : Item} {a : α}
    (hwritable : item.Writable) (hlength : item.render.length < 256 ^ 8)
    (hnesting : Item.maxDepth < item.nesting) :
    decodeBytes decode limit item.render ≠ .ok a := by
  have hread : (Item.read item.render).2 = none := by
    have hdeep := Item.readOne_deep item [] hwritable hlength hnesting
      (by omega : 2 * item.render.length ≤ 2 * item.render.length + 2)
    rwa [List.append_nil] at hdeep
  intro h
  rw [decodeBytes] at h
  split at h
  next => cases h
  next =>
    obtain ⟨read, rest, hrun⟩ : ∃ read rest, Item.read item.render = (read, rest) := ⟨_, _, rfl⟩
    rw [hrun] at hread h
    cases hread
    obtain ⟨_, -, h⟩ := bind_eq_ok_iff.mp h
    cases h

/-- The bytes of an item that decode to something are few enough, and the item nests no deeper than
the reader follows it. -/
theorem admitted_of_decodeBytes {α : Type} {decode : Item → Decoded α} {limit : Nat} {item : Item}
    {a : α} (hwritable : item.Writable) (hlimit : limit < 2 ^ 64)
    (h : decodeBytes decode limit item.render = .ok a) : item.Admitted limit := by
  have hlength : item.render.length ≤ limit := by
    by_contra hlong
    rw [decodeBytes, if_pos (by omega)] at h
    cases h
  refine ⟨hlimit, hlength, ?_⟩
  by_contra hdeep
  exact decodeBytes_deep hwritable (by omega) (by omega) h

end RowFilter
