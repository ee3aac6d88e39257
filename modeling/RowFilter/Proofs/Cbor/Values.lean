import RowFilter.Cbor.Trees
import RowFilter.Proofs.Cbor.Records
import RowFilter.Proofs.Cbor.Rendering

/-!
# Values in bytes

The item of a value is read as the value. Integers and dates are read back from integers in range,
a float from the shortest width that keeps it, and a list item by item, on a bound of nesting that
the nesting of its item stays below.

The lemmas about fields and variants give what every later induction needs of an item: that it can
be written, and how deep it nests.
-/

namespace RowFilter

namespace Item

/-! ### Shapes -/

/-- Items are read back as themselves if each one is. -/
theorem allWritable_iff {items : List Item} :
    AllWritable items ↔ ∀ item ∈ items, item.Writable := by
  induction items with
  | nil => exact ⟨nofun, fun _ => trivial⟩
  | cons item items ih => rw [AllWritable, ih, List.forall_mem_cons]

/-- A variant can be written if its payload can. -/
theorem writable_variant (name : String) {payload : Item} (h : payload.Writable) :
    (variant name payload).Writable := ⟨trivial, h⟩

/-- A variant is one map around its payload. -/
@[simp]
theorem nesting_variant (name : String) (payload : Item) :
    (variant name payload).nesting = payload.nesting + 1 := by
  rw [variant, nesting]
  change max 0 payload.nesting + 1 = _
  rw [Nat.zero_max]

/-- Fields take two places each. -/
theorem length_flatMap_fields (entries : List (String × Item)) :
    (entries.flatMap fun e => [text e.1, e.2]).length = 2 * entries.length := by
  induction entries with
  | nil => rfl
  | cons e entries ih =>
    rw [List.flatMap_cons, List.length_append, ih, List.length_cons, List.length_cons,
      List.length_cons, List.length_nil]
    omega

/-- Fields can be written if there is not just one and each of them can. -/
theorem writable_fields {entries : List (String × Item)} (hone : entries.length ≠ 1)
    (h : AllWritable (entries.map Prod.snd)) : (fields entries).Writable := by
  have hlength := length_flatMap_fields entries
  refine ⟨by omega, by omega, allWritable_iff.mpr ?_⟩
  -- the content is the names, which are texts, and what the names stand for
  intro item hitem
  obtain ⟨e, he, hitem⟩ := List.mem_flatMap.mp hitem
  rcases List.mem_cons.mp hitem with rfl | hitem
  · trivial
  · rw [List.mem_singleton] at hitem
    exact hitem ▸ allWritable_iff.mp h e.2 (List.mem_map_of_mem he)

/-- A record is one map around its fields. -/
@[simp]
theorem nesting_fields (entries : List (String × Item)) :
    (fields entries).nesting = nestingAll (entries.map Prod.snd) + 1 := by
  rw [fields, nesting]
  congr 1
  induction entries with
  | nil => rfl
  | cons e entries ih =>
    have htext : (text e.1).nesting = 0 := rfl
    rw [List.flatMap_cons, List.cons_append, List.cons_append, List.nil_append, nestingAll,
      nestingAll, htext, Nat.zero_max, ih, List.map_cons, nestingAll]

/-! ### Integers -/

/-- An integer is read back. -/
@[simp]
theorem integer?_ofInt (n : Int) : (ofInt n).integer? = some n := by
  rw [ofInt]
  split
  next h =>
    change some ((n.toNat : Nat) : Int) = some n
    rw [Int.toNat_of_nonneg h]
  next h =>
    change some (-1 - (((-1 - n).toNat : Nat) : Int)) = some n
    rw [Int.toNat_of_nonneg (by omega)]
    congr 1
    omega

/-- An integer whose magnitude fits the bytes of a head can be written. -/
theorem writable_ofInt {n : Int} (h : n.natAbs < 256 ^ 8) : (ofInt n).Writable := by
  rw [ofInt]
  split
  · change n.toNat < 256 ^ 8
    omega
  · change (-1 - n).toNat < 256 ^ 8
    omega

/-- An integer of 64 bits with sign is read back. -/
theorem asInt64_ofInt (n : Int64) : asInt64 (ofInt n.toInt) = .ok n := by
  have hlow : Int64.minValue.toInt ≤ n.toInt := n.minValue_le_toInt
  have hhigh : n.toInt ≤ Int64.maxValue.toInt := n.toInt_le
  rw [asInt64, integer?_ofInt, Option.bind_some, Value.int64?, if_pos ⟨hlow, hhigh⟩, Int64.ofInt_toInt]
  rfl

/-- An integer of 64 bits without sign is read back. -/
theorem asUInt64_unsigned (n : UInt64) : asUInt64 (unsigned n.toNat) = .ok n := by
  have hlow : (0 : Int) ≤ n.toNat := Int.natCast_nonneg _
  have hhigh : (n.toNat : Int) < UInt64.size := Int.ofNat_lt.mpr n.toNat_lt
  have hinteger : (unsigned n.toNat).integer? = some (n.toNat : Int) := rfl
  rw [asUInt64, hinteger, Option.bind_some, Value.uint64?, if_pos ⟨hlow, hhigh⟩, Int.toNat_natCast,
    UInt64.ofNat_toNat]
  rfl

/-- A date is read back. -/
theorem asDate_toItem (d : Date) : asDate d.toItem = .ok d := by
  have hlow : Int32.minValue.toInt ≤ d.days.toInt := d.days.minValue_le_toInt
  have hhigh : d.days.toInt ≤ Int32.maxValue.toInt := d.days.toInt_le
  rw [asDate, Date.toItem, integer?_ofInt, Option.bind_some, if_pos ⟨hlow, hhigh⟩, Int32.ofInt_toInt]
  rfl

/-- The item of a date can be written. -/
theorem writable_date (d : Date) : d.toItem.Writable := by
  have hlow : Int32.minValue.toInt ≤ d.days.toInt := d.days.minValue_le_toInt
  have hhigh : d.days.toInt ≤ Int32.maxValue.toInt := d.days.toInt_le
  have hmin : Int32.minValue.toInt = -2147483648 := rfl
  have hmax : Int32.maxValue.toInt = 2147483647 := rfl
  exact writable_ofInt (by omega)

/-- A byte is read back. -/
theorem asByte_unsigned (b : UInt8) : asByte (unsigned b.toNat) = .ok b := by
  have hlow : (0 : Int) ≤ b.toNat := Int.natCast_nonneg _
  have hhigh : (b.toNat : Int) < 256 := Int.ofNat_lt.mpr b.toNat_lt
  have hinteger : (unsigned b.toNat).integer? = some (b.toNat : Int) := rfl
  rw [asByte, hinteger, Option.bind_some, if_pos ⟨hlow, hhigh⟩, Int.toNat_natCast, UInt8.ofNat_toNat]
  rfl

/-! ### Floats -/

/-- The item of a number of 32 bits is read as the number. -/
theorem asFloating_ofSingle {x : Single} (hx : x.isFinite = true) :
    (ofSingle x).asFloating = .ok x := by
  rw [ofSingle]
  split_ifs with h
  · exact congrArg Except.ok h
  · exact congrArg Except.ok (Floating.convert_self hx)

/-- The item of a number of 64 bits is read as the number, also where it is a number of 32 or 16
bits. -/
theorem asFloating_ofDouble {x : Double} (hx : x.isFinite = true) :
    (ofDouble x).asFloating = .ok x := by
  rw [ofDouble]
  split_ifs with hsingle
  · -- the number is one of 32 bits, and it may be one of 16 bits as well
    rw [ofSingle]
    split_ifs with hhalf
    · have hs : (x.convert : Single).isFinite = true :=
        Floating.isFinite_of_convert (by decide) (hsingle ▸ hx)
      have hh : ((x.convert : Single).convert : Floating .half).isFinite = true :=
        Floating.isFinite_of_convert (by decide) (hhalf ▸ hs)
      -- it is read from 16 bits at once, and was written by way of 32 bits
      obtain ⟨code, hcode⟩ := Floating.exists_namedBy_single hh
      have hdirect := hcode.convert_convert (i := .double) hh
      rw [hhalf, hsingle] at hdirect
      exact congrArg Except.ok hdirect.symm
    · exact congrArg Except.ok hsingle
  · exact congrArg Except.ok (Floating.convert_self hx)

/-- A float that is read is kept if it is finite, with the negative zero as zero, and is refused
otherwise. -/
theorem asFinite_eq {f : FloatFormat} {type : String} {item : Item} {x : Floating f}
    (h : item.asFloating = .ok x) :
    (item.asFinite type : Decoded (Finite f)) =
      match Finite.ofFloating? x with
      | some y => .ok y
      | none => .error (.nonFinite type x.text) := by
  rw [asFinite, h]
  change (match Finite.ofFloating? x with | some y => _ | none => _) = _
  cases Finite.ofFloating? x <;> rfl

/-- A finite number that an item is read as is kept. -/
theorem asFinite_of_asFloating {f : FloatFormat} {item : Item} {x : Finite f} (type : String)
    (h : item.asFloating = .ok x.toFloating) : item.asFinite type = .ok x := by
  rw [asFinite_eq h, Finite.ofFloating?_toFloating]

/-- The item of a number of 32 bits can be written. -/
theorem writable_ofSingle (x : Single) : (ofSingle x).Writable := by
  rw [ofSingle]
  split_ifs <;> trivial

/-- The item of a number of 64 bits can be written. -/
theorem writable_ofDouble (x : Double) : (ofDouble x).Writable := by
  rw [ofDouble]
  split_ifs
  · exact writable_ofSingle _
  · trivial

/-! ### Labels -/

/-- One of labelled alternatives is read back from its label. -/
theorem asLabel_text {α : Type} {all : List α} {label : α → String} {a : α}
    (hnodup : (all.map label).Nodup) (ha : a ∈ all) :
    asLabel all label (text (label a)) = .ok a := by
  obtain ⟨n, hn, rfl⟩ := List.getElem_of_mem ha
  have hnames : (all.map fun a => (label a, Alternative.bare a)).map Prod.fst = all.map label := by
    rw [List.map_map]
    rfl
  refine asVariant_text (n := n) ?_ ?_
  · rw [hnames, List.idxOf?_eq_some_iff]
    refine ⟨by rwa [List.length_map], List.getElem_map label, ?_⟩
    -- an earlier alternative has another label
    intro j hj heq
    have hlength : n < (all.map label).length := by rwa [List.length_map]
    have hne := List.pairwise_iff_getElem.mp hnodup j n (by omega) hlength hj
    rw [List.getElem_map label (i := n)] at hne
    exact hne heq
  · rw [List.getElem?_map, List.getElem?_eq_getElem hn]
    rfl

end Item

/-! ### Values -/

open Item

mutual

/-- The item of a value can be written. -/
theorem Value.writable_toItem : ∀ v : Value, v.toItem.Writable
  | .null => trivial
  | .bool _ => writable_variant _ trivial
  | .int n => by
    have hlow : Int64.minValue.toInt ≤ n.toInt := n.minValue_le_toInt
    have hhigh : n.toInt ≤ Int64.maxValue.toInt := n.toInt_le
    have hmin : Int64.minValue.toInt = -9223372036854775808 := rfl
    have hmax : Int64.maxValue.toInt = 9223372036854775807 := rfl
    exact writable_variant _ (writable_ofInt (by omega))
  | .uint n => writable_variant _ n.toNat_lt
  | .float32 _ => writable_variant _ (writable_ofSingle _)
  | .float64 _ => writable_variant _ (writable_ofDouble _)
  | .text _ => writable_variant _ trivial
  | .date d => writable_variant _ (writable_date d)
  | .list items => writable_variant _ (Value.allWritable_toItems items)

/-- The items of values can be written. -/
theorem Value.allWritable_toItems : ∀ vs : List Value, AllWritable (Value.toItems vs)
  | [] => trivial
  | v :: vs => ⟨v.writable_toItem, Value.allWritable_toItems vs⟩

end

mutual

/-- The item of a value is read as the value. -/
theorem Value.asValue_toItem : ∀ (v : Value) {n : Nat}, v.toItem.nesting < n →
    asValue n v.toItem = .ok v := by
  intro v n hn
  obtain ⟨n, rfl⟩ : ∃ k, n = k + 1 := ⟨n - 1, by omega⟩
  rw [asValue]
  match v with
  | .null => exact asVariant_text (n := 0) rfl rfl
  | .bool b =>
    rw [Value.toItem, asVariant_variant (n := 1) rfl rfl]
    rfl
  | .int m =>
    rw [Value.toItem, asVariant_variant (n := 2) rfl rfl, asInt64_ofInt]
    rfl
  | .uint m =>
    rw [Value.toItem, asVariant_variant (n := 3) rfl rfl, asUInt64_unsigned]
    rfl
  | .float32 x =>
    have hread : (ofSingle x.toFloating).asFinite "Float32" = .ok x :=
      asFinite_of_asFloating _ (asFloating_ofSingle x.isFinite_toFloating)
    rw [Value.toItem, asVariant_variant (n := 4) rfl rfl, hread]
    rfl
  | .float64 x =>
    have hread : (ofDouble x.toFloating).asFinite "Float64" = .ok x :=
      asFinite_of_asFloating _ (asFloating_ofDouble x.isFinite_toFloating)
    rw [Value.toItem, asVariant_variant (n := 5) rfl rfl, hread]
    rfl
  | .text s =>
    rw [Value.toItem, asVariant_variant (n := 6) rfl rfl]
    rfl
  | .date d =>
    rw [Value.toItem, asVariant_variant (n := 7) rfl rfl, asDate_toItem]
    rfl
  | .list items =>
    -- the items stand under the variant and the array
    rw [Value.toItem, nesting_variant, nesting] at hn
    rw [Value.toItem, asVariant_variant (n := 8) rfl rfl]
    change (Value.list <$> (Value.toItems items).mapM (asValue n)) = _
    rw [Value.mapM_toItems items (by omega)]
    rfl

/-- The items of values are read as the values. -/
theorem Value.mapM_toItems : ∀ (vs : List Value) {n : Nat}, nestingAll (Value.toItems vs) < n →
    (Value.toItems vs).mapM (asValue n) = .ok vs
  | [], _, _ => rfl
  | v :: vs, n, hn => by
    rw [Value.toItems, nestingAll] at hn
    rw [Value.toItems, List.mapM_cons, v.asValue_toItem (by omega), Value.mapM_toItems vs (by omega)]
    rfl

end

end RowFilter
