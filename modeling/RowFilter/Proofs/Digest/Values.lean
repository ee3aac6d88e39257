import RowFilter.Proofs.Digest.Framing

/-!
# Streams of values

The stream of a value can be split off the front of any bytes, and so can the streams of the items
of a list once their number is known. Every kind of value starts with a tag of its own, and what
follows the tag has either a fixed width or a length in front.
-/

namespace RowFilter

open ByteStream

/-! ### Bit patterns -/

namespace Floating

variable {f : FloatFormat}

/-- A bit pattern has one bit more than a code. -/
theorem toBits_lt (x : Floating f) : x.toBits < 2 * f.codeCount := by
  have := x.code_lt
  rw [toBits]
  split <;> omega

/-- The bit pattern of a number determines it. -/
theorem toBits_injective {x y : Floating f} (h : x.toBits = y.toBits) : x = y := by
  obtain ⟨negative, code, hcode⟩ := x
  obtain ⟨negative', code', hcode'⟩ := y
  -- the sign is the bit above the code, which is too small to reach it
  cases negative <;> cases negative' <;> simp [toBits] at h ⊢ <;> omega

end Floating

/-- The bit pattern of a finite number determines it. -/
theorem Finite.toBits_injective {f : FloatFormat} {x y : Finite f} (h : x.toBits = y.toBits) :
    x = y := by
  have hbits := Floating.toBits_injective h
  obtain ⟨x, _, _⟩ := x
  obtain ⟨y, _, _⟩ := y
  simpa using hbits

/-! ### Lengths -/

mutual

/-- The lengths in a value fit the bytes that they are written in. -/
def Value.LengthsFit : Value → Prop
  | .text s => s.utf8ByteSize < lengthLimit
  | .list items => items.length < lengthLimit ∧ Value.AllLengthsFit items
  | _ => True

/-- The lengths in all values of a list fit the bytes that they are written in. -/
def Value.AllLengthsFit : List Value → Prop
  | [] => True
  | v :: vs => v.LengthsFit ∧ Value.AllLengthsFit vs

end

/-! ### Splitting off a value -/

/-- The stream of a value begins with the tag of its kind. -/
theorem Value.head?_stream (v : Value) : v.stream.head? = some v.kind.tag := by
  cases v <;> rfl

/-- Values whose streams begin alike are of one kind. -/
theorem Value.kind_eq_of_stream_append_eq {v w : Value} {xs ys : List UInt8}
    (h : v.stream ++ xs = w.stream ++ ys) : v.kind = w.kind := by
  have hhead := congrArg List.head? h
  rw [List.head?_append, List.head?_append, v.head?_stream, w.head?_stream, Option.some_or,
    Option.some_or] at hhead
  exact Kind.tag_injective (Option.some.inj hhead)

mutual

/-- A value can be split off the front. -/
theorem Value.stream_append_inj : ∀ (v w : Value) {xs ys : List UInt8}, v.LengthsFit →
    w.LengthsFit → v.stream ++ xs = w.stream ++ ys → v = w ∧ xs = ys
  | .null, w, _, _, _, _, h => by
    cases w with
    | null => simpa [Value.stream] using h
    | _ => cases Value.kind_eq_of_stream_append_eq h
  | .bool a, w, _, _, _, _, h => by
    cases w with
    | bool b =>
      simp only [Value.stream, List.cons_append, List.cons.injEq, true_and] at h
      obtain ⟨rfl, hrest⟩ := ofBool_append_inj h
      exact ⟨rfl, hrest⟩
    | _ => cases Value.kind_eq_of_stream_append_eq h
  | .int m, w, _, _, _, _, h => by
    cases w with
    | int n =>
      simp only [Value.stream, List.cons_append, List.cons.injEq, true_and] at h
      obtain ⟨hbits, hrest⟩ :=
        bigEndian_append_inj m.toUInt64.toNat_lt n.toUInt64.toNat_lt h
      -- an integer is written as the word of its two's complement
      have hword : m.toUInt64 = n.toUInt64 := UInt64.toNat.inj hbits
      exact ⟨congrArg (fun word => Value.int (.ofUInt64 word)) hword, hrest⟩
    | _ => cases Value.kind_eq_of_stream_append_eq h
  | .uint m, w, _, _, _, _, h => by
    cases w with
    | uint n =>
      simp only [Value.stream, List.cons_append, List.cons.injEq, true_and] at h
      obtain ⟨hbits, hrest⟩ := bigEndian_append_inj m.toNat_lt n.toNat_lt h
      exact ⟨congrArg _ (UInt64.toNat.inj hbits), hrest⟩
    | _ => cases Value.kind_eq_of_stream_append_eq h
  | .float32 x, w, _, _, _, _, h => by
    cases w with
    | float32 y =>
      simp only [Value.stream, List.cons_append, List.cons.injEq, true_and] at h
      obtain ⟨hbits, hrest⟩ := bigEndian_append_inj x.toBits_lt y.toBits_lt h
      exact ⟨congrArg _ (Finite.toBits_injective hbits), hrest⟩
    | _ => cases Value.kind_eq_of_stream_append_eq h
  | .float64 x, w, _, _, _, _, h => by
    cases w with
    | float64 y =>
      simp only [Value.stream, List.cons_append, List.cons.injEq, true_and] at h
      obtain ⟨hbits, hrest⟩ := bigEndian_append_inj x.toBits_lt y.toBits_lt h
      exact ⟨congrArg _ (Finite.toBits_injective hbits), hrest⟩
    | _ => cases Value.kind_eq_of_stream_append_eq h
  | .text s, w, _, _, hs, ht, h => by
    cases w with
    | text t =>
      simp only [Value.stream, List.cons_append, List.cons.injEq, true_and] at h
      obtain ⟨rfl, hrest⟩ := ofText_append_inj hs ht h
      exact ⟨rfl, hrest⟩
    | _ => cases Value.kind_eq_of_stream_append_eq h
  | .date d, w, _, _, _, _, h => by
    cases w with
    | date e =>
      simp only [Value.stream, List.cons_append, List.cons.injEq, true_and] at h
      obtain ⟨hbits, hrest⟩ :=
        bigEndian_append_inj d.days.toUInt32.toNat_lt e.days.toUInt32.toNat_lt h
      have hword : d.days.toUInt32 = e.days.toUInt32 := UInt32.toNat.inj hbits
      exact ⟨congrArg (fun word => Value.date ⟨.ofUInt32 word⟩) hword, hrest⟩
    | _ => cases Value.kind_eq_of_stream_append_eq h
  | .list vs, w, _, _, hvs, hws, h => by
    cases w with
    | list ws =>
      simp only [Value.stream, List.cons_append, List.append_assoc, List.cons.injEq,
        true_and] at h
      obtain ⟨hlength, hitems⟩ := ofLength_append_inj hvs.1 hws.1 h
      obtain ⟨rfl, hrest⟩ := Value.streamItems_append_inj vs ws hvs.2 hws.2 hlength hitems
      exact ⟨rfl, hrest⟩
    | _ => cases Value.kind_eq_of_stream_append_eq h

/-- Items of a known number can be split off the front. -/
theorem Value.streamItems_append_inj : ∀ (vs ws : List Value) {xs ys : List UInt8},
    Value.AllLengthsFit vs → Value.AllLengthsFit ws → vs.length = ws.length →
    Value.streamItems vs ++ xs = Value.streamItems ws ++ ys → vs = ws ∧ xs = ys
  | [], [], _, _, _, _, _, h => ⟨rfl, h⟩
  | v :: vs, w :: ws, _, _, hv, hw, hlength, h => by
    simp only [Value.streamItems, List.cons_append, List.append_assoc, List.cons.injEq,
      true_and] at h
    obtain ⟨rfl, hitems⟩ := Value.stream_append_inj v w hv.1 hw.1 h
    obtain ⟨rfl, hrest⟩ :=
      Value.streamItems_append_inj vs ws hv.2 hw.2 (Nat.succ.inj hlength) hitems
    exact ⟨rfl, hrest⟩

end

end RowFilter
