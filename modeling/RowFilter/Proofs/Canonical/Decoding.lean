import RowFilter.Proofs.Cbor.RoundTrip

/-!
# Comparisons and floats that are decoded

Bytes that decode as a predicate give a tree whose parts could have been built as well. Each
comparison was checked for its canonical shape when its parts had been read, and the canonical shapes
are those of the comparisons that can be made (`Comparison.made_iff_isCanonical`). Each float passed
`Finite.ofFloating?`.

The induction is on the bound of nesting: `Item.ReadsCanonical n` says of the four readers of trees
that what they give under the bound `n` holds canonical comparisons only.
-/

namespace RowFilter

/-! ### Floats of a tree -/

mutual

/-- All floats of a value, with those of its items. -/
def Value.floats : Value → List (Sigma Finite)
  | .float32 x => [⟨.single, x⟩]
  | .float64 x => [⟨.double, x⟩]
  | .list items => Value.floatsAll items
  | .null | .bool _ | .int _ | .uint _ | .text _ | .date _ => []

/-- All floats of values. -/
def Value.floatsAll : List Value → List (Sigma Finite)
  | [] => []
  | v :: vs => v.floats ++ Value.floatsAll vs

end

mutual

/-- All floats of a term. -/
def Term.floats : Term → List (Sigma Finite)
  | .member _ => []
  | .literal v _ => v.floats
  | .binary l _ r => l.floats ++ r.floats
  | .unary _ t args => t.floats ++ Term.floatsAll args

/-- All floats of an operand. -/
def Operand.floats : Operand → List (Sigma Finite)
  | .term t => t.floats
  | .value v => v.floats

/-- All floats of terms. -/
def Term.floatsAll : List Term → List (Sigma Finite)
  | [] => []
  | t :: ts => t.floats ++ Term.floatsAll ts

end

mutual

/-- All floats of a predicate. -/
def Predicate.floats : Predicate → List (Sigma Finite)
  | .joined p _ q => p.floats ++ q.floats
  | .solo _ p => p.floats
  | .comparison left _ right _ => left.floats ++ right.floats
  | .subquery outer inner _ => outer.floats ++ inner.floats
  | .shortCircuit _ => []

/-- All floats of a right side. -/
def RightSide.floats : RightSide → List (Sigma Finite)
  | .empty => []
  | .operand t => t.floats
  | .predicate p => p.floats
  | .value v => v.floats

/-- All floats of the inner side of a subquery. -/
def Inner.floats : Inner → List (Sigma Finite)
  | .foreignKey t => t.floats
  | .predicate p => p.floats

end

/-- A float of a value is finite, and it is not the negative zero. -/
theorem Finite.regular {f : FloatFormat} (x : Finite f) :
    x.isFinite = true ∧ ¬(x.code = 0 ∧ x.negative = true) := by
  refine ⟨x.isFinite_toFloating, ?_⟩
  rintro ⟨hzero, hnegative⟩
  have hpositive : x.negative = false := x.zero_positive hzero
  rw [hpositive] at hnegative
  cases hnegative

namespace Item

/-! ### Reading comparisons -/

/-- What is there was not null, and was read. -/
theorem exists_of_asOption {α : Type} {decode : Item → Decoded α} {item : Item} {a : α}
    (h : asOption decode item = .ok (some a)) : ∃ item, decode item = .ok a := by
  unfold asOption at h
  split at h
  · cases h
  · obtain ⟨b, hb, hab⟩ := map_eq_ok_iff.mp h
    cases hab
    exact ⟨_, hb⟩

/-- A comparison that passes the check is made of the parts that were read. -/
theorem canonical_eq_ok_iff {parts : Term × Comparator × RightSide × Bool} {c : Comparison} :
    canonical parts = .ok c ↔
      parts = (c.left, c.comparator, c.right, c.ignoreCase) ∧
        Comparison.isCanonical c.comparator c.right = true := by
  obtain ⟨left, comparator, right, ignoreCase⟩ := parts
  rw [canonical]
  constructor
  · intro h
    split_ifs at h with hcanonical
    cases h
    exact ⟨rfl, hcanonical⟩
  · rintro ⟨hparts, hcanonical⟩
    cases hparts
    exact if_pos hcanonical

/-- The trees that are read under a bound of nesting hold canonical comparisons only. -/
structure ReadsCanonical (n : Nat) : Prop where
  predicate : ∀ {item p}, asPredicate n item = .ok p → AllCanonical p.comparisons
  comparison : ∀ {item c}, asComparison n item = .ok c → AllCanonical c.toPredicate.comparisons
  rightSide : ∀ {item r}, asRightSide n item = .ok r → AllCanonical r.comparisons
  inner : ∀ {item x}, asInner n item = .ok x → AllCanonical x.comparisons

section

variable {n : Nat} {item : Item}

/-- Both sides of a connective were read as predicates; a missing left side is none. -/
theorem ReadsCanonical.predicate_succ (ih : ReadsCanonical n) {p : Predicate}
    (h : asPredicate (n + 1) item = .ok p) : AllCanonical p.comparisons := by
  rw [asPredicate] at h
  obtain ⟨e, he, hread⟩ := exists_of_asVariant h
  simp only [List.mem_cons, List.not_mem_nil, or_false] at he
  rcases he with rfl | rfl | rfl | rfl
  · -- a connective, whose left side may be missing or null
    obtain ⟨i, hi⟩ := hread
    obtain ⟨⟨left, op, right⟩, hparts, hi⟩ := bind_eq_ok_iff.mp hi
    obtain ⟨hleft, -, hright⟩ := parts_of_optional3 hparts
    obtain ⟨op', -, hi⟩ := bind_eq_ok_iff.mp hi
    obtain ⟨q, hq, hi⟩ := bind_eq_ok_iff.mp hi
    obtain ⟨j, hj⟩ := exists_of_orMalformed hright hq
    have hq : AllCanonical q.comparisons := ih.predicate hj
    split at hi
    next l hl =>
      cases hi
      obtain ⟨k, hk⟩ := hleft (some l) (Option.join_eq_some_iff.mp hl)
      obtain ⟨k, hk⟩ := exists_of_asOption hk
      rw [Predicate.comparisons, AllCanonical, List.forall_mem_append]
      exact ⟨ih.predicate hk, hq⟩
    next =>
      cases hi
      exact hq
  · -- a comparison, read by its own reader
    obtain ⟨i, hi⟩ := hread
    obtain ⟨c, hc, rfl⟩ := map_eq_ok_iff.mp hi
    exact ih.comparison hc
  · -- a subquery
    obtain ⟨i, hi⟩ := hread
    obtain ⟨⟨outer, inner, negated⟩, hparts, hi⟩ := bind_eq_ok_iff.mp hi
    obtain ⟨-, ⟨j, hj⟩, -⟩ := parts_of_record3 hparts
    cases hi
    exact ih.inner hj
  · -- a truth value
    obtain ⟨i, hi⟩ := hread
    obtain ⟨b, -, rfl⟩ := map_eq_ok_iff.mp hi
    exact allCanonical_nil

/-- A comparison is checked itself, and the predicate on its right was read. -/
theorem ReadsCanonical.comparison_succ (ih : ReadsCanonical n) {c : Comparison}
    (h : asComparison (n + 1) item = .ok c) : AllCanonical c.toPredicate.comparisons := by
  rw [asComparison] at h
  obtain ⟨parts, hparts, h⟩ := bind_eq_ok_iff.mp h
  obtain ⟨rfl, hcanonical⟩ := canonical_eq_ok_iff.mp h
  obtain ⟨-, -, ⟨i, hi⟩, -⟩ := parts_of_record4 hparts
  rw [Comparison.toPredicate, Predicate.comparisons, AllCanonical, List.forall_mem_cons]
  exact ⟨hcanonical, ih.rightSide hi⟩

/-- Only the predicate on the right of a comparison holds comparisons. -/
theorem ReadsCanonical.rightSide_succ (ih : ReadsCanonical n) {r : RightSide}
    (h : asRightSide (n + 1) item = .ok r) : AllCanonical r.comparisons := by
  rw [asRightSide] at h
  obtain ⟨e, he, hread⟩ := exists_of_asVariant h
  simp only [List.mem_cons, List.not_mem_nil, or_false] at he
  rcases he with rfl | rfl | rfl | rfl
  · cases hread
    exact allCanonical_nil
  · obtain ⟨i, hi⟩ := hread
    obtain ⟨t, -, rfl⟩ := map_eq_ok_iff.mp hi
    exact allCanonical_nil
  · obtain ⟨i, hi⟩ := hread
    obtain ⟨p, hp, rfl⟩ := map_eq_ok_iff.mp hi
    exact ih.predicate hp
  · obtain ⟨i, hi⟩ := hread
    obtain ⟨v, -, rfl⟩ := map_eq_ok_iff.mp hi
    exact allCanonical_nil

/-- Only the filter of a subquery holds comparisons. -/
theorem ReadsCanonical.inner_succ (ih : ReadsCanonical n) {x : Inner}
    (h : asInner (n + 1) item = .ok x) : AllCanonical x.comparisons := by
  rw [asInner] at h
  obtain ⟨e, he, hread⟩ := exists_of_asVariant h
  simp only [List.mem_cons, List.not_mem_nil, or_false] at he
  rcases he with rfl | rfl
  · obtain ⟨i, hi⟩ := hread
    obtain ⟨t, -, rfl⟩ := map_eq_ok_iff.mp hi
    exact allCanonical_nil
  · obtain ⟨i, hi⟩ := hread
    obtain ⟨p, hp, rfl⟩ := map_eq_ok_iff.mp hi
    exact ih.predicate hp

end

/-- Whatever the bound of nesting, trees are read with canonical comparisons only. -/
theorem readsCanonical (n : Nat) : ReadsCanonical n := by
  induction n with
  | zero => exact ⟨nofun, nofun, nofun, nofun⟩
  | succ n ih => exact ⟨ih.predicate_succ, ih.comparison_succ, ih.rightSide_succ, ih.inner_succ⟩

end Item

/-- What bytes are read as was read from an item. -/
theorem exists_of_decodeBytes {α : Type} {decode : Item → Decoded α} {limit : Nat}
    {bytes : List UInt8} {a : α} (h : decodeBytes decode limit bytes = .ok a) :
    ∃ item, decode item = .ok a := by
  rw [decodeBytes] at h
  split_ifs at h
  obtain ⟨b, hb, h⟩ := bind_eq_ok_iff.mp h
  split at h
  next =>
    cases h
    exact ⟨_, hb⟩
  next => cases h

/-! ### The theorem -/

/-- The decoder accepts the comparisons that can be made, and no others. Every comparison of a
predicate that is decoded is one that some constructor returns, as long as a text on its right lacks
some character that can serve as the wildcard; every float of the predicate is finite and not the
negative zero, since a reader of floats refuses the infinities and what is no number, and reads the
negative zero as zero. Conversely, the check of the decoder passes every comparison that a
constructor returns. -/
theorem made_of_decode :
    (∀ (limit : Nat) (bytes : List UInt8) (p : Predicate),
      Predicate.decode limit bytes = .ok p →
        (∀ c ∈ p.comparisons,
          (∀ s, c.right = .value (.text s) → ∃ w, w ∉ s.toList) → c.Made) ∧
        ∀ x ∈ p.floats, x.2.isFinite = true ∧ ¬(x.2.code = 0 ∧ x.2.negative = true)) ∧
    (∀ (f : FloatFormat) (type : String) (item : Item) (x : Floating f),
      item.asFloating = .ok x →
        (item.asFinite type : Decoded (Finite f)) =
          match Finite.ofFloating? x with
          | some y => .ok y
          | none => .error (.nonFinite type x.text)) ∧
    ∀ c : Comparison, c.Made →
      Comparison.isCanonical c.comparator c.right = true ∧
        Item.canonical (c.left, c.comparator, c.right, c.ignoreCase) = .ok c := by
  refine ⟨fun limit bytes p h => ⟨fun c hc htext => ?_, fun x _ => x.2.regular⟩,
    fun f type item x h => Item.asFinite_eq h, fun c hmade => ?_⟩
  · obtain ⟨item, hitem⟩ := exists_of_decodeBytes h
    have hcanonical := (Item.readsCanonical _).predicate hitem c hc
    exact (Comparison.made_iff_isCanonical htext).mpr hcanonical
  · obtain ⟨w, hw⟩ := hmade
    have hcanonical := Comparison.isCanonical_of_shape (Comparison.madeUnder_iff_shape.mp hw)
    exact ⟨hcanonical, Item.canonical_eq_ok_iff.mpr ⟨rfl, hcanonical⟩⟩

/-- The comparisons of a decoded predicate can be made, also where one stands on the right of
another; a negative zero is read as zero; and an equality with a list has no canonical shape. -/
theorem made_of_decode_nested :
    let pattern : Comparison :=
      ⟨.member ⟨"pet", "name", none⟩, .like, .value (.text "a*"), true⟩
    let outer : Comparison := ⟨.unset, .equal, .predicate pattern.toPredicate, false⟩
    let p : Predicate := .solo .not outer.toPredicate
    let negativeZero : Double := ⟨true, 0, by decide⟩
    let zero : Finite .double := ⟨⟨false, 0, by decide⟩, by decide, by simp⟩
    Predicate.decode 1024 p.encode = .ok p ∧
      (∀ c ∈ p.comparisons, c.Made) ∧
      (Item.double negativeZero).asFinite "Float64" = .ok zero ∧
      (Item.canonical (pattern.left, .like, .value (.text "a*"), true) = .ok pattern) ∧
      Comparison.isCanonical .equal (.value (.list [])) = false := by
  intro pattern outer p negativeZero zero
  have hlist : p.comparisons = [outer, pattern] := rfl
  have hcanonical : AllCanonical p.comparisons := by
    rw [hlist, AllCanonical, List.forall_mem_cons, List.forall_mem_singleton]
    exact ⟨rfl, rfl⟩
  have hdecode : Predicate.decode 1024 p.encode = .ok p :=
    Predicate.decode_encode hcanonical ⟨by decide, by decide +kernel, by decide⟩
  have htext : ∀ c ∈ p.comparisons, ∀ s, c.right = .value (.text s) → ∃ w, w ∉ s.toList := by
    rw [hlist, List.forall_mem_cons, List.forall_mem_singleton]
    refine ⟨nofun, ?_⟩
    rintro s ⟨⟩
    exact ⟨'b', by decide⟩
  have hzero : (Item.double negativeZero).asFloating = .ok negativeZero :=
    congrArg Except.ok (Floating.convert_self rfl)
  have hmade : ∀ c ∈ p.comparisons, c.Made := fun c hc =>
    (made_of_decode.1 1024 p.encode p hdecode).1 c hc (htext c hc)
  have hpattern : pattern ∈ p.comparisons := by
    rw [hlist]
    exact List.mem_cons_of_mem _ List.mem_cons_self
  exact ⟨hdecode, hmade, made_of_decode.2.1 .double "Float64" _ negativeZero hzero,
    (made_of_decode.2.2 pattern (hmade pattern hpattern)).2, rfl⟩

end RowFilter
