import RowFilter.Proofs.Cbor.Trees

/-!
# Encoding and decoding

What is encoded is decoded again: values, dates, fingerprints and reports exactly, and trees and
clauses up to the fields that member references carry, which are not written. A tree comes back in
its unresolved form, which agrees with the tree that was encoded and shares its canonical text and
its fingerprint.
-/

namespace RowFilter

open Item

/-- What the decoder admits nests less deep than the readers of trees descend. -/
theorem Item.Admitted.nesting_lt {limit : Nat} {item : Item} (h : item.Admitted limit) :
    item.nesting < treeNesting := by
  have hnesting := h.nesting_le
  rw [maxDepth] at hnesting
  rw [treeNesting, maxDepth]
  omega

section

variable {limit : Nat}

/-- An encoded predicate is decoded as its unresolved form, if its comparisons have canonical
shapes. -/
theorem Predicate.decode_encode {p : Predicate} (hcanonical : AllCanonical p.comparisons)
    (h : p.toItem.Admitted limit) : Predicate.decode limit p.encode = .ok p.unresolved :=
  decodeBytes_render p.writable_toItem h (p.asPredicate_toItem hcanonical h.nesting_lt)

/-- An encoded comparison is decoded as its unresolved form, if it and the comparisons in it have
canonical shapes. -/
theorem Comparison.decode_encode {c : Comparison}
    (hcanonical : AllCanonical c.toPredicate.comparisons) (h : c.toItem.Admitted limit) :
    Comparison.decode limit c.encode =
      .ok ⟨c.left.unresolved, c.comparator, c.right.unresolved, c.ignoreCase⟩ := by
  have hwritable : c.toItem.Writable :=
    writable_fields (by decide : 4 ≠ 1)
      ⟨c.left.writable_toItem, trivial, c.right.writable_toItem, trivial, trivial⟩
  have hnesting := h.nesting_lt
  have htree : treeNesting = 2 * maxDepth + 1 + 1 := rfl
  rw [Comparison.toItem, comparisonItem, nesting_fields, htree] at hnesting
  simp only [List.map, nestingAll] at hnesting
  rw [Comparison.toPredicate, Predicate.comparisons, AllCanonical, List.forall_mem_cons]
    at hcanonical
  have hread : asComparison treeNesting c.toItem = _ :=
    asComparison_comparisonItem c.comparator c.ignoreCase (c.left.asTerm_toItem (by omega))
      (c.right.asRightSide_toItem hcanonical.2 (by omega)) hcanonical.1
  exact decodeBytes_render hwritable h hread

/-- An encoded term is decoded as its unresolved form. -/
theorem Term.decode_encode {t : Term} (h : t.toItem.Admitted limit) :
    Term.decode limit t.encode = .ok t.unresolved :=
  decodeBytes_render t.writable_toItem h (t.asTerm_toItem h.nesting_lt)

/-- An encoded operand is decoded as its unresolved form. -/
theorem Operand.decode_encode {o : Operand} (h : o.toItem.Admitted limit) :
    Operand.decode limit o.encode = .ok o.unresolved :=
  decodeBytes_render o.writable_toItem h (o.asOperand_toItem h.nesting_lt)

/-- An encoded set clause is decoded as its unresolved form. -/
theorem SetClause.decode_encode {c : SetClause} (h : c.toItem.Admitted limit) :
    SetClause.decode limit c.encode = .ok (Chain.normal SetValue.unresolved c) := by
  have hread := Chain.asChain_toItem (by decide) (fun x hx => x.asSetValue_toItem hx) c
    (Nat.le_of_lt h.nesting_lt) h.nesting_lt
  exact decodeBytes_render (Chain.writable_toItem SetValue.writable_toItem c) h hread

/-- An encoded sort clause is decoded as its unresolved form. -/
theorem SortClause.decode_encode {c : SortClause} (h : c.toItem.Admitted limit) :
    SortClause.decode limit c.encode = .ok (Chain.normal id c) := by
  have hread := Chain.asChain_toItem (by decide) (fun d _ => asDirection_text d) c
    (Nat.le_of_lt h.nesting_lt) h.nesting_lt
  have hlabel : ∀ d : Direction, (Item.text d.label).Writable := fun _ => trivial
  exact decodeBytes_render (Chain.writable_toItem hlabel c) h hread

end

/-- What is encoded is decoded again. Of a tree or a clause that comes within the limit of length
and does not nest too deep, decoding gives one that agrees with it and has the same canonical text
and fingerprint; the comparisons of a predicate are ones that constructors return. A value, a date,
a fingerprint and the report of an error come back as they were. -/
theorem decode_encode_agrees (limit : Nat) :
    (∀ p : Predicate, (∀ c ∈ p.comparisons, c.Made) → p.toItem.Admitted limit →
      ∃ q, Predicate.decode limit p.encode = .ok q ∧ q.agrees p = true ∧
        q.fingerprint = p.fingerprint ∧ q.display = p.display) ∧
    (∀ c : Comparison, (∀ d ∈ c.toPredicate.comparisons, d.Made) → c.toItem.Admitted limit →
      ∃ d, Comparison.decode limit c.encode = .ok d ∧
        d.toPredicate.agrees c.toPredicate = true ∧
        d.toPredicate.fingerprint = c.toPredicate.fingerprint ∧
        d.toPredicate.display = c.toPredicate.display) ∧
    (∀ t : Term, t.toItem.Admitted limit →
      ∃ u, Term.decode limit t.encode = .ok u ∧ u.agrees t = true ∧
        u.fingerprint = t.fingerprint ∧ u.display = t.display) ∧
    (∀ o : Operand, o.toItem.Admitted limit →
      ∃ o', Operand.decode limit o.encode = .ok o' ∧ o'.agrees o = true ∧
        o'.display = o.display) ∧
    (∀ v : Value, v.toItem.Admitted limit → Value.decode limit v.encode = .ok v) ∧
    (∀ d : Date, d.toItem.Admitted limit → Date.decode limit d.encode = .ok d) ∧
    (∀ c : SetClause, c.toItem.Admitted limit →
      ∃ d, SetClause.decode limit c.encode = .ok d ∧ d.agrees c = true ∧
        d.fingerprint = c.fingerprint ∧ d.display = c.display) ∧
    (∀ c : SortClause, c.toItem.Admitted limit →
      ∃ d, SortClause.decode limit c.encode = .ok d ∧ d.agrees c = true ∧
        d.fingerprint = c.fingerprint ∧ d.display = c.display) ∧
    (∀ f : Fingerprint, f.toItem.Admitted limit → Fingerprint.decode limit f.encode = .ok f) ∧
    ∀ e : ErrorReport, e.toItem.Admitted limit → ErrorReport.decode limit e.encode = .ok e := by
  refine ⟨?_, ?_, ?_, ?_, ?_, ?_, ?_, ?_, ?_, ?_⟩
  · intro p hmade h
    exact ⟨p.unresolved, Predicate.decode_encode (allCanonical_of_made hmade) h,
      p.agrees_unresolved, p.fingerprint_unresolved, p.display_unresolved⟩
  · intro c hmade h
    exact ⟨_, Comparison.decode_encode (allCanonical_of_made hmade) h,
      c.toPredicate.agrees_unresolved, c.toPredicate.fingerprint_unresolved,
      c.toPredicate.display_unresolved⟩
  · intro t h
    exact ⟨t.unresolved, Term.decode_encode h, t.agrees_unresolved, t.fingerprint_unresolved,
      t.display_unresolved⟩
  · intro o h
    exact ⟨o.unresolved, Operand.decode_encode h, o.agrees_unresolved, o.display_unresolved⟩
  · intro v h
    exact decodeBytes_render v.writable_toItem h (v.asValue_toItem h.nesting_lt)
  · intro d h
    exact decodeBytes_render (writable_date d) h (asDate_toItem d)
  · intro c h
    exact ⟨_, SetClause.decode_encode h, Chain.agrees_normal SetValue.agrees_unresolved c,
      c.fingerprint_normal, c.display_normal⟩
  · intro c h
    exact ⟨_, SortClause.decode_encode h, Chain.agrees_normal (fun d => decide_eq_true rfl) c,
      c.fingerprint_normal, c.display_normal⟩
  · intro f h
    exact decodeBytes_render f.writable_toItem h f.asFingerprint_toItem
  · intro e h
    exact decodeBytes_render e.writable_toItem h e.asErrorReport_toItem

/-- A comparison with a text under a connective, in the filter of a subquery, is decoded without the
field that its member carried, and a set clause of a number that fits 16 bits is decoded too. -/
theorem decode_encode_agrees_subquery :
    let name : Term := .member ⟨"pet", "name", some ⟨"name", .text, false⟩⟩
    let pattern : Comparison := ⟨name, .like, .value (.text "a*"), true⟩
    let p : Predicate := .subquery (.unary .length name [.literal (.int (-3)) true])
      (.predicate (.solo .not pattern.toPredicate)) false
    let oneHalf : Finite .double := ⟨⟨false, 0x3fe0000000000000, by decide⟩, by decide, by decide⟩
    let c : SetClause := .link (.start ⟨"pet", "age", none⟩ (.operand name)) ⟨"pet", "size", none⟩
      (.value (.float64 oneHalf))
    (∀ d ∈ p.comparisons, d.Made) ∧ p.toItem.Admitted 1024 ∧ c.toItem.Admitted 1024 ∧
      (∃ q, Predicate.decode 1024 p.encode = .ok q ∧ q.agrees p = true ∧
        q.fingerprint = p.fingerprint ∧ q.display = p.display) ∧
      ∃ d, SetClause.decode 1024 c.encode = .ok d ∧ d.agrees c = true ∧
        d.fingerprint = c.fingerprint ∧ d.display = c.display := by
  intro name pattern p oneHalf c
  have hpattern : Comparison.withValue name .equal (.text "a*") '*' =
      .ok ⟨name, .like, .value (.text "a*"), false⟩ := rfl
  have hunder := Comparison.MadeUnder.value true hpattern
  have hmade : ∀ d ∈ p.comparisons, d.Made := by
    intro d hd
    rw [List.mem_singleton.mp hd]
    exact ⟨'*', hunder⟩
  have hp : p.toItem.Admitted 1024 := ⟨by decide, by decide +kernel, by decide⟩
  have hc : c.toItem.Admitted 1024 := ⟨by decide, by decide +kernel, by decide +kernel⟩
  exact ⟨hmade, hp, hc, (decode_encode_agrees 1024).1 p hmade hp,
    (decode_encode_agrees 1024).2.2.2.2.2.2.1 c hc⟩

end RowFilter
