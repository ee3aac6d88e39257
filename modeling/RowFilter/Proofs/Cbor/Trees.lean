import RowFilter.Proofs.Canonical.Construction
import RowFilter.Proofs.Cbor.Values
import RowFilter.Proofs.Digest.Unresolved

/-!
# Trees in bytes

The item of a tree is read as the tree without the fields that its member references carry. For each
sort of tree there is a lemma that its item can be written, and one that its item is read, on any
bound of nesting that the nesting of the item stays below. A predicate is read only if its
comparisons pass the check of the decoder, so its lemma asks for comparisons of canonical shape.
-/

namespace RowFilter

open Item

/-! ### Terms -/

/-- The item of a member reference can be written. -/
theorem MemberRef.writable_toItem (ref : MemberRef) : ref.toItem.Writable :=
  writable_fields (by decide : 2 ≠ 1) ⟨trivial, trivial, trivial⟩

/-- The item of a member reference is read as the reference without its field. -/
theorem MemberRef.asMemberRef_toItem (ref : MemberRef) :
    asMemberRef ref.toItem = .ok ref.unresolved := by
  have howner : asText (.text ref.owner) = .ok ref.owner := rfl
  have hname : asText (.text ref.name) = .ok ref.name := rfl
  rw [asMemberRef, MemberRef.toItem, record2_fields (by decide) howner hname]
  rfl

/-- A sign is read back from its label. -/
theorem asSign_text (s : Sign) : asSign (.text s.label) = .ok s :=
  asLabel_text (by decide) s.mem_all

/-- A comparator is read back from its label. -/
theorem asComparator_text (c : Comparator) : asComparator (.text c.label) = .ok c :=
  asLabel_text (by decide) c.mem_all

/-- A connective is read back from its label. -/
theorem asConnective_text (op : Connective) : asConnective (.text op.label) = .ok op :=
  asLabel_text (by decide) op.mem_all

/-- A direction is read back from its label. -/
theorem asDirection_text (d : Direction) : asDirection (.text d.label) = .ok d :=
  asLabel_text (by decide) d.mem_all

mutual

/-- The item of a term can be written. -/
theorem Term.writable_toItem : ∀ t : Term, t.toItem.Writable
  | .member ref => writable_variant _ ref.writable_toItem
  | .literal v _ =>
    writable_variant _ <| writable_fields (by decide : 2 ≠ 1) ⟨v.writable_toItem, trivial, trivial⟩
  | .binary l _ r =>
    writable_variant _ <| writable_fields (by decide : 3 ≠ 1)
      ⟨l.writable_toItem, trivial, r.writable_toItem, trivial⟩
  | .unary _ t args =>
    writable_variant _ <| writable_fields (by decide : 3 ≠ 1)
      ⟨trivial, t.writable_toItem, Term.allWritable_toItems args, trivial⟩

/-- The item of an operand can be written. -/
theorem Operand.writable_toItem : ∀ o : Operand, o.toItem.Writable
  | .term t => writable_variant _ t.writable_toItem
  | .value v => writable_variant _ v.writable_toItem

/-- The items of terms can be written. -/
theorem Term.allWritable_toItems : ∀ ts : List Term, AllWritable (Term.toItems ts)
  | [] => trivial
  | t :: ts => ⟨t.writable_toItem, Term.allWritable_toItems ts⟩

end

mutual

/-- The item of a term is read as the term without the fields that its references carry. -/
theorem Term.asTerm_toItem : ∀ (t : Term) {n : Nat}, t.toItem.nesting < n →
    asTerm n t.toItem = .ok t.unresolved := by
  intro t n hn
  obtain ⟨n, rfl⟩ : ∃ k, n = k + 1 := ⟨n - 1, by omega⟩
  rw [asTerm]
  match t with
  | .member ref =>
    rw [Term.toItem, asVariant_variant (n := 0) rfl rfl, ref.asMemberRef_toItem]
    rfl
  | .literal v assigned =>
    simp only [Term.toItem, nesting_variant, nesting_fields, List.map, nestingAll] at hn
    have hassigned : asBool (.bool assigned) = .ok assigned := rfl
    rw [Term.toItem, asVariant_variant (n := 1) rfl rfl,
      record2_fields (by decide) (v.asValue_toItem (by omega)) hassigned]
    rfl
  | .binary l s r =>
    simp only [Term.toItem, nesting_variant, nesting_fields, List.map, nestingAll] at hn
    rw [Term.toItem, asVariant_variant (n := 2) rfl rfl,
      record3_fields (by decide) (l.asOperand_toItem (by omega)) (asSign_text s)
        (r.asOperand_toItem (by omega))]
    rfl
  | .unary s t args =>
    simp only [Term.toItem, nesting_variant, nesting_fields, List.map, nestingAll, nesting] at hn
    have hargs : (do (← (Item.array (Term.toItems args)).asArray).mapM (asTerm n)) =
        .ok (Term.unresolvedAll args) := Term.mapM_toItems args (by omega)
    rw [Term.toItem, asVariant_variant (n := 3) rfl rfl,
      record3_fields (by decide) (asSign_text s) (t.asTerm_toItem (by omega)) hargs]
    rfl

/-- The item of an operand is read as the operand without the fields that its references carry. -/
theorem Operand.asOperand_toItem : ∀ (o : Operand) {n : Nat}, o.toItem.nesting < n →
    asOperand n o.toItem = .ok o.unresolved := by
  intro o n hn
  obtain ⟨n, rfl⟩ : ∃ k, n = k + 1 := ⟨n - 1, by omega⟩
  rw [asOperand]
  match o with
  | .term t =>
    rw [Operand.toItem, nesting_variant] at hn
    rw [Operand.toItem, asVariant_variant (n := 0) rfl rfl, t.asTerm_toItem (by omega)]
    rfl
  | .value v =>
    rw [Operand.toItem, nesting_variant] at hn
    rw [Operand.toItem, asVariant_variant (n := 1) rfl rfl, v.asValue_toItem (by omega)]
    rfl

/-- The items of terms are read as the terms without the fields that their references carry. -/
theorem Term.mapM_toItems : ∀ (ts : List Term) {n : Nat}, nestingAll (Term.toItems ts) < n →
    (Term.toItems ts).mapM (asTerm n) = .ok (Term.unresolvedAll ts)
  | [], _, _ => rfl
  | t :: ts, n, hn => by
    rw [Term.toItems, nestingAll] at hn
    rw [Term.toItems, List.mapM_cons, t.asTerm_toItem (by omega), Term.mapM_toItems ts (by omega)]
    rfl

end

/-! ### Predicates -/

mutual

/-- The item of a predicate can be written. -/
theorem Predicate.writable_toItem : ∀ p : Predicate, p.toItem.Writable
  | .joined p _ q =>
    writable_variant _ <| writable_fields (by decide : 3 ≠ 1)
      ⟨p.writable_toItem, trivial, q.writable_toItem, trivial⟩
  | .solo _ p =>
    writable_variant _ <| writable_fields (by decide : 3 ≠ 1)
      ⟨trivial, trivial, p.writable_toItem, trivial⟩
  | .comparison l _ r _ =>
    writable_variant _ <| writable_fields (by decide : 4 ≠ 1)
      ⟨l.writable_toItem, trivial, r.writable_toItem, trivial, trivial⟩
  | .subquery o x _ =>
    writable_variant _ <| writable_fields (by decide : 3 ≠ 1)
      ⟨o.writable_toItem, x.writable_toItem, trivial, trivial⟩
  | .shortCircuit _ => writable_variant _ trivial

/-- The item of a right side can be written. -/
theorem RightSide.writable_toItem : ∀ r : RightSide, r.toItem.Writable
  | .empty => trivial
  | .operand t => writable_variant _ t.writable_toItem
  | .predicate p => writable_variant _ p.writable_toItem
  | .value v => writable_variant _ v.writable_toItem

/-- The item of an inner side can be written. -/
theorem Inner.writable_toItem : ∀ x : Inner, x.toItem.Writable
  | .foreignKey t => writable_variant _ t.writable_toItem
  | .predicate p => writable_variant _ p.writable_toItem

end

/-- Whether a shape is canonical does not depend on the fields that member references carry. -/
theorem Comparison.isCanonical_unresolved (c : Comparator) (r : RightSide) :
    isCanonical c r.unresolved = isCanonical c r := by
  cases r with
  | empty => rfl
  | operand t => cases t <;> rfl
  | predicate p => cases p <;> rfl
  | value v => rfl

/-- The item of a predicate is not null, so an optional predicate is there. -/
theorem asOption_predicate {α : Type} (decode : Item → Decoded α) (p : Predicate) :
    asOption decode p.toItem = some <$> decode p.toItem := by
  cases p <;> rfl

/-- A comparison of canonical shape is read once its sides are. -/
theorem asComparison_comparisonItem {n : Nat} {l : Term} {r : RightSide} (c : Comparator)
    (ignoreCase : Bool) (hl : asTerm n l.toItem = .ok l.unresolved)
    (hr : asRightSide n r.toItem = .ok r.unresolved)
    (hcanonical : Comparison.isCanonical c r = true) :
    asComparison (n + 1) (comparisonItem l.toItem c r.toItem ignoreCase) =
      .ok ⟨l.unresolved, c, r.unresolved, ignoreCase⟩ := by
  have hignore : asBool (.bool ignoreCase) = .ok ignoreCase := rfl
  rw [asComparison, comparisonItem,
    record4_fields (by decide) hl (asComparator_text c) hr hignore]
  rw [← Comparison.isCanonical_unresolved] at hcanonical
  exact if_pos hcanonical

mutual

/-- The item of a predicate with canonical comparisons is read as the predicate without the fields
that its references carry. -/
theorem Predicate.asPredicate_toItem : ∀ (p : Predicate) {n : Nat}, AllCanonical p.comparisons →
    p.toItem.nesting < n → asPredicate n p.toItem = .ok p.unresolved := by
  intro p n hcanonical hn
  obtain ⟨n, rfl⟩ : ∃ k, n = k + 1 := ⟨n - 1, by omega⟩
  rw [asPredicate]
  match p with
  | .joined p op q =>
    simp only [Predicate.toItem, nesting_variant, nesting_fields, List.map, nestingAll] at hn
    rw [Predicate.comparisons, AllCanonical, List.forall_mem_append] at hcanonical
    have hleft : asOption (asPredicate n) p.toItem = .ok (some p.unresolved) := by
      rw [asOption_predicate, p.asPredicate_toItem hcanonical.1 (by omega)]
      rfl
    rw [Predicate.toItem, asVariant_variant (n := 0) rfl rfl,
      optional3_fields (by decide) hleft (asConnective_text op)
        (q.asPredicate_toItem hcanonical.2 (by omega))]
    rfl
  | .solo op q =>
    simp only [Predicate.toItem, nesting_variant, nesting_fields, List.map, nestingAll] at hn
    have hleft : asOption (asPredicate n) .null = .ok none := rfl
    rw [Predicate.toItem, asVariant_variant (n := 0) rfl rfl,
      optional3_fields (by decide) hleft (asConnective_text op)
        (q.asPredicate_toItem hcanonical (by omega))]
    rfl
  | .comparison l c r ignoreCase =>
    simp only [Predicate.toItem, comparisonItem, nesting_variant, nesting_fields, List.map,
      nestingAll] at hn
    rw [Predicate.comparisons, AllCanonical, List.forall_mem_cons] at hcanonical
    -- the reader of a comparison is a level of its own
    obtain ⟨n, rfl⟩ : ∃ k, n = k + 1 := ⟨n - 1, by omega⟩
    rw [Predicate.toItem, asVariant_variant (n := 1) rfl rfl,
      asComparison_comparisonItem c ignoreCase (l.asTerm_toItem (by omega))
        (r.asRightSide_toItem hcanonical.2 (by omega)) hcanonical.1]
    rfl
  | .subquery o x negated =>
    simp only [Predicate.toItem, nesting_variant, nesting_fields, List.map, nestingAll] at hn
    have hnegated : asBool (.bool negated) = .ok negated := rfl
    rw [Predicate.toItem, asVariant_variant (n := 2) rfl rfl,
      record3_fields (by decide) (o.asTerm_toItem (by omega))
        (x.asInner_toItem hcanonical (by omega)) hnegated]
    rfl
  | .shortCircuit b =>
    rw [Predicate.toItem, asVariant_variant (n := 3) rfl rfl]
    rfl

/-- The item of a right side with canonical comparisons is read as the right side without the fields
that its references carry. -/
theorem RightSide.asRightSide_toItem : ∀ (r : RightSide) {n : Nat}, AllCanonical r.comparisons →
    r.toItem.nesting < n → asRightSide n r.toItem = .ok r.unresolved := by
  intro r n hcanonical hn
  obtain ⟨n, rfl⟩ : ∃ k, n = k + 1 := ⟨n - 1, by omega⟩
  rw [asRightSide]
  match r with
  | .empty => exact asVariant_text (n := 0) rfl rfl
  | .operand t =>
    rw [RightSide.toItem, nesting_variant] at hn
    rw [RightSide.toItem, asVariant_variant (n := 1) rfl rfl, t.asTerm_toItem (by omega)]
    rfl
  | .predicate p =>
    rw [RightSide.toItem, nesting_variant] at hn
    rw [RightSide.toItem, asVariant_variant (n := 2) rfl rfl,
      p.asPredicate_toItem hcanonical (by omega)]
    rfl
  | .value v =>
    rw [RightSide.toItem, nesting_variant] at hn
    rw [RightSide.toItem, asVariant_variant (n := 3) rfl rfl, v.asValue_toItem (by omega)]
    rfl

/-- The item of an inner side with canonical comparisons is read as the inner side without the
fields that its references carry. -/
theorem Inner.asInner_toItem : ∀ (x : Inner) {n : Nat}, AllCanonical x.comparisons →
    x.toItem.nesting < n → asInner n x.toItem = .ok x.unresolved := by
  intro x n hcanonical hn
  obtain ⟨n, rfl⟩ : ∃ k, n = k + 1 := ⟨n - 1, by omega⟩
  rw [asInner]
  match x with
  | .foreignKey t =>
    rw [Inner.toItem, nesting_variant] at hn
    rw [Inner.toItem, asVariant_variant (n := 0) rfl rfl, t.asTerm_toItem (by omega)]
    rfl
  | .predicate p =>
    rw [Inner.toItem, nesting_variant] at hn
    rw [Inner.toItem, asVariant_variant (n := 1) rfl rfl,
      p.asPredicate_toItem hcanonical (by omega)]
    rfl

end

/-! ### Clauses -/

/-- The item of a new value can be written. -/
theorem SetValue.writable_toItem : ∀ x : SetValue, x.toItem.Writable
  | .value v => writable_variant _ v.writable_toItem
  | .operand t => writable_variant _ t.writable_toItem

/-- The item of a new value is read as the value without the fields that its references carry. -/
theorem SetValue.asSetValue_toItem (x : SetValue) {n : Nat} (hn : x.toItem.nesting ≤ n) :
    asSetValue n x.toItem = .ok x.unresolved := by
  rw [asSetValue]
  cases x with
  | value v =>
    rw [SetValue.toItem, nesting_variant] at hn
    rw [SetValue.toItem, asVariant_variant (n := 0) rfl rfl, v.asValue_toItem (by omega)]
    rfl
  | operand t =>
    rw [SetValue.toItem, nesting_variant] at hn
    rw [SetValue.toItem, asVariant_variant (n := 1) rfl rfl, t.asTerm_toItem (by omega)]
    rfl

namespace Chain

variable {α : Type} {name : String} {payload : α → Item}

/-- The item of a chain can be written if the items of its payloads can. -/
theorem writable_toItem (hpayload : ∀ x, (payload x).Writable) :
    ∀ c : Chain α, (c.toItem name payload).Writable
  | start ref x =>
    writable_fields (by decide : 3 ≠ 1) ⟨ref.writable_toItem, hpayload x, trivial, trivial⟩
  | link c ref x =>
    writable_fields (by decide : 3 ≠ 1)
      ⟨ref.writable_toItem, hpayload x, c.writable_toItem hpayload, trivial⟩

/-- The item of a chain is not null, so an optional chain is there. -/
theorem asOption_toItem {β : Type} (decode : Item → Decoded β) (c : Chain α) :
    asOption decode (c.toItem name payload) = some <$> decode (c.toItem name payload) := by
  cases c <;> rfl

/-- The item of a chain is read entry by entry. -/
theorem asChain_toItem {decode : Item → Decoded α} {norm : α → α} {bound : Nat}
    (hnames : ["member", name, "prior"].Nodup)
    (hread : ∀ x, (payload x).nesting ≤ bound → decode (payload x) = .ok (norm x)) :
    ∀ (c : Chain α) {n : Nat}, (c.toItem name payload).nesting ≤ bound →
      (c.toItem name payload).nesting < n →
      asChain name decode n (c.toItem name payload) = .ok (c.normal norm) := by
  intro c
  -- only the level changes along the chain: payloads are all read on the bound of the whole chain
  induction c with
  | start ref x =>
    intro n hbound hn
    obtain ⟨n, rfl⟩ : ∃ k, n = k + 1 := ⟨n - 1, by omega⟩
    simp only [toItem, nesting_fields, List.map, nestingAll] at hbound
    have hprior : asOption (asChain name decode n) .null = .ok none := rfl
    rw [asChain, toItem, optional3_fields hnames ref.asMemberRef_toItem (hread x (by omega)) hprior]
    rfl
  | link c ref x ih =>
    intro n hbound hn
    obtain ⟨n, rfl⟩ : ∃ k, n = k + 1 := ⟨n - 1, by omega⟩
    simp only [toItem, nesting_fields, List.map, nestingAll] at hbound hn
    have hprior : asOption (asChain name decode n) (c.toItem name payload) =
        .ok (some (c.normal norm)) := by
      rw [asOption_toItem, ih (by omega) (by omega)]
      rfl
    rw [asChain, toItem, optional3_fields hnames ref.asMemberRef_toItem (hread x (by omega)) hprior]
    rfl

end Chain

/-! ### Fingerprints and reports -/

/-- The item of a fingerprint can be written. -/
theorem Fingerprint.writable_toItem (f : Fingerprint) : f.toItem.Writable := by
  refine allWritable_iff.mpr fun item hitem => ?_
  obtain ⟨b, -, rfl⟩ := List.mem_map.mp hitem
  have hbyte : b.toNat < 256 := b.toNat_lt
  change b.toNat < 256 ^ 8
  omega

/-- The item of a fingerprint is read as the fingerprint. -/
theorem Fingerprint.asFingerprint_toItem (f : Fingerprint) : asFingerprint f.toItem = .ok f := by
  have hlength : (f.bytes.map fun b => Item.unsigned b.toNat).length = 32 := by
    rw [List.length_map, f.length_bytes]
  have hread : (f.bytes.map fun b => Item.unsigned b.toNat).mapM asByte = .ok f.bytes :=
    mapM_map_eq_ok fun b _ => asByte_unsigned b
  have hitems : f.toItem.asArray = .ok (f.bytes.map fun b => Item.unsigned b.toNat) := rfl
  rw [asFingerprint, hitems]
  -- the reader looks at 32 items, and these are all
  change (List.mapM asByte (List.take 32 _) >>= fun bytes => _) = _
  rw [List.take_of_length_le (Nat.le_of_eq hlength), hread]
  exact dif_pos ⟨f.length_bytes, hlength⟩

/-- The item of a report can be written. -/
theorem ErrorReport.writable_toItem (e : ErrorReport) : e.toItem.Writable :=
  writable_fields (by decide : 3 ≠ 1) ⟨trivial, trivial, trivial, trivial⟩

/-- The item of a report is read as the report. -/
theorem ErrorReport.asErrorReport_toItem (e : ErrorReport) : asErrorReport e.toItem = .ok e := by
  have hkind : asLabel ErrorClass.all ErrorClass.label (.text e.category.label) = .ok e.category :=
    asLabel_text (by decide) (by cases e.category <;> decide)
  have horigin : asLabel ErrorOrigin.all ErrorOrigin.label (.text e.origin.label) = .ok e.origin :=
    asLabel_text (by decide) (by cases e.origin <;> decide)
  have hmessage : asText (.text e.message) = .ok e.message := rfl
  rw [asErrorReport, ErrorReport.toItem, record3_fields (by decide) hkind horigin hmessage]
  rfl

end RowFilter
