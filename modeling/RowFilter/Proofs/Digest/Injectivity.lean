import RowFilter.Digest.Fingerprint
import RowFilter.Proofs.Digest.Trees

/-!
# What is digested determines the tree

Fingerprints and structural hashes are digests of a domain name followed by a stream. This module
adds the streams of clauses to those of trees, and the names of the domains in front: the digested
bytes of two trees or clauses are equal exactly if both are of one sort and agree
(`Digestible.digested_eq_iff`). The four fingerprints and the two structural hashes are digests of
these bytes (`digested_eq_iff_agrees`). Nothing is said about the digests themselves.

A clause is read as the list of its entries, of which the stream writes the number first.
-/

namespace RowFilter

open ByteStream

/-! ### Chains -/

namespace Chain

variable {α : Type}

/-- The entries of a chain, without the fields that member references carry and with the payloads
in a normal form. -/
def normalEntries (norm : α → α) (c : Chain α) : List (MemberRef × α) :=
  c.entries.map fun e => (e.1.unresolved, norm e.2)

@[simp]
theorem normalEntries_start (norm : α → α) (ref : MemberRef) (x : α) :
    (start ref x).normalEntries norm = [(ref.unresolved, norm x)] := rfl

@[simp]
theorem normalEntries_link (norm : α → α) (c : Chain α) (ref : MemberRef) (x : α) :
    (link c ref x).normalEntries norm = c.normalEntries norm ++ [(ref.unresolved, norm x)] := by
  simp [normalEntries]

/-- A chain has at least one entry. -/
theorem normalEntries_ne_nil (norm : α → α) (c : Chain α) : c.normalEntries norm ≠ [] := by
  cases c <;> simp

/-- Chains agree exactly if they have the same entries in normal form. -/
theorem agrees_iff {same : α → α → Bool} {norm : α → α}
    (hsame : ∀ x y, same x y = true ↔ norm x = norm y) (c d : Chain α) :
    c.agrees same d = true ↔ c.normalEntries norm = d.normalEntries norm := by
  induction c generalizing d with
  | start a x =>
    cases d with
    | start b y => simp [agrees, MemberRef.agrees_iff, hsame]
    | link d b y =>
      have hne := normalEntries_ne_nil norm d
      simp [agrees, List.cons_eq_append_iff, hne]
  | link c a x ih =>
    cases d with
    | start b y =>
      have hne := normalEntries_ne_nil norm c
      simp [agrees, List.append_eq_cons_iff, hne]
    | link d b y =>
      -- both lists end in one entry, so they split in front of it
      simp [agrees, ih d, MemberRef.agrees_iff, hsame, List.append_singleton_inj, and_assoc]

/-- The lengths in a chain fit the bytes that they are written in. -/
def LengthsFit (fits : α → Prop) (c : Chain α) : Prop :=
  c.entries.length < lengthLimit ∧ ∀ e ∈ c.entries, e.1.LengthsFit ∧ fits e.2

/-- A stream shows a chain by its entries in normal form. -/
theorem streamWith_eq_normal {payload : α → List UInt8} {norm : α → α}
    (hnorm : ∀ x, payload (norm x) = payload x) (tag : UInt8) (c : Chain α) :
    c.streamWith tag payload =
      tag :: ofLength (c.normalEntries norm).length ++
        (c.normalEntries norm).flatMap fun e => ofMember e.1 ++ payload e.2 := by
  simp [streamWith, normalEntries, List.flatMap_map, hnorm, ofMember, MemberRef.unresolved,
    MemberRef.named]

section

variable {fits : α → Prop} {payload : α → List UInt8} {norm : α → α}
  (hsplit : ∀ (x y : α) {xs ys : List UInt8}, fits x → fits y →
    payload x ++ xs = payload y ++ ys → norm x = norm y ∧ xs = ys)

include hsplit

/-- Entries of a known number are determined by their streams. -/
theorem map_normal_eq_of_flatMap_eq : ∀ (es fs : List (MemberRef × α)),
    (∀ e ∈ es, e.1.LengthsFit ∧ fits e.2) → (∀ e ∈ fs, e.1.LengthsFit ∧ fits e.2) →
    es.length = fs.length →
    es.flatMap (fun e => ofMember e.1 ++ payload e.2) =
      fs.flatMap (fun e => ofMember e.1 ++ payload e.2) →
    es.map (fun e => (e.1.unresolved, norm e.2)) = fs.map fun e => (e.1.unresolved, norm e.2)
  | [], [], _, _, _, _ => rfl
  | e :: es, f :: fs, hes, hfs, hlength, h => by
    obtain ⟨⟨heRef, hePayload⟩, hes⟩ := List.forall_mem_cons.mp hes
    obtain ⟨⟨hfRef, hfPayload⟩, hfs⟩ := List.forall_mem_cons.mp hfs
    rw [List.flatMap_cons, List.flatMap_cons, List.append_assoc, List.append_assoc] at h
    obtain ⟨href, h⟩ := ofMember_append_inj heRef hfRef h
    obtain ⟨hpayload, h⟩ := hsplit e.2 f.2 hePayload hfPayload h
    have htail := map_normal_eq_of_flatMap_eq es fs hes hfs (Nat.succ.inj hlength) h
    rw [List.map_cons, List.map_cons, href, hpayload, htail]

/-- Chains have the same stream under a tag exactly if they agree. -/
theorem streamWith_eq_iff {same : α → α → Bool} (hsame : ∀ x y, same x y = true ↔ norm x = norm y)
    (hnorm : ∀ x, payload (norm x) = payload x) (tag : UInt8) {c d : Chain α}
    (hc : c.LengthsFit fits) (hd : d.LengthsFit fits) :
    c.streamWith tag payload = d.streamWith tag payload ↔ c.agrees same d = true := by
  rw [agrees_iff hsame]
  constructor
  · intro h
    obtain ⟨hlength, hentries⟩ := ofLength_append_inj hc.1 hd.1 (List.cons.inj h).2
    exact map_normal_eq_of_flatMap_eq hsplit c.entries d.entries hc.2 hd.2 hlength hentries
  · intro h
    rw [streamWith_eq_normal hnorm, streamWith_eq_normal hnorm, h]

end

end Chain

/-! ### Clauses -/

namespace SetValue

/-- A new value without the fields that its member references carry. -/
def unresolved : SetValue → SetValue
  | value v => value v
  | operand t => operand t.unresolved

/-- New values agree exactly if they have the same unresolved form. -/
theorem agrees_iff (x y : SetValue) : x.agrees y = true ↔ x.unresolved = y.unresolved := by
  cases x <;> cases y <;> simp [agrees, unresolved, Term.agrees_iff]

/-- The lengths in a new value fit the bytes that they are written in. -/
def LengthsFit : SetValue → Prop
  | value v => v.LengthsFit
  | operand t => t.LengthsFit

/-- The fields that member references carry do not appear in the stream of a new value. -/
theorem stream_unresolved (x : SetValue) : x.unresolved.stream = x.stream := by
  cases x <;> simp [unresolved, stream]

/-- A new value can be split off the front. -/
theorem stream_append_inj (x y : SetValue) {xs ys : List UInt8} (hx : x.LengthsFit)
    (hy : y.LengthsFit) (h : x.stream ++ xs = y.stream ++ ys) :
    x.unresolved = y.unresolved ∧ xs = ys := by
  cases x with
  | value v =>
    cases y with
    | value w =>
      simp only [stream, List.cons_append, List.cons.injEq, true_and] at h
      obtain ⟨rfl, hrest⟩ := Value.stream_append_inj v w hx hy h
      exact ⟨rfl, hrest⟩
    | operand _ => simp [stream] at h
  | operand t =>
    cases y with
    | value _ => simp [stream] at h
    | operand u =>
      simp only [stream, List.cons_append, List.cons.injEq, true_and] at h
      obtain ⟨hterm, hrest⟩ := Term.stream_append_inj t u hx hy h
      exact ⟨congrArg operand hterm, hrest⟩

end SetValue

/-- The lengths in a set clause fit the bytes that they are written in. -/
def SetClause.LengthsFit (c : SetClause) : Prop := Chain.LengthsFit SetValue.LengthsFit c

/-- Set clauses have the same stream exactly if they agree. -/
theorem SetClause.stream_eq_iff {c d : SetClause} (hc : c.LengthsFit) (hd : d.LengthsFit) :
    c.stream = d.stream ↔ c.agrees d = true :=
  Chain.streamWith_eq_iff (fun x y => SetValue.stream_append_inj x y) SetValue.agrees_iff
    SetValue.stream_unresolved 0x40 hc hd

/-- A direction can be split off the front. -/
theorem Direction.tag_append_inj (x y : Direction) {xs ys : List UInt8}
    (h : [x.tag] ++ xs = [y.tag] ++ ys) : x = y ∧ xs = ys := by
  cases x <;> cases y <;> simp_all [Direction.tag]

/-- The lengths in a sort clause fit the bytes that they are written in. -/
def SortClause.LengthsFit (c : SortClause) : Prop := Chain.LengthsFit (fun _ => True) c

/-- Sort clauses have the same stream exactly if they agree. -/
theorem SortClause.stream_eq_iff {c d : SortClause} (hc : c.LengthsFit) (hd : d.LengthsFit) :
    c.stream = d.stream ↔ c.agrees d = true := by
  have hsame : ∀ x y : Direction, decide (x = y) = true ↔ id x = id y := by simp
  exact Chain.streamWith_eq_iff (fun x y _ _ _ _ => Direction.tag_append_inj x y) hsame
    (fun _ => rfl) 0x41 hc hd

/-! ### Domains -/

/-- The first two bytes of a name tell the domains apart. -/
theorem Domain.name_take_injective {d e : Domain}
    (h : d.name.toUTF8.toList.take 2 = e.name.toUTF8.toList.take 2) : d = e := by
  cases d <;> cases e <;> first | rfl | exact absurd h (by decide +kernel)

/-- Sequences of bytes after names of domains are equal only if the domains are. -/
theorem Domain.eq_of_stream_eq {d e : Domain} {xs ys : List UInt8}
    (h : d.stream xs = e.stream ys) : d = e := by
  have hprefix : ∀ (d : Domain) (xs : List UInt8),
      (d.stream xs).take 2 = d.name.toUTF8.toList.take 2 := by
    intro d xs
    -- a name has more than two bytes, so what follows it is not reached
    rw [Domain.stream, List.take_append_of_le_length]
    cases d <;> decide +kernel
  apply Domain.name_take_injective
  rw [← hprefix d xs, ← hprefix e ys, h]

/-! ### What is digested -/

namespace Digestible

/-- Two trees or clauses are of one sort, and equal up to the fields that member references carry. -/
def agrees : Digestible → Digestible → Bool
  | predicate p, predicate q => p.agrees q
  | term t, term u => t.agrees u
  | setClause c, setClause d => c.agrees d
  | sortClause c, sortClause d => c.agrees d
  | _, _ => false

/-- The lengths in a tree or a clause fit the bytes that they are written in. -/
def LengthsFit : Digestible → Prop
  | predicate p => p.LengthsFit
  | term t => t.LengthsFit
  | setClause c => c.LengthsFit
  | sortClause c => c.LengthsFit

variable {x y : Digestible}

/-- What agrees is of one domain. -/
theorem domain_eq_of_agrees (h : x.agrees y = true) : x.domain = y.domain := by
  cases x <;> cases y <;> first | rfl | cases h

/-- Trees or clauses of one domain have the same stream exactly if they agree. -/
theorem stream_eq_iff (hx : x.LengthsFit) (hy : y.LengthsFit) (hdomain : x.domain = y.domain) :
    x.stream = y.stream ↔ x.agrees y = true := by
  cases x with
  | predicate p =>
    cases y with
    | predicate q => exact Predicate.stream_eq_iff hx hy
    | _ => cases hdomain
  | term t =>
    cases y with
    | term u => exact Term.stream_eq_iff hx hy
    | _ => cases hdomain
  | setClause c =>
    cases y with
    | setClause d => exact SetClause.stream_eq_iff hx hy
    | _ => cases hdomain
  | sortClause c =>
    cases y with
    | sortClause d => exact SortClause.stream_eq_iff hx hy
    | _ => cases hdomain

/-- The digested bytes of different domains are different. -/
theorem digested_ne (h : x.domain ≠ y.domain) : x.digested ≠ y.digested :=
  fun hdigested => h (Domain.eq_of_stream_eq hdigested)

/-- The digested bytes are equal exactly for trees or clauses that agree. -/
theorem digested_eq_iff (hx : x.LengthsFit) (hy : y.LengthsFit) :
    x.digested = y.digested ↔ x.agrees y = true := by
  constructor
  · intro h
    have hdomain : x.domain = y.domain := Domain.eq_of_stream_eq h
    -- behind the name of the one domain stand the two streams
    rw [digested, digested, hdomain] at h
    exact (stream_eq_iff hx hy hdomain).mp (List.append_cancel_left h)
  · intro h
    have hdomain := domain_eq_of_agrees h
    rw [digested, digested, hdomain, (stream_eq_iff hx hy hdomain).mpr h]

end Digestible

/-- What is digested determines what it stands for. The fingerprints of predicates, terms, set
clauses and sort clauses, and the structural hashes of predicates and terms, are digests of the
stream after the name of the domain. Two of one sort have the same stream exactly if they agree,
provided that their lengths fit the eight bytes that a stream has for them. Two of any sorts have
the same digested bytes exactly if they agree, which only two of one sort can, and what is of
different domains never has the same digested bytes, whatever its lengths. -/
theorem digested_eq_iff_agrees :
    (∀ p : Predicate,
      (Digestible.predicate p).digested = "criteria:v1".toUTF8.toList ++ p.stream ∧
      p.fingerprint.bytes = Sha256.digest (Digestible.predicate p).digested ∧
      p.structuralHash = Xxh3.hash (Digestible.predicate p).digested) ∧
    (∀ t : Term,
      (Digestible.term t).digested = "operation:v1".toUTF8.toList ++ t.stream ∧
      t.fingerprint.bytes = Sha256.digest (Digestible.term t).digested ∧
      t.structuralHash = Xxh3.hash (Digestible.term t).digested) ∧
    (∀ c : SetClause,
      (Digestible.setClause c).digested = "name_value:v1".toUTF8.toList ++ c.stream ∧
      c.fingerprint.bytes = Sha256.digest (Digestible.setClause c).digested) ∧
    (∀ c : SortClause,
      (Digestible.sortClause c).digested = "order_by:v1".toUTF8.toList ++ c.stream ∧
      c.fingerprint.bytes = Sha256.digest (Digestible.sortClause c).digested) ∧
    (∀ p q : Predicate, p.LengthsFit → q.LengthsFit →
      (p.stream = q.stream ↔ p.agrees q = true)) ∧
    (∀ t u : Term, t.LengthsFit → u.LengthsFit → (t.stream = u.stream ↔ t.agrees u = true)) ∧
    (∀ c d : SetClause, c.LengthsFit → d.LengthsFit →
      (c.stream = d.stream ↔ c.agrees d = true)) ∧
    (∀ c d : SortClause, c.LengthsFit → d.LengthsFit →
      (c.stream = d.stream ↔ c.agrees d = true)) ∧
    (∀ x y : Digestible, x.LengthsFit → y.LengthsFit →
      (x.digested = y.digested ↔ x.agrees y = true)) ∧
    ∀ x y : Digestible, x.domain ≠ y.domain → x.digested ≠ y.digested := by
  refine ⟨fun p => ⟨rfl, rfl, rfl⟩, fun t => ⟨rfl, rfl, rfl⟩, fun c => ⟨rfl, rfl⟩,
    fun c => ⟨rfl, rfl⟩, ?_⟩
  exact ⟨fun _ _ => Predicate.stream_eq_iff, fun _ _ => Term.stream_eq_iff,
    fun _ _ => SetClause.stream_eq_iff, fun _ _ => SortClause.stream_eq_iff,
    fun _ _ => Digestible.digested_eq_iff, fun _ _ => Digestible.digested_ne⟩

/-- A membership in a list of texts has the digested bytes of the same membership whose member
carries its field, and neither those of the membership with one text less nor those of the member by
itself. -/
theorem digested_eq_iff_agrees_isIn :
    let member (field? : Option Field) : Term := .member ⟨"t", "tags", field?⟩
    let isIn (t : Term) (texts : List String) : Predicate :=
      .comparison t .isIn (.value (.list (texts.map .text))) false
    let field : Field := ⟨"tags", .text, true⟩
    let x : Digestible := .predicate (isIn (member none) ["a", ""])
    x.digested = (Digestible.predicate (isIn (member (some field)) ["a", ""])).digested ∧
      x.digested ≠ (Digestible.predicate (isIn (member none) ["a"])).digested ∧
      x.digested ≠ (Digestible.term (member none)).digested ∧
      (isIn (member none) ["a", ""]).stream = (isIn (member (some field)) ["a", ""]).stream ∧
      (isIn (member none) ["a", ""]).fingerprint.bytes = Sha256.digest x.digested := by
  intro member isIn field x
  obtain ⟨hpredicate, -, -, -, hstream, -, -, -, hdigested, hseparate⟩ := digested_eq_iff_agrees
  have hfit : ∀ field?, ∀ texts ∈ [["a", ""], ["a"]], (isIn (member field?) texts).LengthsFit := by
    intro field? texts htexts
    simp only [List.mem_cons, List.not_mem_nil, or_false] at htexts
    rcases htexts with rfl | rfl
    all_goals
      simp only [isIn, member, Predicate.LengthsFit, Term.LengthsFit, MemberRef.LengthsFit,
        RightSide.LengthsFit, List.map, Value.LengthsFit, Value.AllLengthsFit]
      decide
  have hnone := hfit none _ List.mem_cons_self
  have hsome := hfit (some field) _ List.mem_cons_self
  have hshort := hfit none _ (List.mem_cons_of_mem _ List.mem_cons_self)
  have hagrees : (isIn (member none) ["a", ""]).agrees (isIn (member (some field)) ["a", ""]) =
      true := by decide +kernel
  have hcarried := hdigested x (.predicate (isIn (member (some field)) ["a", ""])) hnone hsome
  have hless := hdigested x (.predicate (isIn (member none) ["a"])) hnone hshort
  refine ⟨hcarried.mpr hagrees, fun h => ?_, hseparate _ _ nofun,
    (hstream _ _ hnone hsome).mpr hagrees, (hpredicate _).2.1⟩
  exact absurd (hless.mp h) (by decide +kernel)

end RowFilter
