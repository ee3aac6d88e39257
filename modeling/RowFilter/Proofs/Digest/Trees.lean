import RowFilter.Proofs.Digest.Values

/-!
# Streams of trees

The streams of terms and predicates can be split off the front of any bytes, up to the fields that
member references carry. With nothing behind them this says that a stream determines its tree:
`Term.stream_eq_iff` and `Predicate.stream_eq_iff`.
-/

namespace RowFilter

open ByteStream

/-! ### Tags -/

/-- The tag of a sign is its position among all signs. -/
theorem Sign.all_getElem?_tag (s : Sign) : Sign.all[s.tag.toNat]? = some s := by
  cases s <;> rfl

/-- Signs have different tags. -/
theorem Sign.tag_injective {r s : Sign} (h : r.tag = s.tag) : r = s := by
  have hr := Sign.all_getElem?_tag r
  rw [h, Sign.all_getElem?_tag s] at hr
  exact (Option.some.inj hr).symm

/-- The tag of a comparator is its position among all comparators. -/
theorem Comparator.all_getElem?_tag (c : Comparator) :
    Comparator.all[c.tag.toNat]? = some c := by
  cases c <;> rfl

/-- Comparators have different tags. -/
theorem Comparator.tag_injective {c d : Comparator} (h : c.tag = d.tag) : c = d := by
  have hc := Comparator.all_getElem?_tag c
  rw [h, Comparator.all_getElem?_tag d] at hc
  exact (Option.some.inj hc).symm

/-- Connectives have different tags. -/
theorem Connective.tag_injective {c d : Connective} (h : c.tag = d.tag) : c = d := by
  cases c <;> cases d <;> first | rfl | exact absurd h (by decide)

/-! ### Terms -/

/-- The lengths in a member reference fit the bytes that they are written in. -/
def MemberRef.LengthsFit (ref : MemberRef) : Prop :=
  ref.owner.utf8ByteSize < lengthLimit ∧ ref.name.utf8ByteSize < lengthLimit

/-- A member reference can be split off the front. -/
theorem ByteStream.ofMember_append_inj {a b : MemberRef} {xs ys : List UInt8} (ha : a.LengthsFit)
    (hb : b.LengthsFit) (h : ofMember a ++ xs = ofMember b ++ ys) :
    a.unresolved = b.unresolved ∧ xs = ys := by
  rw [ofMember, ofMember, List.append_assoc, List.append_assoc] at h
  obtain ⟨howner, h⟩ := ofText_append_inj ha.1 hb.1 h
  obtain ⟨hname, hrest⟩ := ofText_append_inj ha.2 hb.2 h
  exact ⟨by rw [MemberRef.unresolved, MemberRef.unresolved, howner, hname], hrest⟩

mutual

/-- The lengths in a term fit the bytes that they are written in. -/
def Term.LengthsFit : Term → Prop
  | .member ref => ref.LengthsFit
  | .literal v _ => v.LengthsFit
  | .binary l _ r => l.LengthsFit ∧ r.LengthsFit
  | .unary _ t args => t.LengthsFit ∧ args.length < lengthLimit ∧ Term.AllLengthsFit args

/-- The lengths in an operand fit the bytes that they are written in. -/
def Operand.LengthsFit : Operand → Prop
  | .term t => t.LengthsFit
  | .value v => v.LengthsFit

/-- The lengths in all terms of a list fit the bytes that they are written in. -/
def Term.AllLengthsFit : List Term → Prop
  | [] => True
  | t :: ts => t.LengthsFit ∧ Term.AllLengthsFit ts

end

mutual

/-- A term can be split off the front. -/
theorem Term.stream_append_inj : ∀ (t u : Term) {xs ys : List UInt8}, t.LengthsFit →
    u.LengthsFit → t.stream ++ xs = u.stream ++ ys → t.unresolved = u.unresolved ∧ xs = ys
  | .member a, u, _, _, ha, hu, h => by
    cases u with
    | member b =>
      simp only [Term.stream, List.cons_append, List.cons.injEq, true_and] at h
      obtain ⟨href, hrest⟩ := ofMember_append_inj ha hu h
      exact ⟨congrArg Term.member href, hrest⟩
    -- terms of different shapes begin with different tags
    | _ => simp [Term.stream] at h
  | .literal v p, u, _, _, hv, hu, h => by
    cases u with
    | literal w q =>
      simp only [Term.stream, List.cons_append, List.append_assoc, List.cons.injEq,
        true_and] at h
      obtain ⟨rfl, hflag⟩ := Value.stream_append_inj v w hv hu h
      obtain ⟨rfl, hrest⟩ := ofBool_append_inj hflag
      exact ⟨rfl, hrest⟩
    | _ => simp [Term.stream] at h
  | .binary l s r, u, _, _, ht, hu, h => by
    cases u with
    | binary l' s' r' =>
      simp only [Term.stream, List.cons_append, List.append_assoc, List.cons.injEq,
        true_and] at h
      obtain ⟨hl, h⟩ := Operand.stream_append_inj l l' ht.1 hu.1 h
      obtain ⟨hs, h⟩ := List.cons.inj h
      obtain ⟨hr, hrest⟩ := Operand.stream_append_inj r r' ht.2 hu.2 h
      exact ⟨by rw [Term.unresolved, Term.unresolved, hl, hr, Sign.tag_injective hs], hrest⟩
    | _ => simp [Term.stream] at h
  | .unary s t args, u, _, _, ht, hu, h => by
    cases u with
    | unary s' t' args' =>
      simp only [Term.stream, List.cons_append, List.append_assoc, List.cons.injEq,
        true_and] at h
      obtain ⟨hs, h⟩ := h
      obtain ⟨hoperand, h⟩ := Term.stream_append_inj t t' ht.1 hu.1 h
      obtain ⟨hlength, h⟩ := ofLength_append_inj ht.2.1 hu.2.1 h
      obtain ⟨hargs, hrest⟩ := Term.streamArgs_append_inj args args' ht.2.2 hu.2.2 hlength h
      exact ⟨by rw [Term.unresolved, Term.unresolved, hoperand, hargs, Sign.tag_injective hs],
        hrest⟩
    | _ => simp [Term.stream] at h

/-- An operand can be split off the front. -/
theorem Operand.stream_append_inj : ∀ (a b : Operand) {xs ys : List UInt8}, a.LengthsFit →
    b.LengthsFit → a.stream ++ xs = b.stream ++ ys → a.unresolved = b.unresolved ∧ xs = ys
  | .term t, b, _, _, ht, hb, h => by
    cases b with
    | term u =>
      simp only [Operand.stream, List.cons_append, List.cons.injEq, true_and] at h
      obtain ⟨hterm, hrest⟩ := Term.stream_append_inj t u ht hb h
      exact ⟨congrArg Operand.term hterm, hrest⟩
    | value _ => simp [Operand.stream] at h
  | .value v, b, _, _, hv, hb, h => by
    cases b with
    | term _ => simp [Operand.stream] at h
    | value w =>
      simp only [Operand.stream, List.cons_append, List.cons.injEq, true_and] at h
      obtain ⟨rfl, hrest⟩ := Value.stream_append_inj v w hv hb h
      exact ⟨rfl, hrest⟩

/-- Arguments of a known number can be split off the front. -/
theorem Term.streamArgs_append_inj : ∀ (ts us : List Term) {xs ys : List UInt8},
    Term.AllLengthsFit ts → Term.AllLengthsFit us → ts.length = us.length →
    Term.streamArgs ts ++ xs = Term.streamArgs us ++ ys →
    Term.unresolvedAll ts = Term.unresolvedAll us ∧ xs = ys
  | [], [], _, _, _, _, _, h => ⟨rfl, h⟩
  | t :: ts, u :: us, _, _, ht, hu, hlength, h => by
    -- arguments have no end mark: that the numbers are equal makes the two lists end together
    simp only [Term.streamArgs, List.append_assoc] at h
    obtain ⟨hhead, h⟩ := Term.stream_append_inj t u ht.1 hu.1 h
    obtain ⟨htail, hrest⟩ :=
      Term.streamArgs_append_inj ts us ht.2 hu.2 (Nat.succ.inj hlength) h
    exact ⟨by rw [Term.unresolvedAll, Term.unresolvedAll, hhead, htail], hrest⟩

end

mutual

/-- The fields that member references carry do not appear in the stream of a term. -/
@[simp]
theorem Term.stream_unresolved : ∀ t : Term, t.unresolved.stream = t.stream
  | .member _ => rfl
  | .literal _ _ => rfl
  | .binary l _ r => by
    simp [Term.unresolved, Term.stream, Operand.stream_unresolved l, Operand.stream_unresolved r]
  | .unary _ t args => by
    simp [Term.unresolved, Term.stream, Term.stream_unresolved t, Term.streamArgs_unresolved args]

/-- The fields that member references carry do not appear in the stream of an operand. -/
@[simp]
theorem Operand.stream_unresolved : ∀ a : Operand, a.unresolved.stream = a.stream
  | .term t => by simp [Operand.unresolved, Operand.stream, Term.stream_unresolved t]
  | .value _ => rfl

/-- Dropping the fields of member references keeps the number of arguments and their streams. -/
theorem Term.streamArgs_unresolved : ∀ ts : List Term,
    (Term.unresolvedAll ts).length = ts.length ∧
      Term.streamArgs (Term.unresolvedAll ts) = Term.streamArgs ts
  | [] => ⟨rfl, rfl⟩
  | t :: ts => by
    simp [Term.unresolvedAll, Term.streamArgs, Term.stream_unresolved t,
      Term.streamArgs_unresolved ts]

end

/-- Terms have the same stream exactly if they agree. -/
theorem Term.stream_eq_iff {t u : Term} (ht : t.LengthsFit) (hu : u.LengthsFit) :
    t.stream = u.stream ↔ t.agrees u = true := by
  rw [Term.agrees_iff]
  constructor
  · intro h
    exact (Term.stream_append_inj t u ht hu (congrArg (· ++ []) h)).1
  · intro h
    rw [← Term.stream_unresolved t, h, Term.stream_unresolved]

/-! ### Predicates -/

mutual

/-- The lengths in a predicate fit the bytes that they are written in. -/
def Predicate.LengthsFit : Predicate → Prop
  | .joined p _ q => p.LengthsFit ∧ q.LengthsFit
  | .solo _ p => p.LengthsFit
  | .comparison l _ r _ => l.LengthsFit ∧ r.LengthsFit
  | .subquery o x _ => o.LengthsFit ∧ x.LengthsFit
  | .shortCircuit _ => True

/-- The lengths in a right side fit the bytes that they are written in. -/
def RightSide.LengthsFit : RightSide → Prop
  | .empty => True
  | .operand t => t.LengthsFit
  | .predicate p => p.LengthsFit
  | .value v => v.LengthsFit

/-- The lengths in an inner side fit the bytes that they are written in. -/
def Inner.LengthsFit : Inner → Prop
  | .foreignKey t => t.LengthsFit
  | .predicate p => p.LengthsFit

end

mutual

/-- A predicate can be split off the front. -/
theorem Predicate.stream_append_inj : ∀ (p q : Predicate) {xs ys : List UInt8}, p.LengthsFit →
    q.LengthsFit → p.stream ++ xs = q.stream ++ ys → p.unresolved = q.unresolved ∧ xs = ys
  | .joined p op r, q, _, _, hp, hq, h => by
    cases q with
    | joined p' op' r' =>
      simp only [Predicate.stream, List.cons_append, List.append_assoc, List.cons.injEq,
        true_and] at h
      obtain ⟨hop, h⟩ := h
      obtain ⟨hleft, h⟩ := Predicate.stream_append_inj p p' hp.1 hq.1 h
      obtain ⟨hright, hrest⟩ := Predicate.stream_append_inj r r' hp.2 hq.2 h
      exact ⟨by rw [Predicate.unresolved, Predicate.unresolved, hleft, hright,
        Connective.tag_injective hop], hrest⟩
    | _ => simp [Predicate.stream] at h
  | .solo op p, q, _, _, hp, hq, h => by
    cases q with
    | solo op' p' =>
      simp only [Predicate.stream, List.cons_append, List.cons.injEq, true_and] at h
      obtain ⟨hop, h⟩ := h
      obtain ⟨hright, hrest⟩ := Predicate.stream_append_inj p p' hp hq h
      exact ⟨by rw [Predicate.unresolved, Predicate.unresolved, hright,
        Connective.tag_injective hop], hrest⟩
    | _ => simp [Predicate.stream] at h
  | .comparison l c r i, q, _, _, hp, hq, h => by
    cases q with
    | comparison l' c' r' i' =>
      simp only [Predicate.stream, List.cons_append, List.append_assoc, List.cons.injEq,
        true_and] at h
      obtain ⟨hleft, h⟩ := Term.stream_append_inj l l' hp.1 hq.1 h
      obtain ⟨hc, h⟩ := List.cons.inj h
      obtain ⟨hright, h⟩ := RightSide.stream_append_inj r r' hp.2 hq.2 h
      obtain ⟨rfl, hrest⟩ := ofBool_append_inj h
      exact ⟨by rw [Predicate.unresolved, Predicate.unresolved, hleft, hright,
        Comparator.tag_injective hc], hrest⟩
    | _ => simp [Predicate.stream] at h
  | .subquery o x n, q, _, _, hp, hq, h => by
    cases q with
    | subquery o' x' n' =>
      simp only [Predicate.stream, List.cons_append, List.append_assoc, List.cons.injEq,
        true_and] at h
      obtain ⟨houter, h⟩ := Term.stream_append_inj o o' hp.1 hq.1 h
      obtain ⟨hinner, h⟩ := Inner.stream_append_inj x x' hp.2 hq.2 h
      obtain ⟨rfl, hrest⟩ := ofBool_append_inj h
      exact ⟨by rw [Predicate.unresolved, Predicate.unresolved, houter, hinner], hrest⟩
    | _ => simp [Predicate.stream] at h
  | .shortCircuit b, q, _, _, _, _, h => by
    cases q with
    | shortCircuit b' =>
      simp only [Predicate.stream, List.cons_append, List.cons.injEq, true_and] at h
      obtain ⟨rfl, hrest⟩ := ofBool_append_inj h
      exact ⟨rfl, hrest⟩
    | _ => simp [Predicate.stream] at h

/-- A right side can be split off the front. -/
theorem RightSide.stream_append_inj : ∀ (r s : RightSide) {xs ys : List UInt8}, r.LengthsFit →
    s.LengthsFit → r.stream ++ xs = s.stream ++ ys → r.unresolved = s.unresolved ∧ xs = ys
  | .empty, s, _, _, _, _, h => by
    cases s with
    | empty => exact ⟨rfl, (List.cons.inj h).2⟩
    | _ => simp [RightSide.stream] at h
  | .operand t, s, _, _, hr, hs, h => by
    cases s with
    | operand u =>
      simp only [RightSide.stream, List.cons_append, List.cons.injEq, true_and] at h
      obtain ⟨hterm, hrest⟩ := Term.stream_append_inj t u hr hs h
      exact ⟨congrArg RightSide.operand hterm, hrest⟩
    | _ => simp [RightSide.stream] at h
  | .predicate p, s, _, _, hr, hs, h => by
    cases s with
    | predicate q =>
      simp only [RightSide.stream, List.cons_append, List.cons.injEq, true_and] at h
      obtain ⟨hpredicate, hrest⟩ := Predicate.stream_append_inj p q hr hs h
      exact ⟨congrArg RightSide.predicate hpredicate, hrest⟩
    | _ => simp [RightSide.stream] at h
  | .value v, s, _, _, hr, hs, h => by
    cases s with
    | value w =>
      simp only [RightSide.stream, List.cons_append, List.cons.injEq, true_and] at h
      obtain ⟨rfl, hrest⟩ := Value.stream_append_inj v w hr hs h
      exact ⟨rfl, hrest⟩
    | _ => simp [RightSide.stream] at h

/-- An inner side can be split off the front. -/
theorem Inner.stream_append_inj : ∀ (x y : Inner) {xs ys : List UInt8}, x.LengthsFit →
    y.LengthsFit → x.stream ++ xs = y.stream ++ ys → x.unresolved = y.unresolved ∧ xs = ys
  | .foreignKey t, y, _, _, hx, hy, h => by
    cases y with
    | foreignKey u =>
      simp only [Inner.stream, List.cons_append, List.cons.injEq, true_and] at h
      obtain ⟨hterm, hrest⟩ := Term.stream_append_inj t u hx hy h
      exact ⟨congrArg Inner.foreignKey hterm, hrest⟩
    | predicate _ => simp [Inner.stream] at h
  | .predicate p, y, _, _, hx, hy, h => by
    cases y with
    | foreignKey _ => simp [Inner.stream] at h
    | predicate q =>
      simp only [Inner.stream, List.cons_append, List.cons.injEq, true_and] at h
      obtain ⟨hpredicate, hrest⟩ := Predicate.stream_append_inj p q hx hy h
      exact ⟨congrArg Inner.predicate hpredicate, hrest⟩

end

mutual

/-- The fields that member references carry do not appear in the stream of a predicate. -/
@[simp]
theorem Predicate.stream_unresolved : ∀ p : Predicate, p.unresolved.stream = p.stream
  | .joined p _ q => by
    simp [Predicate.unresolved, Predicate.stream, Predicate.stream_unresolved p,
      Predicate.stream_unresolved q]
  | .solo _ p => by
    simp [Predicate.unresolved, Predicate.stream, Predicate.stream_unresolved p]
  | .comparison _ _ r _ => by
    simp [Predicate.unresolved, Predicate.stream, RightSide.stream_unresolved r]
  | .subquery _ x _ => by
    simp [Predicate.unresolved, Predicate.stream, Inner.stream_unresolved x]
  | .shortCircuit _ => rfl

/-- The fields that member references carry do not appear in the stream of a right side. -/
@[simp]
theorem RightSide.stream_unresolved : ∀ r : RightSide, r.unresolved.stream = r.stream
  | .empty => rfl
  | .operand _ => by simp [RightSide.unresolved, RightSide.stream]
  | .predicate p => by
    simp [RightSide.unresolved, RightSide.stream, Predicate.stream_unresolved p]
  | .value _ => rfl

/-- The fields that member references carry do not appear in the stream of an inner side. -/
@[simp]
theorem Inner.stream_unresolved : ∀ x : Inner, x.unresolved.stream = x.stream
  | .foreignKey _ => by simp [Inner.unresolved, Inner.stream]
  | .predicate p => by simp [Inner.unresolved, Inner.stream, Predicate.stream_unresolved p]

end

/-- Predicates have the same stream exactly if they agree. -/
theorem Predicate.stream_eq_iff {p q : Predicate} (hp : p.LengthsFit) (hq : q.LengthsFit) :
    p.stream = q.stream ↔ p.agrees q = true := by
  rw [Predicate.agrees_iff]
  constructor
  · intro h
    exact (Predicate.stream_append_inj p q hp hq (congrArg (· ++ []) h)).1
  · intro h
    rw [← Predicate.stream_unresolved p, h, Predicate.stream_unresolved]

end RowFilter
