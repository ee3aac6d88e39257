import RowFilter.Proofs.Canonical.Construction
import RowFilter.Proofs.Projection.Order

/-!
# The listing loses nothing

The listing answers a tree by the term of its calls. A plain value beside a sign is called for as an
assigned literal, so a tree and its literalized form, which has such literals in place of plain
values, are answered alike. Nothing else is lost but what no comparison of trees sees, the fields
that member references carry: `Projected.toPredicate` reads the literalized tree back.

The answer does not say whether the right side of a comparison was a literal term or a plain value.
Reading it back as a value is right because a comparison of canonical shape has no literal term on
its right.
-/

namespace RowFilter

/-! ### Literalized trees -/

mutual

/-- A term with assigned literals in place of the plain values beside its signs. -/
def Term.literalized : Term → Term
  | .member ref => .member ref
  | .literal v assigned => .literal v assigned
  | .binary l s r => .binary l.literalized s r.literalized
  | .unary s t args => .unary s t.literalized (Term.literalizedAll args)

/-- An operand as a term with assigned literals in place of plain values. -/
def Operand.literalized : Operand → Operand
  | .term t => .term t.literalized
  | .value v => .term (.ofValue v)

/-- Terms with assigned literals in place of the plain values beside their signs. -/
def Term.literalizedAll : List Term → List Term
  | [] => []
  | t :: ts => t.literalized :: Term.literalizedAll ts

end

mutual

/-- A predicate with assigned literals in place of the plain values beside signs. -/
def Predicate.literalized : Predicate → Predicate
  | .joined p op q => .joined p.literalized op q.literalized
  | .solo op p => .solo op p.literalized
  | .comparison l c r i => .comparison l.literalized c r.literalized i
  | .subquery o x n => .subquery o.literalized x.literalized n
  | .shortCircuit b => .shortCircuit b

/-- A right side with assigned literals in place of the plain values beside signs. A plain value
that is itself the right side stays as it is. -/
def RightSide.literalized : RightSide → RightSide
  | .empty => .empty
  | .operand t => .operand t.literalized
  | .predicate p => .predicate p.literalized
  | .value v => .value v

/-- An inner side with assigned literals in place of the plain values beside signs. -/
def Inner.literalized : Inner → Inner
  | .foreignKey t => .foreignKey t.literalized
  | .predicate p => .predicate p.literalized

end

/-! ### Reading back -/

namespace Projected

mutual

/-- The term that is answered by an output; an output for a predicate is no answer for a term. -/
def toTerm : Projected → Term
  | .member owner name => .member ⟨owner, name, none⟩
  | .literal v assigned => .literal v assigned
  | .binary s l r => .binary (.term l.toTerm) s (.term r.toTerm)
  | .unary s t args => .unary s t.toTerm (toTerms args)
  | .logical _ _ _ | .compare _ _ _ _ | .subquery _ _ _ | .shortCircuit _ => .unset

/-- The arguments that are answered by outputs. -/
def toTerms : List Projected → List Term
  | [] => []
  | a :: as => a.toTerm :: toTerms as

end

/-- The right side of a comparison that is answered by an output, given the predicate that it would
answer. A literal answers a plain value. -/
def toRightSide (p : Predicate) : Projected → RightSide
  | .literal v _ => .value v
  | .member owner name => .operand (toTerm (.member owner name))
  | .binary s l r => .operand (toTerm (.binary s l r))
  | .unary s t args => .operand (toTerm (.unary s t args))
  | .logical _ _ _ | .compare _ _ _ _ | .subquery _ _ _ | .shortCircuit _ => .predicate p

/-- The inner side of a subquery that is answered by an output, given the predicate that it would
answer. -/
def toInner (p : Predicate) : Projected → Inner
  | .member owner name => .foreignKey (toTerm (.member owner name))
  | .literal v assigned => .foreignKey (toTerm (.literal v assigned))
  | .binary s l r => .foreignKey (toTerm (.binary s l r))
  | .unary s t args => .foreignKey (toTerm (.unary s t args))
  | .logical _ _ _ | .compare _ _ _ _ | .subquery _ _ _ | .shortCircuit _ => .predicate p

/-- The predicate that is answered by an output; an output for a term is no answer for a
predicate. -/
def toPredicate : Projected → Predicate
  | .logical op none r => .solo op r.toPredicate
  | .logical op (some l) r => .joined l.toPredicate op r.toPredicate
  | .compare l c none i => .comparison l.toTerm c .empty i
  | .compare l c (some r) i => .comparison l.toTerm c (r.toRightSide r.toPredicate) i
  | .subquery c o x => .subquery o.toTerm (x.toInner x.toPredicate) (c == .notExists)
  | .shortCircuit b => .shortCircuit b
  | .member _ _ | .literal _ _ | .binary _ _ _ | .unary _ _ _ => .shortCircuit false

end Projected

/-! ### The answers -/

/-- The term of the calls for a term. -/
def Term.projected (t : Term) : Projected := t.project .terms

/-- The term of the calls for an operand. -/
def Operand.projected (o : Operand) : Projected := o.project .terms

/-- The terms of the calls for arguments. -/
def Term.projectedAll (ts : List Term) : List Projected := Term.projectArgs .terms ts

/-- The term of the calls for a predicate. -/
def Predicate.projected (p : Predicate) : Projected := p.project .terms

/-- The term of the calls for a right side, if there is one. -/
def RightSide.projected (r : RightSide) : Option Projected := r.project .terms

/-- The term of the calls for the inner side of a subquery. -/
def Inner.projected (x : Inner) : Projected := x.project .terms

theorem Term.projected_binary (l r : Operand) (s : Sign) :
    (binary l s r).projected = .binary s l.projected r.projected := rfl

theorem Term.projected_unary (s : Sign) (t : Term) (args : List Term) :
    (unary s t args).projected = .unary s t.projected (projectedAll args) := rfl

theorem Term.projectedAll_cons (t : Term) (ts : List Term) :
    projectedAll (t :: ts) = t.projected :: projectedAll ts := rfl

namespace Predicate

theorem projected_joined (p q : Predicate) (op : Connective) :
    (joined p op q).projected = .logical op (some p.projected) q.projected := rfl

theorem projected_solo (op : Connective) (p : Predicate) :
    (solo op p).projected = .logical op none p.projected := rfl

theorem projected_comparison (l : Term) (c : Comparator) (r : RightSide) (i : Bool) :
    (comparison l c r i).projected = .compare l.projected c r.projected i := rfl

theorem projected_subquery (o : Term) (x : Inner) (n : Bool) :
    (subquery o x n).projected = .subquery (subqueryComparator n) o.projected x.projected := rfl

end Predicate

/-! ### Reading answers back -/

mutual

/-- The answer for a term reads back as the literalized term. -/
theorem Term.toTerm_projected : ∀ t : Term, t.projected.toTerm = t.literalized.unresolved
  | .member _ => rfl
  | .literal _ _ => rfl
  | .binary l s r => by
    rw [Term.projected_binary, Projected.toTerm, l.toTerm_projected, r.toTerm_projected]
    rfl
  | .unary s t args => by
    rw [Term.projected_unary, Projected.toTerm, t.toTerm_projected, Term.toTerms_projectedAll args]
    rfl

/-- The answer for an operand reads back as the literalized operand, which is a term. -/
theorem Operand.toTerm_projected : ∀ o : Operand,
    Operand.term o.projected.toTerm = o.literalized.unresolved
  | .term t => congrArg Operand.term t.toTerm_projected
  | .value _ => rfl

/-- The answers for arguments read back as the literalized arguments. -/
theorem Term.toTerms_projectedAll : ∀ ts : List Term,
    Projected.toTerms (Term.projectedAll ts) = Term.unresolvedAll (Term.literalizedAll ts)
  | [] => rfl
  | t :: ts => by
    rw [Term.projectedAll_cons, Projected.toTerms, t.toTerm_projected, Term.toTerms_projectedAll ts]
    rfl

end

/-- The answer for a term that is no literal reads back as a term on the right. -/
theorem Term.toRightSide_projected {t : Term} (h : t.isLiteral = false) (p : Predicate) :
    t.projected.toRightSide p = .operand t.literalized.unresolved := by
  rw [← t.toTerm_projected]
  cases t with
  | literal => cases h
  | _ => rfl

/-- The answer for a term reads back as a foreign key. -/
theorem Term.toInner_projected (t : Term) (p : Predicate) :
    t.projected.toInner p = .foreignKey t.literalized.unresolved := by
  rw [← t.toTerm_projected]
  cases t <;> rfl

/-- The answer for a predicate reads back as a predicate on the right, and inside a subquery. -/
theorem Predicate.toSide_projected (p q : Predicate) :
    p.projected.toRightSide q = .predicate q ∧ p.projected.toInner q = .predicate q := by
  cases p <;> exact ⟨rfl, rfl⟩

mutual

/-- The answer for a predicate whose comparisons have a canonical shape reads back as the
literalized predicate. -/
theorem Predicate.toPredicate_projected : ∀ {p : Predicate}, AllCanonical p.comparisons →
    p.projected.toPredicate = p.literalized.unresolved
  | .joined p op q, h => by
    rw [Predicate.comparisons, AllCanonical, List.forall_mem_append] at h
    rw [Predicate.projected_joined, Projected.toPredicate, Predicate.toPredicate_projected h.1,
      Predicate.toPredicate_projected h.2]
    rfl
  | .solo op p, h => by
    rw [Predicate.projected_solo, Projected.toPredicate,
      Predicate.toPredicate_projected (p := p) h]
    rfl
  | .comparison l c r i, h => by
    rw [Predicate.comparisons, AllCanonical, List.forall_mem_cons] at h
    rw [Predicate.projected_comparison, RightSide.toPredicate_projected h.1 h.2, l.toTerm_projected]
    rfl
  | .subquery o x n, h => by
    -- the comparator of the call tells whether the subquery is negated
    have hnegated : (Predicate.subqueryComparator n == .notExists) = n := by
      cases n <;> rfl
    rw [Predicate.projected_subquery, Projected.toPredicate, o.toTerm_projected,
      Inner.toInner_projected h, hnegated]
    rfl
  | .shortCircuit _, _ => rfl

/-- The answer for a comparison of canonical shape has the literalized right side. -/
theorem RightSide.toPredicate_projected : ∀ {r : RightSide} {c : Comparator} {a : Projected}
    {i : Bool}, Comparison.isCanonical c r = true → AllCanonical r.comparisons →
      (Projected.compare a c r.projected i).toPredicate =
        .comparison a.toTerm c r.literalized.unresolved i
  | .empty, _, _, _, _, _ => rfl
  | .operand t, c, a, i, h, _ => by
    -- a literal on the right would read back as a plain value
    have hliteral : t.isLiteral = false := by
      simpa [Comparison.isCanonical] using (Bool.and_eq_true_iff.mp h).2
    exact congrArg (Predicate.comparison a.toTerm c · i) (t.toRightSide_projected hliteral _)
  | .predicate p, c, a, i, _, hp => by
    have hside : p.projected.toRightSide p.projected.toPredicate =
        .predicate p.literalized.unresolved := by
      rw [(p.toSide_projected _).1, Predicate.toPredicate_projected hp]
    exact congrArg (Predicate.comparison a.toTerm c · i) hside
  | .value _, _, _, _, _, _ => rfl

/-- The answer for an inner side reads back as the literalized one. -/
theorem Inner.toInner_projected : ∀ {x : Inner}, AllCanonical x.comparisons →
    x.projected.toInner x.projected.toPredicate = x.literalized.unresolved
  | .foreignKey t, _ => t.toInner_projected _
  | .predicate p, h => by
    have hside : p.projected.toInner p.projected.toPredicate =
        .predicate p.literalized.unresolved := by
      rw [(p.toSide_projected _).2, Predicate.toPredicate_projected h]
    exact hside

end

/-! ### What answers do not depend on -/

mutual

/-- A literalized term without fields is answered as the term is. -/
theorem Term.projected_literalized : ∀ t : Term, t.literalized.unresolved.projected = t.projected
  | .member _ => rfl
  | .literal _ _ => rfl
  | .binary l s r => by
    rw [Term.literalized, Term.unresolved, Term.projected_binary, l.projected_literalized,
      r.projected_literalized, ← Term.projected_binary]
  | .unary s t args => by
    rw [Term.literalized, Term.unresolved, Term.projected_unary, t.projected_literalized,
      Term.projectedAll_literalizedAll args, ← Term.projected_unary]

/-- A literalized operand without fields is answered as the operand is. -/
theorem Operand.projected_literalized : ∀ o : Operand,
    o.literalized.unresolved.projected = o.projected
  | .term t => t.projected_literalized
  | .value _ => rfl

/-- Literalized arguments without fields are answered as the arguments are. -/
theorem Term.projectedAll_literalizedAll : ∀ ts : List Term,
    Term.projectedAll (Term.unresolvedAll (Term.literalizedAll ts)) = Term.projectedAll ts
  | [] => rfl
  | t :: ts => by
    rw [Term.literalizedAll, Term.unresolvedAll, Term.projectedAll_cons, t.projected_literalized,
      Term.projectedAll_literalizedAll ts, ← Term.projectedAll_cons]

end

mutual

/-- A literalized predicate without fields is answered as the predicate is. -/
theorem Predicate.projected_literalized : ∀ p : Predicate,
    p.literalized.unresolved.projected = p.projected
  | .joined p op q => by
    rw [Predicate.literalized, Predicate.unresolved, Predicate.projected_joined,
      p.projected_literalized, q.projected_literalized, ← Predicate.projected_joined]
  | .solo op p => by
    rw [Predicate.literalized, Predicate.unresolved, Predicate.projected_solo,
      p.projected_literalized, ← Predicate.projected_solo]
  | .comparison l c r i => by
    rw [Predicate.literalized, Predicate.unresolved, Predicate.projected_comparison,
      l.projected_literalized, r.projected_literalized, ← Predicate.projected_comparison]
  | .subquery o x n => by
    rw [Predicate.literalized, Predicate.unresolved, Predicate.projected_subquery,
      o.projected_literalized, x.projected_literalized, ← Predicate.projected_subquery]
  | .shortCircuit _ => rfl

/-- A literalized right side without fields is answered as the right side is. -/
theorem RightSide.projected_literalized : ∀ r : RightSide,
    r.literalized.unresolved.projected = r.projected
  | .empty => rfl
  | .operand t => congrArg some t.projected_literalized
  | .predicate p => congrArg some p.projected_literalized
  | .value _ => rfl

/-- A literalized inner side without fields is answered as the inner side is. -/
theorem Inner.projected_literalized : ∀ x : Inner,
    x.literalized.unresolved.projected = x.projected
  | .foreignKey t => t.projected_literalized
  | .predicate p => p.projected_literalized

end

/-! ### The theorem -/

/-- Two terms are answered alike exactly if they are equal up to plain values beside signs. -/
theorem Term.projected_eq_iff {t u : Term} :
    t.projected = u.projected ↔ t.literalized.agrees u.literalized = true := by
  rw [Term.agrees_iff]
  constructor
  · intro h
    rw [← t.toTerm_projected, ← u.toTerm_projected, h]
  · intro h
    rw [← t.projected_literalized, ← u.projected_literalized, h]

/-- Two predicates whose comparisons have a canonical shape are answered alike exactly if they are
equal up to plain values beside signs. -/
theorem Predicate.projected_eq_iff {p q : Predicate} (hp : AllCanonical p.comparisons)
    (hq : AllCanonical q.comparisons) :
    p.projected = q.projected ↔ p.literalized.agrees q.literalized = true := by
  rw [Predicate.agrees_iff]
  constructor
  · intro h
    rw [← Predicate.toPredicate_projected hp, ← Predicate.toPredicate_projected hq, h]
  · intro h
    rw [← p.projected_literalized, ← q.projected_literalized, h]

/-- Projecting a tree calls one method for each node, each node after its children and these in
reading order, whatever the methods do. The listing answers two terms alike, or two predicates,
exactly if they are equal up to assigned literals in place of plain values beside signs; of the
predicates, every comparison must have a canonical shape, as all have that are made or decoded. -/
theorem project_in_order_iff_agrees :
    (∀ n : Node, n.visits = n.children.flatMap Node.visits ++ [n]) ∧
      (∀ {m : Type → Type} [Monad m] [LawfulMonad m] {α β : Type} (mark : Projection.Call → β)
        (π : Projection m α) (n : Node) (log : List β),
          (n.project (π.logging mark)).run log =
            (fun a => (a, log ++ n.visits.map fun v => mark v.call)) <$> n.project π) ∧
      (∀ n : Node, ((n.project .listing).run []).2 = n.visits.map fun v => v.call.method) ∧
      (∀ t u : Term, ((t.project .listing).run []).1 = ((u.project .listing).run []).1 ↔
        t.literalized.agrees u.literalized = true) ∧
      ∀ p q : Predicate, AllCanonical p.comparisons → AllCanonical q.comparisons →
        (((p.project .listing).run []).1 = ((q.project .listing).run []).1 ↔
          p.literalized.agrees q.literalized = true) := by
  have hterm : ∀ t : Term, ((t.project .listing).run []).1 = t.projected := fun t =>
    congrArg Prod.fst ((Node.term t).run_project_listing [])
  have hpredicate : ∀ p : Predicate, ((p.project .listing).run []).1 = p.projected := fun p =>
    congrArg Prod.fst ((Node.predicate p).run_project_listing [])
  refine ⟨Node.visits_eq_children, fun mark π n log => n.run_project_logging mark π log,
    fun n => ?_, fun t u => ?_, fun p q hp hq => ?_⟩
  · rw [n.run_project_listing]
    rfl
  · rw [hterm, hterm, Term.projected_eq_iff]
  · rw [hpredicate, hpredicate, Predicate.projected_eq_iff hp hq]

/-- Two comparisons with a sum on the left, of which the first has a plain value in the sum. -/
theorem project_in_order_iff_agrees_sum :
    let qty : Term := .member (.named "product" "qty")
    let compared : Operand → Comparison := fun o =>
      ⟨.binary (.term qty) .add o, .greater, .value (.int 3), false⟩
    let p := (compared (.value (.int 1))).toPredicate.negate
    let q := (compared (.term (.ofValue (.int 1)))).toPredicate.negate
    let calls : List ProjectionMethod := [.member, .literal, .binary, .literal, .compare, .logical]
    p.agrees q = false ∧ ((p.project .listing).run []).1 = ((q.project .listing).run []).1 ∧
      ((p.project .listing).run []).2 = calls ∧
      ((Node.predicate q).project (Projection.terms.logging Projection.Call.method)).run [] =
        (q.projected, calls) := by
  intro qty compared p q calls
  obtain ⟨-, hlogging, hlisting, -, hiff⟩ := project_in_order_iff_agrees
  have hmade : ∀ o, (compared o).Made := by
    intro o
    have hwith : Comparison.withValue (.binary (.term qty) .add o) .greater (.int 3)
        defaultWildcard = .ok (compared o) := rfl
    exact ⟨defaultWildcard, .value false hwith⟩
  have hp : AllCanonical p.comparisons :=
    allCanonical_of_made (List.forall_mem_singleton.mpr (hmade _))
  have hq : AllCanonical q.comparisons :=
    allCanonical_of_made (List.forall_mem_singleton.mpr (hmade _))
  refine ⟨rfl, (hiff p q hp hq).mpr rfl, hlisting (.predicate p), ?_⟩
  exact hlogging Projection.Call.method Projection.terms (.predicate q) []

end RowFilter
