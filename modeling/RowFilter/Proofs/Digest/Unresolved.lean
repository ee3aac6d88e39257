import RowFilter.Proofs.Digest.Injectivity

/-!
# Unresolved forms

Without the fields that its member references carry, a tree or a clause is in its unresolved form.
The form agrees with the tree that it is of, and neither canonical texts nor fingerprints tell the
two apart.
-/

namespace RowFilter

/-! ### Trees -/

mutual

/-- The unresolved form of a term has no fields left to drop. -/
@[simp]
theorem Term.unresolved_unresolved : ∀ t : Term, t.unresolved.unresolved = t.unresolved
  | .member _ => rfl
  | .literal _ _ => rfl
  | .binary l _ r => by
    simp [Term.unresolved, l.unresolved_unresolved, r.unresolved_unresolved]
  | .unary _ t args => by
    simp [Term.unresolved, t.unresolved_unresolved, Term.unresolvedAll_unresolvedAll args]

/-- The unresolved form of an operand has no fields left to drop. -/
@[simp]
theorem Operand.unresolved_unresolved : ∀ o : Operand, o.unresolved.unresolved = o.unresolved
  | .term t => by simp [Operand.unresolved, t.unresolved_unresolved]
  | .value _ => rfl

/-- The unresolved forms of terms have no fields left to drop. -/
theorem Term.unresolvedAll_unresolvedAll : ∀ ts : List Term,
    Term.unresolvedAll (Term.unresolvedAll ts) = Term.unresolvedAll ts
  | [] => rfl
  | t :: ts => by
    simp [Term.unresolvedAll, t.unresolved_unresolved, Term.unresolvedAll_unresolvedAll ts]

end

mutual

/-- The canonical text of a term does not show the fields that its references carry. -/
@[simp]
theorem Term.display_unresolved : ∀ t : Term, t.unresolved.display = t.display
  | .member _ => rfl
  | .literal _ _ => rfl
  | .binary l _ r => by
    simp [Term.unresolved, Term.display, l.display_unresolved, r.display_unresolved]
  | .unary _ t args => by
    simp [Term.unresolved, Term.display, t.display_unresolved, Term.displayArgs_unresolvedAll args]

/-- The canonical text of an operand does not show the fields that its references carry. -/
@[simp]
theorem Operand.display_unresolved : ∀ o : Operand, o.unresolved.display = o.display
  | .term t => by simp [Operand.unresolved, Operand.display, t.display_unresolved]
  | .value _ => rfl

/-- The canonical text of arguments does not show the fields that their references carry. -/
theorem Term.displayArgs_unresolvedAll : ∀ ts : List Term,
    Term.displayArgs (Term.unresolvedAll ts) = Term.displayArgs ts
  | [] => rfl
  | t :: ts => by
    simp [Term.unresolvedAll, Term.displayArgs, t.display_unresolved,
      Term.displayArgs_unresolvedAll ts]

end

mutual

/-- The unresolved form of a predicate has no fields left to drop. -/
@[simp]
theorem Predicate.unresolved_unresolved : ∀ p : Predicate, p.unresolved.unresolved = p.unresolved
  | .joined p _ q => by
    simp [Predicate.unresolved, p.unresolved_unresolved, q.unresolved_unresolved]
  | .solo _ p => by simp [Predicate.unresolved, p.unresolved_unresolved]
  | .comparison _ _ r _ => by simp [Predicate.unresolved, r.unresolved_unresolved]
  | .subquery _ x _ => by simp [Predicate.unresolved, x.unresolved_unresolved]
  | .shortCircuit _ => rfl

/-- The unresolved form of a right side has no fields left to drop. -/
theorem RightSide.unresolved_unresolved : ∀ r : RightSide, r.unresolved.unresolved = r.unresolved
  | .empty => rfl
  | .operand _ => by simp [RightSide.unresolved]
  | .predicate p => by simp [RightSide.unresolved, p.unresolved_unresolved]
  | .value _ => rfl

/-- The unresolved form of an inner side has no fields left to drop. -/
theorem Inner.unresolved_unresolved : ∀ x : Inner, x.unresolved.unresolved = x.unresolved
  | .foreignKey _ => by simp [Inner.unresolved]
  | .predicate p => by simp [Inner.unresolved, p.unresolved_unresolved]

end

mutual

/-- The canonical text of a predicate does not show the fields that its references carry. -/
@[simp]
theorem Predicate.display_unresolved : ∀ p : Predicate, p.unresolved.display = p.display
  | .joined p _ q => by
    simp [Predicate.unresolved, Predicate.display, p.display_unresolved, q.display_unresolved]
  | .solo _ p => by simp [Predicate.unresolved, Predicate.display, p.display_unresolved]
  | .comparison _ _ r _ => by
    simp [Predicate.unresolved, Predicate.display, r.display_unresolved]
  | .subquery _ x _ => by simp [Predicate.unresolved, Predicate.display, x.display_unresolved]
  | .shortCircuit _ => rfl

/-- The canonical text of a right side does not show the fields that its references carry. -/
theorem RightSide.display_unresolved : ∀ r : RightSide, r.unresolved.display = r.display
  | .empty => rfl
  | .operand _ => by simp [RightSide.unresolved, RightSide.display]
  | .predicate p => by simp [RightSide.unresolved, RightSide.display, p.display_unresolved]
  | .value _ => rfl

/-- The canonical text of an inner side does not show the fields that its references carry. -/
theorem Inner.display_unresolved : ∀ x : Inner, x.unresolved.display = x.display
  | .foreignKey _ => by simp [Inner.unresolved, Inner.display]
  | .predicate p => by simp [Inner.unresolved, Inner.display, p.display_unresolved]

end

/-! ### Agreement and fingerprints -/

/-- A term agrees with its unresolved form. -/
theorem Term.agrees_unresolved (t : Term) : t.unresolved.agrees t = true := by
  rw [Term.agrees_iff, Term.unresolved_unresolved]

/-- An operand agrees with its unresolved form. -/
theorem Operand.agrees_unresolved (o : Operand) : o.unresolved.agrees o = true := by
  rw [Operand.agrees_iff, Operand.unresolved_unresolved]

/-- A predicate agrees with its unresolved form. -/
theorem Predicate.agrees_unresolved (p : Predicate) : p.unresolved.agrees p = true := by
  rw [Predicate.agrees_iff, Predicate.unresolved_unresolved]

/-- The fingerprint of a term does not depend on the fields that its references carry. -/
theorem Term.fingerprint_unresolved (t : Term) : t.unresolved.fingerprint = t.fingerprint :=
  Digestible.fingerprint_congr rfl t.stream_unresolved

/-- The fingerprint of a predicate does not depend on the fields that its references carry. -/
theorem Predicate.fingerprint_unresolved (p : Predicate) :
    p.unresolved.fingerprint = p.fingerprint :=
  Digestible.fingerprint_congr rfl p.stream_unresolved

/-! ### Clauses -/

namespace Chain

variable {α : Type} {norm : α → α}

/-- A chain without the fields that its references carry, and with its payloads in a normal form. -/
def normal (norm : α → α) : Chain α → Chain α
  | start ref x => start ref.unresolved (norm x)
  | link c ref x => link (c.normal norm) ref.unresolved (norm x)

/-- The entries of a chain in normal form. -/
theorem entries_normal (c : Chain α) : (c.normal norm).entries = c.normalEntries norm := by
  induction c with
  | start ref x => rfl
  | link c ref x ih => rw [normal, entries_link, ih, normalEntries_link]

/-- A chain agrees with its normal form if its payloads agree with theirs. -/
theorem agrees_normal {same : α → α → Bool} (hsame : ∀ x, same (norm x) x = true) (c : Chain α) :
    (c.normal norm).agrees same c = true := by
  have href : ∀ ref : MemberRef, ref.unresolved.agrees ref = true := fun ref =>
    MemberRef.agrees_iff.mpr rfl
  induction c with
  | start ref x => simp [normal, agrees, href, hsame]
  | link c ref x ih => simp [normal, agrees, ih, href, hsame]

/-- The stream of a chain is that of its normal form. -/
theorem streamWith_normal {payload : α → List UInt8} (hnorm : ∀ x, payload (norm x) = payload x)
    (tag : UInt8) (c : Chain α) :
    (c.normal norm).streamWith tag payload = c.streamWith tag payload := by
  rw [streamWith_eq_normal hnorm tag c, streamWith, entries_normal]

/-- A text that shows a chain by the texts of its entries is that of its normal form. -/
theorem map_entries_normal {β : Type} {shown : MemberRef × α → β}
    (hshown : ∀ e : MemberRef × α, shown (e.1.unresolved, norm e.2) = shown e) (c : Chain α) :
    (c.normal norm).entries.map shown = c.entries.map shown := by
  rw [entries_normal, normalEntries, List.map_map]
  exact List.map_congr_left fun e _ => hshown e

end Chain

/-- What a new value shows does not depend on the fields that its references carry. -/
theorem SetValue.display_unresolved (x : SetValue) : x.unresolved.display = x.display := by
  cases x <;> simp [SetValue.unresolved, SetValue.display]

/-- A new value agrees with its unresolved form. -/
theorem SetValue.agrees_unresolved (x : SetValue) : x.unresolved.agrees x = true := by
  rw [SetValue.agrees_iff]
  cases x <;> simp [SetValue.unresolved]

/-- The fingerprint of a set clause does not depend on the fields that its references carry. -/
theorem SetClause.fingerprint_normal (c : SetClause) :
    SetClause.fingerprint (c.normal SetValue.unresolved) = c.fingerprint := by
  have hstream : SetClause.stream (c.normal SetValue.unresolved) = c.stream :=
    Chain.streamWith_normal SetValue.stream_unresolved 0x40 c
  exact Digestible.fingerprint_congr rfl hstream

/-- The canonical text of a set clause does not show the fields that its references carry. -/
theorem SetClause.display_normal (c : SetClause) :
    SetClause.display (c.normal SetValue.unresolved) = c.display := by
  rw [SetClause.display, SetClause.display]
  refine congrArg (fun texts => "Set(" ++ ", ".intercalate texts ++ ")") ?_
  refine Chain.map_entries_normal (fun e => ?_) c
  rw [SetValue.display_unresolved]
  rfl

/-- The fingerprint of a sort clause does not depend on the fields that its references carry. -/
theorem SortClause.fingerprint_normal (c : SortClause) :
    SortClause.fingerprint (c.normal id) = c.fingerprint := by
  have hstream : SortClause.stream (c.normal id) = c.stream :=
    Chain.streamWith_normal (fun _ => rfl) 0x41 c
  exact Digestible.fingerprint_congr rfl hstream

/-- The canonical text of a sort clause does not show the fields that its references carry. -/
theorem SortClause.display_normal (c : SortClause) :
    SortClause.display (c.normal id) = c.display := by
  rw [SortClause.display, SortClause.display]
  refine congrArg (fun texts => "OrderBy(" ++ ", ".intercalate texts ++ ")") ?_
  exact Chain.map_entries_normal (fun _ => rfl) c

end RowFilter
