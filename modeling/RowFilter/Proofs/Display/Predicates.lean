import RowFilter.Predicate.Basic
import RowFilter.Proofs.Canonical.Construction
import RowFilter.Proofs.Display.Terms

/-!
# The canonical text of a predicate determines it

The form of a predicate starts with a word of its own or is a group, and so is a join of operands: a
group of two sides and a sign is a term, one with a connective in it is a predicate. A comparison
may lack its right side, and a note on letter case may follow, but no right side is written like
the note.

Of the comparisons it is used that they can be made: no constructor leaves a literal on the right,
so an operand there can be told from a value.
-/

namespace RowFilter

/-! ### Words -/

namespace Connective

/-- The word of a connective. -/
def word : Connective → String
  | and => "and"
  | or => "or"
  | not => "not"

theorem toList_token (op : Connective) : op.token.toList = ' ' :: (op.word.toList ++ [' ']) := by
  cases op <;> decide

theorem toList_leadingToken (op : Connective) :
    op.leadingToken.toList = op.word.toList ++ [' '] := by
  cases op <;> decide

theorem isWord_word (op : Connective) : IsWord op.word := by
  cases op <;> decide

/-- Connectives have different words. -/
theorem word_injective {c d : Connective} (h : c.word = d.word) : c = d := by
  cases c <;> cases d <;> first | rfl | exact absurd h (by decide)

/-- The word of a connective is no token of a sign. -/
theorem word_ne_token (op : Connective) (s : Sign) : op.word ≠ s.token := by
  cases op <;> cases s <;> decide

end Connective

namespace Comparator

theorem isWord_label (c : Comparator) : IsWord c.label := by
  cases c <;> decide

/-- Comparators have different names. -/
theorem label_injective {c d : Comparator} (h : c.label = d.label) : c = d := by
  have hall : ∀ c ∈ all, ∀ d ∈ all, c.label = d.label → c = d := by decide +kernel
  exact hall c (mem_all c) d (mem_all d) h

end Comparator

/-- The two sorts of subqueries have different names. -/
theorem Predicate.subqueryComparator_injective {m n : Bool}
    (h : subqueryComparator m = subqueryComparator n) : m = n := by
  cases m <;> cases n <;> first | rfl | cases h

/-- The names of subqueries are not that of comparisons. -/
theorem Predicate.label_subqueryComparator_ne (negated : Bool) :
    (subqueryComparator negated).label ≠ "Compare" := by
  cases negated <;> decide

/-! ### Legible predicates -/

mutual

/-- The canonical text of the predicate can be read back. -/
def Predicate.Legible : Predicate → Prop
  | .joined p op q => (op = .and ∨ op = .or) ∧ p.Legible ∧ q.Legible
  | .solo op p => op = .not ∧ p.Legible
  | .comparison left _ right _ => left.Legible ∧ right.Legible
  | .subquery outer inner _ => outer.Legible ∧ inner.Legible
  | .shortCircuit _ => True

/-- The canonical text of the right side can be read back. -/
def RightSide.Legible : RightSide → Prop
  | .empty | .value _ => True
  | .operand t => t.Legible
  | .predicate p => p.Legible

/-- The canonical text of the inner side can be read back. -/
def Inner.Legible : Inner → Prop
  | .foreignKey t => t.Legible
  | .predicate p => p.Legible

end

/-! ### The form of a predicate -/

/-- The forms of a note on letter case, if there is one. -/
def caseNote (ignoreCase : Bool) : List Form := if ignoreCase then [.word "ignore_case"] else []

mutual

/-- The form of a predicate. -/
def Predicate.form : Predicate → Form
  | .joined p op q => .node "" .group [p.form, .word op.word, q.form]
  | .solo op p => .node "" .group [.word op.word, p.form]
  | .comparison left c right ignoreCase =>
    .node "Compare" .call (left.form :: .word c.label :: (right.forms ++ caseNote ignoreCase))
  | .subquery outer inner negated =>
    .node (Predicate.subqueryComparator negated).label .call [outer.form, inner.form]
  | .shortCircuit b => .node "ShortCircuit" .call [.word (toString b)]

/-- The form of a right side, if it is not empty. -/
def RightSide.forms : RightSide → List Form
  | .empty => []
  | .operand t => [t.form]
  | .predicate p => [p.form]
  | .value v => [v.form]

/-- The form of the inner side of a subquery. -/
def Inner.form : Inner → Form
  | .foreignKey t => t.form
  | .predicate p => p.form

end

theorem spellRest_caseNote (ignoreCase : Bool) :
    Form.spellRest .call (caseNote ignoreCase) =
      (if ignoreCase then ", ignore_case" else "").toList ++ [')'] := by
  cases ignoreCase <;> decide

mutual

/-- The canonical text of a predicate is its form, spelled out. -/
theorem Predicate.spell_form : ∀ p : Predicate, p.form.spell = p.display.toList
  | .joined p op q => by
    simp [Predicate.form, Predicate.display, Form.spell, Form.spellParts, Form.spellRest,
      Bracket.opening, Bracket.separator, Bracket.closing, Predicate.spell_form p,
      Predicate.spell_form q, op.toList_token]
  | .solo op p => by
    simp [Predicate.form, Predicate.display, Form.spell, Form.spellParts, Form.spellRest,
      Bracket.opening, Bracket.separator, Bracket.closing, Predicate.spell_form p,
      op.toList_leadingToken]
  | .comparison left c right ignoreCase => by
    simp [Predicate.form, Predicate.display, Form.spell, Form.spellParts, Form.spellRest,
      Bracket.opening, Bracket.separator, left.spell_form,
      RightSide.spellRest_forms right (caseNote ignoreCase), spellRest_caseNote]
  | .subquery outer inner negated => by
    simp [Predicate.form, Predicate.display, Form.spell, Form.spellParts, Form.spellRest,
      Bracket.opening, Bracket.separator, Bracket.closing, outer.spell_form,
      Inner.spell_form inner]
  | .shortCircuit b => by
    simp [Predicate.form, Predicate.display, Form.spell, Form.spellParts, Form.spellRest,
      Bracket.opening, Bracket.closing]

/-- The canonical text of a right side is its form, spelled out after a separator. -/
theorem RightSide.spellRest_forms : ∀ (r : RightSide) (fs : List Form),
    Form.spellRest .call (r.forms ++ fs) = r.display.toList ++ Form.spellRest .call fs
  | .empty, fs => rfl
  | .operand t, fs => by
    simp [RightSide.forms, RightSide.display, Form.spellRest, Bracket.separator, t.spell_form]
  | .predicate p, fs => by
    simp [RightSide.forms, RightSide.display, Form.spellRest, Bracket.separator,
      Predicate.spell_form p]
  | .value v, fs => by
    simp [RightSide.forms, RightSide.display, Form.spellRest, Bracket.separator, v.spell_form]

/-- The canonical text of an inner side is its form, spelled out. -/
theorem Inner.spell_form : ∀ x : Inner, x.form.spell = x.display.toList
  | .foreignKey t => t.spell_form
  | .predicate p => Predicate.spell_form p

end

/-! ### Leading words -/

/-- The words that the forms of predicates start with, empty for a group. -/
def Predicate.leads : List String := ["", "Compare", "Exists", "NotExists", "ShortCircuit"]

theorem Predicate.lead_form_mem (p : Predicate) : p.form.lead ∈ Predicate.leads := by
  cases p with
  | subquery _ _ negated =>
    have hlabel : ∀ n, (subqueryComparator n).label ∈ Predicate.leads := by decide
    exact hlabel negated
  | _ => simp [Predicate.form, Form.lead, Predicate.leads]

/-- No form of a value is one of a predicate. -/
theorem Value.form_ne_predicate (v : Value) (p : Predicate) : v.form ≠ p.form := by
  have hleads : ∀ s ∈ Predicate.leads, s ∉ Value.leads := by decide
  exact Value.form_ne_of_lead (hleads _ p.lead_form_mem)

/-- No form of a predicate is a word. -/
theorem Predicate.form_ne_word (p : Predicate) (s : String) : p.form ≠ .word s := by
  cases p <;> nofun

/-- No form of a term is one of a predicate. -/
theorem Term.form_ne_predicate (t : Term) (p : Predicate) : t.form ≠ p.form := by
  cases t with
  | member ref => exact (p.form_ne_word _).symm
  | literal v assigned =>
    cases assigned with
    | true => exact v.form_ne_predicate p
    | false => exact (p.form_ne_word _).symm
  | binary l s r =>
    intro h
    -- only the groups among the predicates are left, and these have connectives in them
    cases p with
    | joined p op q =>
      simp only [form, Predicate.form, Form.node.injEq, List.cons.injEq, Form.word.injEq] at h
      exact op.word_ne_token s h.2.2.2.1.symm
    | _ => simp [form, Predicate.form] at h
  | unary s t args =>
    intro h
    have hlead := p.lead_form_mem
    rw [← h] at hlead
    have hlabel : s.label ∉ Predicate.leads := by cases s <;> decide
    exact hlabel hlead

/-- No right side is written like the note on letter case. -/
theorem RightSide.note_not_mem_forms (r : RightSide) : Form.word "ignore_case" ∉ r.forms := by
  have hvalue : ∀ v : Value, v.form ≠ .word "ignore_case" :=
    fun v => Value.form_ne_of_lead (by decide)
  cases r with
  | empty => nofun
  | operand t =>
    rw [forms, List.mem_singleton]
    intro h
    cases t with
    | member ref => exact absurd (Form.word.inj h).symm (ref.text_ne (by decide))
    | literal v assigned =>
      cases assigned with
      | true => exact hvalue v h.symm
      | false => exact absurd (Form.word.inj h) (by decide)
    | binary _ _ _ => cases h
    | unary _ _ _ => cases h
  | predicate p =>
    rw [forms, List.mem_singleton]
    exact (p.form_ne_word _).symm
  | value v =>
    rw [forms, List.mem_singleton]
    exact (hvalue v).symm

/-- Whether a right side or the note is missing can be told from what is there. -/
theorem RightSide.forms_append_inj {r s : RightSide} {i j : Bool}
    (h : r.forms ++ caseNote i = s.forms ++ caseNote j) : r.forms = s.forms ∧ i = j := by
  have hr := r.note_not_mem_forms
  have hs := s.note_not_mem_forms
  have hnote : ∀ (r : RightSide) (i : Bool), Form.word "ignore_case" ∉ r.forms →
      (Form.word "ignore_case" ∈ r.forms ++ caseNote i ↔ i = true) := by
    intro r i hr
    cases i <;> simp [caseNote, hr]
  have hij : i = j := by
    rw [Bool.eq_iff_iff, ← hnote r i hr, h, hnote s j hs]
  subst hij
  exact ⟨List.append_cancel_right h, rfl⟩

/-! ### Reading a predicate -/

theorem allReadable_caseNote (ignoreCase : Bool) : Form.AllReadable (caseNote ignoreCase) := by
  cases ignoreCase with
  | true => exact ⟨(by decide : IsWord "ignore_case"), trivial⟩
  | false => exact trivial

mutual

/-- The form of a legible predicate can be read back. -/
theorem Predicate.readable_form : ∀ {p : Predicate}, p.Legible → p.form.Readable
  | .joined _ op _, ⟨_, hp, hq⟩ =>
    ⟨rfl, Predicate.readable_form hp, op.isWord_word, Predicate.readable_form hq, trivial⟩
  | .solo op _, ⟨_, hp⟩ => ⟨rfl, op.isWord_word, Predicate.readable_form hp, trivial⟩
  | .comparison _ c right ignoreCase, ⟨hleft, hright⟩ =>
    ⟨by decide, Term.readable_form hleft, c.isWord_label,
      RightSide.allReadable_forms hright (allReadable_caseNote ignoreCase)⟩
  | .subquery _ _ negated, ⟨houter, hinner⟩ =>
    ⟨(Predicate.subqueryComparator negated).isWord_label, Term.readable_form houter,
      Inner.readable_form hinner, trivial⟩
  | .shortCircuit b, _ => ⟨by decide, isWord_bool b, trivial⟩

/-- The form of a legible right side can be read back, in front of others. -/
theorem RightSide.allReadable_forms : ∀ {r : RightSide} {fs : List Form}, r.Legible →
    Form.AllReadable fs → Form.AllReadable (r.forms ++ fs)
  | .empty, _, _, hfs => hfs
  | .operand _, _, h, hfs => ⟨Term.readable_form h, hfs⟩
  | .predicate _, _, h, hfs => ⟨Predicate.readable_form h, hfs⟩
  | .value v, _, _, hfs => ⟨v.readable_form, hfs⟩

/-- The form of a legible inner side can be read back. -/
theorem Inner.readable_form : ∀ {x : Inner}, x.Legible → x.form.Readable
  | .foreignKey _, h => Term.readable_form h
  | .predicate _, h => Predicate.readable_form h

end

/-- No canonical comparison has a value on the right that is written as a term. -/
theorem Term.form_ne_value_of_isCanonical {c : Comparator} {t : Term} (v : Value)
    (h : Comparison.isCanonical c (.operand t) = true) : t.form ≠ v.form := by
  intro hform
  rw [Term.eq_ofValue_of_form_eq hform, Comparison.isCanonical, Bool.and_eq_true] at h
  cases h.2

theorem AllCanonical.of_append {cs ds : List Comparison} (h : AllCanonical (cs ++ ds)) :
    AllCanonical cs ∧ AllCanonical ds :=
  List.forall_mem_append.mp h

theorem AllCanonical.of_cons {c : Comparison} {cs : List Comparison}
    (h : AllCanonical (c :: cs)) :
    Comparison.isCanonical c.comparator c.right = true ∧ AllCanonical cs :=
  List.forall_mem_cons.mp h

mutual

/-- The form of a legible predicate determines it, up to the fields that its members carry. -/
theorem Predicate.unresolved_eq_of_form_eq : ∀ {p q : Predicate}, p.Legible → q.Legible →
    AllCanonical p.comparisons → AllCanonical q.comparisons → p.form = q.form →
    p.unresolved = q.unresolved
  | .joined p op p', q, ⟨_, hp, hp'⟩, hq, hpc, hqc, h => by
    cases q with
    | joined q op' q' =>
      simp only [Predicate.form, Form.node.injEq, List.cons.injEq, Form.word.injEq, true_and,
        and_true] at h
      obtain ⟨hleft, hop, hright⟩ := h
      rw [Predicate.unresolved, Predicate.unresolved, Connective.word_injective hop,
        Predicate.unresolved_eq_of_form_eq hp hq.2.1 hpc.of_append.1 hqc.of_append.1 hleft,
        Predicate.unresolved_eq_of_form_eq hp' hq.2.2 hpc.of_append.2 hqc.of_append.2 hright]
    | _ => simp [Predicate.form] at h
  | .solo op p, q, ⟨_, hp⟩, hq, hpc, hqc, h => by
    cases q with
    | solo op' q =>
      simp only [Predicate.form, Form.node.injEq, List.cons.injEq, Form.word.injEq, true_and,
        and_true] at h
      rw [Predicate.unresolved, Predicate.unresolved, Connective.word_injective h.1,
        Predicate.unresolved_eq_of_form_eq hp hq.2 hpc hqc h.2]
    | _ => simp [Predicate.form] at h
  | .comparison left c right i, q, ⟨hleft, hright⟩, hq, hpc, hqc, h => by
    cases q with
    | comparison left' c' right' j =>
      simp only [Predicate.form, Form.node.injEq, List.cons.injEq, Form.word.injEq, true_and] at h
      obtain ⟨hl, hc, hr⟩ := h
      -- a right side and the note are told apart before either is read
      obtain ⟨hforms, rfl⟩ := RightSide.forms_append_inj hr
      rw [Predicate.unresolved, Predicate.unresolved, Comparator.label_injective hc,
        Term.unresolved_eq_of_form_eq hleft hq.1 hl,
        RightSide.unresolved_eq_of_forms_eq hright hq.2 hpc.of_cons.1 hqc.of_cons.1 hpc.of_cons.2
          hqc.of_cons.2 hforms]
    | subquery _ _ n =>
      exact absurd (Form.node.inj h).1.symm (Predicate.label_subqueryComparator_ne n)
    | _ => simp [Predicate.form] at h
  | .subquery outer inner m, q, ⟨houter, hinner⟩, hq, hpc, hqc, h => by
    cases q with
    | comparison _ _ _ _ =>
      exact absurd (Form.node.inj h).1 (Predicate.label_subqueryComparator_ne m)
    | subquery outer' inner' n =>
      simp only [Predicate.form, Form.node.injEq, List.cons.injEq, true_and, and_true] at h
      obtain ⟨hlabel, ho, hi⟩ := h
      rw [Predicate.unresolved, Predicate.unresolved,
        Predicate.subqueryComparator_injective (Comparator.label_injective hlabel),
        Term.unresolved_eq_of_form_eq houter hq.1 ho,
        Inner.unresolved_eq_of_form_eq hinner hq.2 hpc hqc hi]
    | _ => simp [Predicate.form] at h
  | .shortCircuit a, q, _, _, _, _, h => by
    cases q with
    | shortCircuit b =>
      simp only [Predicate.form, Form.node.injEq, List.cons.injEq, Form.word.injEq] at h
      rw [Text.bool_inj h.2.2.1]
    | _ => simp [Predicate.form] at h

/-- The form of a legible right side determines it, up to the fields that its members carry. -/
theorem RightSide.unresolved_eq_of_forms_eq : ∀ {r s : RightSide} {c d : Comparator},
    r.Legible → s.Legible → Comparison.isCanonical c r = true →
    Comparison.isCanonical d s = true → AllCanonical r.comparisons →
    AllCanonical s.comparisons → r.forms = s.forms → r.unresolved = s.unresolved
  | .empty, s, _, _, _, _, _, _, _, _, h => by
    cases s <;> first | rfl | cases h
  | .operand t, s, _, _, ht, hs, htc, hsc, _, _, h => by
    cases s with
    | empty => cases h
    | operand u =>
      rw [RightSide.unresolved, RightSide.unresolved,
        Term.unresolved_eq_of_form_eq ht hs (List.cons.inj h).1]
    | predicate p => exact absurd (List.cons.inj h).1 (t.form_ne_predicate p)
    | value v => exact absurd (List.cons.inj h).1 (t.form_ne_value_of_isCanonical v htc)
  | .predicate p, s, _, _, hp, hs, _, _, hpc, hsc, h => by
    cases s with
    | empty => cases h
    | operand u => exact absurd (List.cons.inj h).1.symm (u.form_ne_predicate p)
    | predicate q =>
      rw [RightSide.unresolved, RightSide.unresolved,
        Predicate.unresolved_eq_of_form_eq hp hs hpc hsc (List.cons.inj h).1]
    | value v => exact absurd (List.cons.inj h).1.symm (v.form_ne_predicate p)
  | .value v, s, _, _, _, _, _, hsc, _, _, h => by
    cases s with
    | empty => cases h
    | operand u => exact absurd (List.cons.inj h).1.symm (u.form_ne_value_of_isCanonical v hsc)
    | predicate p => exact absurd (List.cons.inj h).1 (v.form_ne_predicate p)
    | value w => rw [Value.form_inj v w (List.cons.inj h).1]

/-- The form of a legible inner side determines it, up to the fields that its members carry. -/
theorem Inner.unresolved_eq_of_form_eq : ∀ {x y : Inner}, x.Legible → y.Legible →
    AllCanonical x.comparisons → AllCanonical y.comparisons → x.form = y.form →
    x.unresolved = y.unresolved
  | .foreignKey t, .foreignKey u, ht, hu, _, _, h => by
    rw [Inner.unresolved, Inner.unresolved, Term.unresolved_eq_of_form_eq ht hu h]
  | .foreignKey t, .predicate p, _, _, _, _, h => absurd h (t.form_ne_predicate p)
  | .predicate p, .foreignKey t, _, _, _, _, h => absurd h.symm (t.form_ne_predicate p)
  | .predicate p, .predicate q, hp, hq, hpc, hqc, h => by
    rw [Inner.unresolved, Inner.unresolved, Predicate.unresolved_eq_of_form_eq hp hq hpc hqc h]

end

/-- The canonical text of a legible predicate determines it, up to the fields that its members
carry, if its comparisons are canonical. -/
theorem Predicate.unresolved_eq_of_display_eq {p q : Predicate} (hp : p.Legible) (hq : q.Legible)
    (hpc : AllCanonical p.comparisons) (hqc : AllCanonical q.comparisons)
    (h : p.display = q.display) : p.unresolved = q.unresolved := by
  have hspell : p.form.spell = q.form.spell := by
    rw [spell_form, spell_form, h]
  have hform := Form.spell_inj (readable_form hp) (readable_form hq) hspell
  exact unresolved_eq_of_form_eq hp hq hpc hqc hform

end RowFilter
