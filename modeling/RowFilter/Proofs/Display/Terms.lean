import RowFilter.Proofs.Display.Values
import RowFilter.Term.Basic

/-!
# The canonical text of a term determines it

A term is legible if its text can be read back: names have no character in them that stands for
something else, a literal without a value holds null, and no side of a join is the literal of a
value, since the value by itself is written alike. The text of a legible term determines it up to
the fields that its members carry (`Term.unresolved_eq_of_display_eq`).

The forms of terms start with words of five sorts that have nothing in common: the names of values,
the word of the literal without a value, the names of signs, nothing, and the text of a member,
which alone has a point in it.
-/

namespace RowFilter

/-! ### Names -/

/-- The character is a letter, a digit or an underscore. Beyond ASCII all characters count. -/
def isNameChar (c : Char) : Bool := c.isAlphanum || c == '_' || 128 ≤ c.toNat

/-- The name of a member: letters, digits and underscores. -/
structure IsMemberName (s : String) : Prop where
  ne_empty : s ≠ ""
  isNameChar : ∀ c ∈ s.toList, isNameChar c = true

instance : DecidablePred IsMemberName := fun s =>
  decidable_of_iff (s ≠ "" ∧ s.toList.all isNameChar = true)
    ⟨fun h => ⟨h.1, List.all_eq_true.mp h.2⟩,
      fun h => ⟨h.ne_empty, List.all_eq_true.mpr h.isNameChar⟩⟩

/-- The path of an owner: letters, digits, underscores and colons. -/
structure IsOwnerPath (s : String) : Prop where
  ne_empty : s ≠ ""
  isNameChar : ∀ c ∈ s.toList, isNameChar c = true ∨ c = ':'

instance : DecidablePred IsOwnerPath := fun s =>
  decidable_of_iff (s ≠ "" ∧ s.toList.all (fun c => isNameChar c || c == ':') = true)
    ⟨fun h => ⟨h.1, by simpa using h.2⟩, fun h => ⟨h.ne_empty, by simpa using h.isNameChar⟩⟩

theorem isWordChar_of_isNameChar {c : Char} (h : isNameChar c = true) : isWordChar c = true := by
  by_contra hword
  rcases eq_of_not_isWordChar hword with rfl | rfl | rfl | rfl | rfl | rfl | rfl <;>
    exact absurd h (by decide)

/-- There is no point in a path. -/
theorem IsOwnerPath.not_mem_point {s : String} (h : IsOwnerPath s) : '.' ∉ s.toList := by
  intro hmem
  rcases h.isNameChar _ hmem with hc | hc <;> revert hc <;> decide

/-- There is no point in a name. -/
theorem IsMemberName.not_mem_point {s : String} (h : IsMemberName s) : '.' ∉ s.toList := by
  intro hmem
  have hc := h.isNameChar _ hmem
  revert hc
  decide

/-- The names in a reference can be read back. -/
def MemberRef.Legible (ref : MemberRef) : Prop := IsOwnerPath ref.owner ∧ IsMemberName ref.name

namespace MemberRef

variable {a b ref : MemberRef}

theorem toList_text (ref : MemberRef) :
    ref.text.toList = ref.owner.toList ++ '.' :: ref.name.toList := by
  rw [text, String.toList_append, String.toList_append, List.append_assoc]
  rfl

/-- There is a point in the text of a reference. -/
theorem mem_text (ref : MemberRef) : '.' ∈ ref.text.toList := by
  rw [toList_text]
  exact List.mem_append_right _ List.mem_cons_self

/-- The text of a reference is no text without a point. -/
theorem text_ne {s : String} (ref : MemberRef) (h : '.' ∉ s.toList) : ref.text ≠ s := by
  rintro rfl
  exact h ref.mem_text

/-- The text of a reference is a word. -/
theorem isWord_text (h : ref.Legible) : IsWord ref.text where
  ne_empty := ref.text_ne (by decide)
  isWordChar c hc := by
    rw [toList_text, List.mem_append, List.mem_cons] at hc
    rcases hc with hc | rfl | hc
    · rcases h.1.isNameChar c hc with hc | rfl
      · exact isWordChar_of_isNameChar hc
      · rfl
    · rfl
    · exact isWordChar_of_isNameChar (h.2.isNameChar c hc)

/-- The text of a reference determines what it names. -/
theorem unresolved_eq_of_text_eq (ha : a.Legible) (h : a.text = b.text) :
    a.unresolved = b.unresolved := by
  have htext := congrArg String.toList h
  rw [toList_text, toList_text] at htext
  obtain ⟨howner, -, hname⟩ :=
    (List.append_cons_inj_of_notMem ha.1.not_mem_point ha.2.not_mem_point).mp htext
  rw [unresolved, unresolved, String.toList_inj.mp howner, String.toList_inj.mp hname]

end MemberRef

/-! ### Legible terms -/

mutual

/-- The canonical text of the term can be read back. -/
def Term.Legible : Term → Prop
  | .member ref => ref.Legible
  | .literal v assigned => assigned = false → v = .null
  | .binary l s r => s.isArithmetic = true ∧ l.LegibleSide ∧ r.LegibleSide
  | .unary s t args => s.isString = true ∧ t.Legible ∧ Term.AllLegible args

/-- The canonical text of the operand can be read back, as a side of a join. -/
def Operand.LegibleSide : Operand → Prop
  | .term t => (∀ v, t ≠ .ofValue v) ∧ t.Legible
  | .value _ => True

/-- The canonical texts of terms can be read back. -/
def Term.AllLegible : List Term → Prop
  | [] => True
  | t :: ts => t.Legible ∧ Term.AllLegible ts

end

/-! ### The form of a term -/

mutual

/-- The form of a term. -/
def Term.form : Term → Form
  | .member ref => .word ref.text
  | .literal v assigned => if assigned then v.form else .word "Unset"
  | .binary l s r => .node "" .group [l.form, .word s.token, r.form]
  | .unary s t args => .node s.label .call (t.form :: Term.formAll args)

/-- The form of an operand. -/
def Operand.form : Operand → Form
  | .term t => t.form
  | .value v => v.form

/-- The forms of terms. -/
def Term.formAll : List Term → List Form
  | [] => []
  | t :: ts => t.form :: Term.formAll ts

end

mutual

/-- The canonical text of a term is its form, spelled out. -/
theorem Term.spell_form : ∀ t : Term, t.form.spell = t.display.toList
  | .member ref => rfl
  | .literal v true => v.spell_form
  | .literal v false => rfl
  | .binary l s r => by
    simp [Term.form, Term.display, Form.spell, Form.spellParts, Form.spellRest, Bracket.opening,
      Bracket.separator, Bracket.closing, Operand.spell_form l, Operand.spell_form r]
  | .unary s t args => by
    simp [Term.form, Term.display, Form.spell, Form.spellParts, Bracket.opening,
      Term.spell_form t, Term.spellRest_formAll args]

/-- The canonical text of an operand is its form, spelled out. -/
theorem Operand.spell_form : ∀ o : Operand, o.form.spell = o.display.toList
  | .term t => t.spell_form
  | .value v => v.spell_form

/-- The canonical text of arguments is their forms, spelled out. -/
theorem Term.spellRest_formAll : ∀ ts : List Term,
    Form.spellRest .call (Term.formAll ts) = (Term.displayArgs ts).toList ++ [')']
  | [] => rfl
  | t :: ts => by
    simp [Term.formAll, Term.displayArgs, Form.spellRest, Bracket.separator, Term.spell_form t,
      Term.spellRest_formAll ts]

end

/-! ### Leading words -/

/-- The words that the forms of values start with. -/
def Value.leads : List String :=
  ["Null", "Bool", "Int", "Uint", "Float32", "Float64", "Text", "Date", "List"]

theorem Value.lead_form_mem (v : Value) : v.form.lead ∈ Value.leads := by
  cases v <;> simp [Value.form, Form.lead, Value.leads]

/-- No form of a value starts with another word. -/
theorem Value.form_ne_of_lead {v : Value} {f : Form} (h : f.lead ∉ Value.leads) : v.form ≠ f := by
  rintro rfl
  exact h v.lead_form_mem

theorem Value.unset_not_mem_leads : "Unset" ∉ Value.leads := by decide

theorem Value.empty_not_mem_leads : "" ∉ Value.leads := by decide

/-- No form of a value starts with a word with a point in it. -/
theorem Value.form_ne_member (v : Value) (ref : MemberRef) : v.form ≠ .word ref.text := by
  refine Value.form_ne_of_lead fun hmem => ?_
  have hpoint : ∀ s ∈ Value.leads, '.' ∉ s.toList := by decide
  exact ref.text_ne (hpoint _ hmem) rfl

namespace Sign

/-- The names of signs are words that no value starts with. -/
theorem label_not_mem_leads (s : Sign) : s.label ∉ Value.leads := by
  cases s <;> decide

theorem isWord_label (s : Sign) : IsWord s.label := by
  cases s <;> decide

theorem isWord_token {s : Sign} (h : s.isArithmetic = true) : IsWord s.token := by
  cases s <;> first | decide | cases h

/-- Signs have different names. -/
theorem label_injective {r s : Sign} (h : r.label = s.label) : r = s := by
  have hall : ∀ r ∈ all, ∀ s ∈ all, r.label = s.label → r = s := by decide +kernel
  exact hall r (mem_all r) s (mem_all s) h

/-- Signs have different tokens. -/
theorem token_injective {r s : Sign} (h : r.token = s.token) : r = s := by
  have hall : ∀ r ∈ all, ∀ s ∈ all, r.token = s.token → r = s := by decide +kernel
  exact hall r (mem_all r) s (mem_all s) h

end Sign

/-! ### Reading a term -/

mutual

/-- The form of a legible term can be read back. -/
theorem Term.readable_form : ∀ {t : Term}, t.Legible → t.form.Readable
  | .member ref, h => ref.isWord_text h
  | .literal v true, _ => v.readable_form
  | .literal v false, _ => (by decide : IsWord "Unset")
  | .binary l s r, ⟨hs, hl, hr⟩ =>
    ⟨rfl, Operand.readable_form hl, Sign.isWord_token hs, Operand.readable_form hr, trivial⟩
  | .unary s t args, ⟨_, ht, hargs⟩ =>
    ⟨s.isWord_label, Term.readable_form ht, Term.allReadable_formAll hargs⟩

/-- The form of a legible side can be read back. -/
theorem Operand.readable_form : ∀ {o : Operand}, o.LegibleSide → o.form.Readable
  | .term _, h => Term.readable_form h.2
  | .value v, _ => v.readable_form

/-- The forms of legible terms can be read back. -/
theorem Term.allReadable_formAll : ∀ {ts : List Term}, Term.AllLegible ts →
    Form.AllReadable (Term.formAll ts)
  | [], _ => trivial
  | _ :: _, ⟨ht, hts⟩ => ⟨Term.readable_form ht, Term.allReadable_formAll hts⟩

end

/-- A term with the form of a value is the literal of the value. -/
theorem Term.eq_ofValue_of_form_eq {t : Term} {v : Value} (h : t.form = v.form) :
    t = .ofValue v := by
  cases t with
  | member ref => exact absurd h.symm (v.form_ne_member ref)
  | literal w assigned =>
    cases assigned with
    | true => rw [ofValue, Value.form_inj w v h]
    | false => exact absurd h.symm (Value.form_ne_of_lead Value.unset_not_mem_leads)
  | binary l s r => exact absurd h.symm (Value.form_ne_of_lead Value.empty_not_mem_leads)
  | unary s t args => exact absurd h.symm (Value.form_ne_of_lead s.label_not_mem_leads)

mutual

/-- The form of a legible term determines it, up to the fields that its members carry. -/
theorem Term.unresolved_eq_of_form_eq : ∀ {t u : Term}, t.Legible → u.Legible →
    t.form = u.form → t.unresolved = u.unresolved
  | .member a, u, ha, hu, h => by
    cases u with
    | member b =>
      rw [Term.unresolved, Term.unresolved,
        MemberRef.unresolved_eq_of_text_eq ha (Form.word.inj h)]
    | literal v assigned =>
      cases assigned with
      | true => exact absurd h.symm (v.form_ne_member a)
      | false => exact absurd (Form.word.inj h) (a.text_ne (by decide))
    | binary _ _ _ => cases h
    | unary _ _ _ => cases h
  | .literal v true, u, _, _, h => by
    rw [Term.eq_ofValue_of_form_eq (t := u) (v := v) h.symm]
    rfl
  | .literal v false, u, ht, hu, h => by
    cases u with
    | member b => exact absurd (Form.word.inj h).symm (b.text_ne (by decide))
    | literal w assigned =>
      cases assigned with
      | true => exact absurd h.symm (Value.form_ne_of_lead Value.unset_not_mem_leads)
      | false => rw [ht rfl, hu rfl]
    | binary _ _ _ => cases h
    | unary _ _ _ => cases h
  | .binary l s r, u, ⟨_, hl, hr⟩, hu, h => by
    cases u with
    | member _ => cases h
    | literal w assigned =>
      cases assigned with
      | true => exact absurd h.symm (Value.form_ne_of_lead Value.empty_not_mem_leads)
      | false => cases h
    | binary l' s' r' =>
      simp only [Term.form, Form.node.injEq, List.cons.injEq, Form.word.injEq, true_and,
        and_true] at h
      obtain ⟨hleft, hs, hright⟩ := h
      rw [Term.unresolved, Term.unresolved, Sign.token_injective hs,
        Operand.unresolved_eq_of_form_eq hl hu.2.1 hleft,
        Operand.unresolved_eq_of_form_eq hr hu.2.2 hright]
    | unary s' _ _ =>
      -- a sign has a name, and a join has none
      have hlabel : "" = s'.label := (Form.node.inj h).1
      exact absurd hlabel.symm s'.isWord_label.ne_empty
  | .unary s t args, u, ⟨_, ht, hargs⟩, hu, h => by
    cases u with
    | member _ => cases h
    | literal w assigned =>
      cases assigned with
      | true => exact absurd h.symm (Value.form_ne_of_lead s.label_not_mem_leads)
      | false => cases h
    | binary _ _ _ =>
      have hlabel : s.label = "" := (Form.node.inj h).1
      exact absurd hlabel s.isWord_label.ne_empty
    | unary s' t' args' =>
      simp only [Term.form, Form.node.injEq, List.cons.injEq, true_and] at h
      obtain ⟨hs, hoperand, hrest⟩ := h
      rw [Term.unresolved, Term.unresolved, Sign.label_injective hs,
        Term.unresolved_eq_of_form_eq ht hu.2.1 hoperand,
        Term.unresolvedAll_eq_of_formAll_eq hargs hu.2.2 hrest]

/-- The form of a legible side determines it, up to the fields that its members carry. -/
theorem Operand.unresolved_eq_of_form_eq : ∀ {l r : Operand}, l.LegibleSide → r.LegibleSide →
    l.form = r.form → l.unresolved = r.unresolved
  | .term t, .term u, ⟨_, ht⟩, ⟨_, hu⟩, h => by
    rw [Operand.unresolved, Operand.unresolved, Term.unresolved_eq_of_form_eq ht hu h]
  | .term _, .value v, ⟨hne, _⟩, _, h => absurd (Term.eq_ofValue_of_form_eq h) (hne v)
  | .value v, .term _, _, ⟨hne, _⟩, h => absurd (Term.eq_ofValue_of_form_eq h.symm) (hne v)
  | .value v, .value w, _, _, h => by
    rw [Value.form_inj v w h]

/-- The forms of legible terms determine them, up to the fields that their members carry. -/
theorem Term.unresolvedAll_eq_of_formAll_eq : ∀ {ts us : List Term}, Term.AllLegible ts →
    Term.AllLegible us → Term.formAll ts = Term.formAll us →
    Term.unresolvedAll ts = Term.unresolvedAll us
  | [], [], _, _, _ => rfl
  | [], _ :: _, _, _, h => nomatch h
  | _ :: _, [], _, _, h => nomatch h
  | t :: ts, u :: us, ⟨ht, hts⟩, ⟨hu, hus⟩, h => by
    obtain ⟨hhead, htail⟩ := List.cons.inj h
    rw [Term.unresolvedAll, Term.unresolvedAll, Term.unresolved_eq_of_form_eq ht hu hhead,
      Term.unresolvedAll_eq_of_formAll_eq hts hus htail]

end

/-- The canonical text of a legible term determines it, up to the fields that its members carry. -/
theorem Term.unresolved_eq_of_display_eq {t u : Term} (ht : t.Legible) (hu : u.Legible)
    (h : t.display = u.display) : t.unresolved = u.unresolved := by
  have hspell : t.form.spell = u.form.spell := by
    rw [spell_form, spell_form, h]
  have hform := Form.spell_inj (readable_form ht) (readable_form hu) hspell
  exact unresolved_eq_of_form_eq ht hu hform

end RowFilter
