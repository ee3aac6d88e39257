import RowFilter.Proofs.Text.Digits
import RowFilter.Text.Slice

/-!
# Forms of canonical texts

A canonical text is a nest of words and brackets. `Form` is that nest before it is spelled: a word,
a text between apostrophes, or forms in brackets, apart by commas or blanks and after a name.
Values, terms and predicates are spelled alike, so one proof that the spelling can be read back
(`Form.spell_inj`) serves all of them; what is left is that different trees have different forms.

A form ends where a comma, a blank or a closing bracket stands. A word has none of these in it, nor
any other character that begins a form of another sort.
-/

namespace RowFilter

/-! ### Characters -/

/-- The character stands right after a form, if anything does. -/
def endsForm (c : Char) : Bool := c == ',' || c == ' ' || c == ')' || c == ']'

/-- The character can stand in a word: it neither ends a form nor opens one. -/
def isWordChar (c : Char) : Bool := !endsForm c && c != '(' && c != '[' && c != '\''

/-- A text that can be read as one word. -/
structure IsWord (s : String) : Prop where
  /-- The text is not empty. -/
  ne_empty : s ≠ ""
  /-- No character of the text begins or ends a form. -/
  isWordChar : ∀ c ∈ s.toList, isWordChar c = true

instance : DecidablePred IsWord := fun s =>
  decidable_of_iff (s ≠ "" ∧ s.toList.all isWordChar = true)
    ⟨fun h => ⟨h.1, List.all_eq_true.mp h.2⟩,
      fun h => ⟨h.ne_empty, List.all_eq_true.mpr h.isWordChar⟩⟩

/-- What stands after a form: nothing, or a character that ends it. -/
def ClosesForm (xs : List Char) : Prop := ∀ c ∈ xs.head?, endsForm c = true

/-- The characters that can stand in no word are seven. -/
theorem eq_of_not_isWordChar {c : Char} (h : isWordChar c ≠ true) :
    c = ',' ∨ c = ' ' ∨ c = ')' ∨ c = ']' ∨ c = '(' ∨ c = '[' ∨ c = '\'' := by
  simp only [isWordChar, endsForm, Bool.not_eq_true, Bool.and_eq_false_iff, Bool.not_eq_false',
    Bool.or_eq_true, beq_iff_eq, bne_eq_false_iff_eq] at h
  tauto

theorem isWordChar_of_isDigit {c : Char} (h : c.isDigit = true) : isWordChar c = true := by
  by_contra hword
  rcases eq_of_not_isWordChar hword with rfl | rfl | rfl | rfl | rfl | rfl | rfl <;> cases h

theorem endsForm_of_isWordChar {c : Char} (h : isWordChar c = true) : endsForm c = false := by
  simp only [isWordChar, Bool.and_eq_true, Bool.not_eq_true'] at h
  exact h.1.1.1

/-! ### Quoted texts -/

namespace Text

/-- Characters with each apostrophe twice. -/
def doubled (cs : List Char) : List Char :=
  cs.flatMap fun c => if c = '\'' then ['\'', '\''] else [c]

theorem doubled_cons (c : Char) (cs : List Char) :
    doubled (c :: cs) = (if c = '\'' then ['\'', '\''] else [c]) ++ doubled cs :=
  List.flatMap_cons

/-- A quoted text is its characters between apostrophes. -/
theorem toList_quoted (s : String) :
    (quoted s).toList = '\'' :: (doubled s.toList ++ ['\'']) := by
  simp [quoted, doubled]

/-- Characters up to an apostrophe that is not doubled are determined, and so is what follows. -/
theorem doubled_append_inj {xs ys : List Char} (hxs : xs.head? ≠ some '\'')
    (hys : ys.head? ≠ some '\'') : ∀ a b : List Char,
    doubled a ++ '\'' :: xs = doubled b ++ '\'' :: ys → a = b ∧ xs = ys
  | [], [], h => ⟨rfl, (List.cons.inj h).2⟩
  | [], d :: b, h => by
    rw [doubled_cons] at h
    split at h
    -- an apostrophe before another is one of the text
    next => exact absurd (congrArg List.head? (List.cons.inj h).2) hxs
    next hd => exact absurd (List.cons.inj h).1.symm hd
  | c :: a, [], h => by
    rw [doubled_cons] at h
    split at h
    next => exact absurd (congrArg List.head? (List.cons.inj h).2).symm hys
    next hc => exact absurd (List.cons.inj h).1 hc
  | c :: a, d :: b, h => by
    rw [doubled_cons, doubled_cons, List.append_assoc, List.append_assoc] at h
    have hhead : c = d := by
      split at h <;> split at h
      next hc hd => rw [hc, hd]
      next hc hd => exact absurd (List.cons.inj h).1.symm hd
      next hc hd => exact absurd (List.cons.inj h).1 hc
      next => exact (List.cons.inj h).1
    subst hhead
    obtain ⟨rfl, hrest⟩ := doubled_append_inj hxs hys a b (List.append_cancel_left h)
    exact ⟨rfl, hrest⟩

/-- A quoted text is determined by its spelling, and so is what follows, unless that starts with one
more apostrophe. -/
theorem quoted_append_inj {s t : String} {xs ys : List Char} (hxs : xs.head? ≠ some '\'')
    (hys : ys.head? ≠ some '\'') (h : (quoted s).toList ++ xs = (quoted t).toList ++ ys) :
    s = t ∧ xs = ys := by
  rw [toList_quoted, toList_quoted, List.cons_append, List.cons_append, List.append_assoc,
    List.append_assoc] at h
  obtain ⟨hst, hrest⟩ := doubled_append_inj hxs hys _ _ (List.cons.inj h).2
  exact ⟨String.toList_inj.mp hst, hrest⟩

end Text

/-! ### Forms -/

/-- How forms are bracketed together. -/
inductive Bracket where
  /-- Round brackets after a name, with commas. -/
  | call
  /-- Square brackets after a name, with commas. -/
  | list
  /-- Round brackets alone, with blanks. -/
  | group
deriving DecidableEq

namespace Bracket

/-- The bracket in front. -/
def opening : Bracket → Char
  | call | group => '('
  | list => '['

/-- The bracket behind. -/
def closing : Bracket → Char
  | call | group => ')'
  | list => ']'

/-- What stands between two forms. -/
def separator : Bracket → List Char
  | call | list => [',', ' ']
  | group => [' ']

end Bracket

/-- A canonical text before it is spelled. -/
inductive Form where
  | word (s : String)
  | quoted (s : String)
  | node (name : String) (bracket : Bracket) (parts : List Form)

mutual

/-- The characters of a form. -/
def Form.spell : Form → List Char
  | .word s => s.toList
  | .quoted s => (Text.quoted s).toList
  | .node name bracket parts =>
    name.toList ++ bracket.opening :: Form.spellParts bracket parts

/-- The characters of forms and of the bracket behind them. -/
def Form.spellParts (bracket : Bracket) : List Form → List Char
  | [] => [bracket.closing]
  | f :: fs => f.spell ++ Form.spellRest bracket fs

/-- The characters of forms, each after a separator, and of the bracket behind them. -/
def Form.spellRest (bracket : Bracket) : List Form → List Char
  | [] => [bracket.closing]
  | f :: fs => bracket.separator ++ (f.spell ++ Form.spellRest bracket fs)

end

mutual

/-- A form can be read back: its words are words, and it is named unless it is a group. -/
def Form.Readable : Form → Prop
  | .word s => IsWord s
  | .quoted _ => True
  | .node name bracket parts =>
    (if bracket = .group then name = "" else IsWord name) ∧ Form.AllReadable parts

/-- Forms can be read back. -/
def Form.AllReadable : List Form → Prop
  | [] => True
  | f :: fs => f.Readable ∧ Form.AllReadable fs

end

namespace Form

variable {f g : Form} {bracket bracket' : Bracket} {name : String} {xs ys : List Char}

/-! ### The start of a form -/

/-- The word that a form starts with, empty if there is none. -/
def lead : Form → String
  | word s => s
  | quoted _ => ""
  | node name _ _ => name

/-- What stands after the leading word of a form. -/
def afterLead (xs : List Char) : Form → List Char
  | word _ => xs
  | quoted s => (Text.quoted s).toList ++ xs
  | node _ bracket parts => bracket.opening :: (spellParts bracket parts ++ xs)

theorem spell_append (f : Form) (xs : List Char) :
    f.spell ++ xs = f.lead.toList ++ f.afterLead xs := by
  cases f with
  | word s => rfl
  | quoted s => rw [lead, afterLead, String.toList_empty, List.nil_append, spell]
  | node name bracket parts => exact List.append_assoc _ _ _

/-- The leading word of a form is a word, if there is one. -/
theorem isWordChar_of_mem_lead (hf : f.Readable) : ∀ c ∈ f.lead.toList, isWordChar c = true := by
  cases f with
  | word s => exact hf.isWordChar
  | quoted s => nofun
  | node name bracket parts =>
    have hname := hf.1
    split at hname
    · rw [lead, hname]
      nofun
    · exact hname.isWordChar

/-- No form ends and no word goes on where the characters of a bracket or a quoted text start. -/
theorem head_afterLead (f : Form) (hxs : ClosesForm xs) :
    ∀ c ∈ (f.afterLead xs).head?, isWordChar c = false := by
  intro c hc
  cases f with
  | word s =>
    rw [isWordChar, hxs c hc]
    rfl
  | quoted s =>
    rw [afterLead, Text.toList_quoted] at hc
    cases hc
    rfl
  | node name bracket parts =>
    cases hc
    cases bracket <;> rfl

/-- Forms of one spelling start alike. -/
theorem lead_append_inj (hf : f.Readable) (hg : g.Readable) (hxs : ClosesForm xs)
    (hys : ClosesForm ys) (h : f.spell ++ xs = g.spell ++ ys) :
    f.lead = g.lead ∧ f.afterLead xs = g.afterLead ys := by
  rw [spell_append, spell_append] at h
  obtain ⟨hlead, hafter⟩ := Text.run_append_inj (isWordChar_of_mem_lead hf)
    (isWordChar_of_mem_lead hg) (head_afterLead f hxs) (head_afterLead g hys) h
  exact ⟨String.toList_inj.mp hlead, hafter⟩

/-- No form starts with a character that ends one. -/
theorem not_endsForm_head (hf : f.Readable) (xs : List Char) :
    ∃ c cs, f.spell ++ xs = c :: cs ∧ endsForm c = false := by
  rw [spell_append]
  cases hlead : f.lead.toList with
  | cons c cs =>
    have hc := isWordChar_of_mem_lead hf c (by rw [hlead]; exact List.mem_cons_self)
    exact ⟨c, _, rfl, endsForm_of_isWordChar hc⟩
  | nil =>
    cases f with
    | word s => exact absurd (String.toList_eq_nil_iff.mp hlead) hf.ne_empty
    | quoted s =>
      rw [afterLead, Text.toList_quoted]
      exact ⟨'\'', _, rfl, rfl⟩
    | node name bracket parts => exact ⟨bracket.opening, _, rfl, by cases bracket <;> rfl⟩

/-! ### Brackets -/

/-- No form ends at an opening bracket. -/
theorem not_closesForm_opening (bracket : Bracket) (cs : List Char) :
    ¬ClosesForm (bracket.opening :: cs) := by
  intro h
  have hopening := h bracket.opening rfl
  cases bracket <;> cases hopening

/-- A quoted text does not start like a bracket. -/
theorem quoted_ne_opening (s : String) (bracket : Bracket) (xs ys : List Char) :
    (Text.quoted s).toList ++ xs ≠ bracket.opening :: ys := by
  intro h
  rw [Text.toList_quoted] at h
  have hopening := (List.cons.inj h).1
  cases bracket <;> cases hopening

/-- No apostrophe stands right after a form. -/
theorem head?_ne_of_closesForm (h : ClosesForm xs) : xs.head? ≠ some '\'' := by
  intro hhead
  cases h _ hhead

/-- The name and the opening bracket tell how forms are bracketed. -/
theorem bracket_eq (h : if bracket = .group then name = "" else IsWord name)
    (h' : if bracket' = .group then name = "" else IsWord name)
    (hopening : bracket.opening = bracket'.opening) : bracket = bracket' := by
  -- only a group has no name
  have hname : bracket = .group ↔ bracket' = .group := by
    constructor <;> intro hgroup <;> by_contra hnamed <;> simp only [hgroup, hnamed, if_true,
      if_false] at h h'
    · exact h'.ne_empty h
    · exact h.ne_empty h'
  cases bracket <;> cases bracket' <;> first | rfl | (simp at hname; done) | cases hopening

/-- Separators and closing brackets end a form. -/
theorem closesForm_spellRest (bracket : Bracket) (fs : List Form) (xs : List Char) :
    ClosesForm (spellRest bracket fs ++ xs) := by
  cases fs <;> cases bracket <;> rintro c ⟨⟩ <;> rfl

/-- A separator is no closing bracket. -/
theorem separator_ne_closing (bracket : Bracket) (xs ys : List Char) :
    bracket.separator ++ xs ≠ bracket.closing :: ys := by
  cases bracket <;> simp [Bracket.separator, Bracket.closing]

/-! ### Reading a form -/

mutual

/-- A form that can be read is determined by its spelling, and so is what follows if it closes the
form. -/
theorem spell_append_inj : ∀ (f g : Form) {xs ys : List Char}, f.Readable → g.Readable →
    ClosesForm xs → ClosesForm ys → f.spell ++ xs = g.spell ++ ys → f = g ∧ xs = ys := by
  intro f g xs ys hf hg hxs hys h
  obtain ⟨hlead, hafter⟩ := lead_append_inj hf hg hxs hys h
  cases f with
  | word s =>
    cases g with
    | word t => exact ⟨congrArg word hlead, hafter⟩
    | quoted t => exact absurd hlead hf.ne_empty
    | node name bracket parts =>
      rw [afterLead, afterLead] at hafter
      exact absurd (hafter ▸ hxs) (not_closesForm_opening bracket _)
  | quoted s =>
    cases g with
    | word t => exact absurd hlead.symm hg.ne_empty
    | quoted t =>
      obtain ⟨rfl, hrest⟩ := Text.quoted_append_inj (head?_ne_of_closesForm hxs)
        (head?_ne_of_closesForm hys) hafter
      exact ⟨rfl, hrest⟩
    | node name bracket parts => exact absurd hafter (quoted_ne_opening s bracket _ _)
  | node name bracket parts =>
    cases g with
    | word t =>
      rw [afterLead, afterLead] at hafter
      exact absurd (hafter ▸ hys) (not_closesForm_opening bracket _)
    | quoted t => exact absurd hafter.symm (quoted_ne_opening t bracket _ _)
    | node name' bracket' parts' =>
      obtain rfl : name = name' := hlead
      obtain ⟨hopening, hparts⟩ := List.cons.inj hafter
      -- the same name and opening bracket, so the parts are between the same brackets
      obtain rfl := bracket_eq hf.1 hg.1 hopening
      obtain ⟨rfl, hrest⟩ := spellParts_append_inj bracket parts parts' hf.2 hg.2 hparts
      exact ⟨rfl, hrest⟩

/-- Forms in brackets are determined by their spelling, and so is what follows. -/
theorem spellParts_append_inj (bracket : Bracket) : ∀ (fs gs : List Form) {xs ys : List Char},
    AllReadable fs → AllReadable gs →
    spellParts bracket fs ++ xs = spellParts bracket gs ++ ys → fs = gs ∧ xs = ys
  | [], [], _, _, _, _, h => ⟨rfl, (List.cons.inj h).2⟩
  | [], g :: gs, _, ys, _, hgs, h => by
    obtain ⟨c, cs, hspell, hc⟩ := not_endsForm_head hgs.1 (spellRest bracket gs ++ ys)
    rw [spellParts, spellParts, List.append_assoc, hspell] at h
    rw [← (List.cons.inj h).1] at hc
    cases bracket <;> cases hc
  | f :: fs, [], xs, _, hfs, _, h => by
    obtain ⟨c, cs, hspell, hc⟩ := not_endsForm_head hfs.1 (spellRest bracket fs ++ xs)
    rw [spellParts, spellParts, List.append_assoc, hspell] at h
    rw [(List.cons.inj h).1] at hc
    cases bracket <;> cases hc
  | f :: fs, g :: gs, xs, ys, hfs, hgs, h => by
    rw [spellParts, spellParts, List.append_assoc, List.append_assoc] at h
    obtain ⟨rfl, hrest⟩ := spell_append_inj f g hfs.1 hgs.1 (closesForm_spellRest bracket fs xs)
      (closesForm_spellRest bracket gs ys) h
    obtain ⟨rfl, hend⟩ := spellRest_append_inj bracket fs gs hfs.2 hgs.2 hrest
    exact ⟨rfl, hend⟩

/-- Forms after separators are determined by their spelling, and so is what follows. -/
theorem spellRest_append_inj (bracket : Bracket) : ∀ (fs gs : List Form) {xs ys : List Char},
    AllReadable fs → AllReadable gs →
    spellRest bracket fs ++ xs = spellRest bracket gs ++ ys → fs = gs ∧ xs = ys
  | [], [], _, _, _, _, h => ⟨rfl, (List.cons.inj h).2⟩
  | [], g :: gs, _, ys, _, _, h => by
    rw [spellRest, spellRest, List.append_assoc] at h
    exact absurd h.symm (separator_ne_closing bracket _ _)
  | f :: fs, [], xs, _, _, _, h => by
    rw [spellRest, spellRest, List.append_assoc] at h
    exact absurd h (separator_ne_closing bracket _ _)
  | f :: fs, g :: gs, xs, ys, hfs, hgs, h => by
    simp only [spellRest, List.append_assoc] at h
    obtain ⟨rfl, hrest⟩ := spell_append_inj f g hfs.1 hgs.1 (closesForm_spellRest bracket fs xs)
      (closesForm_spellRest bracket gs ys) (List.append_cancel_left h)
    obtain ⟨rfl, hend⟩ := spellRest_append_inj bracket fs gs hfs.2 hgs.2 hrest
    exact ⟨rfl, hend⟩

end

/-- A form that can be read is determined by its spelling. -/
theorem spell_inj (hf : f.Readable) (hg : g.Readable) (h : f.spell = g.spell) : f = g := by
  have hend : ClosesForm [] := nofun
  exact (spell_append_inj f g hf hg hend hend (congrArg (· ++ []) h)).1

end Form

end RowFilter
