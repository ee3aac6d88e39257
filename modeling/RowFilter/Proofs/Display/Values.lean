import RowFilter.Proofs.Calendar.Text
import RowFilter.Proofs.Display.Forms
import RowFilter.Proofs.Floating.Text
import RowFilter.Value.Basic

/-!
# The canonical text of a value determines it

Every value has a form with its kind as a name, null being a word by itself. The content of a
number, a truth value or a day is one word, whatever its text is like, and that of a text is quoted.
-/

namespace RowFilter

/-- A text is a word if its characters are digits or some others that can stand in words. -/
theorem IsWord.of_digits_or {s : String} (others : String) (hne : s ≠ "")
    (h : ∀ c ∈ s.toList, c.isDigit = true ∨ c ∈ others.toList)
    (hothers : others.toList.all RowFilter.isWordChar = true) : IsWord s where
  ne_empty := hne
  isWordChar c hc := by
    rcases h c hc with hdigit | hother
    · exact isWordChar_of_isDigit hdigit
    · exact List.all_eq_true.mp hothers c hother

/-- The text of a natural number is a word. -/
theorem isWord_nat (n : Nat) : IsWord (toString n) := by
  refine .of_digits_or "" (fun h => ?_) (fun c hc => .inl ?_) rfl
  · exact Nat.toDigits_ne_nil (Text.toList_nat n ▸ congrArg String.toList h)
  · rw [Text.toList_nat] at hc
    exact Nat.isDigit_of_mem_toDigits (by decide) (by decide) hc

/-- The text of an integer is a word. -/
theorem isWord_int (n : Int) : IsWord (toString n) := by
  have htext := Text.toList_int n
  refine .of_digits_or "-" (fun h => ?_) (fun c hc => ?_) (by decide)
  · rw [h] at htext
    exact Nat.toDigits_ne_nil (List.append_eq_nil_iff.mp htext.symm).2
  · rw [htext, List.mem_append] at hc
    rcases hc with hc | hc
    · split at hc
      · exact .inr hc
      · cases hc
    · exact .inl (Nat.isDigit_of_mem_toDigits (by decide) (by decide) hc)

/-- The text of a truth value is a word. -/
theorem isWord_bool (b : Bool) : IsWord (toString b) := by
  cases b <;> decide

/-- The text of a truth value determines it. -/
theorem Text.bool_inj {a b : Bool} (h : toString a = toString b) : a = b := by
  cases a <;> cases b <;> first | rfl | exact absurd h (by decide)

/-- The text of a finite number is a word. -/
theorem isWord_float {f : FloatFormat} (x : Finite f) : IsWord x.toFloating.text :=
  .of_digits_or ".-" x.text_ne_empty (fun _ => Finite.mem_text) (by decide)

/-- The text of a day is a word. -/
theorem isWord_date (d : Date) : IsWord d.text :=
  .of_digits_or "-+epochd" d.text_ne_empty (fun _ => Date.mem_text) (by decide)

namespace Value

/-! ### The form of a value -/

mutual

/-- The form of a value. -/
def form : Value → Form
  | null => .word "Null"
  | bool b => .node "Bool" .call [.word (toString b)]
  | int n => .node "Int" .call [.word (toString n.toInt)]
  | uint n => .node "Uint" .call [.word (toString n.toNat)]
  | float32 x => .node "Float32" .call [.word x.toFloating.text]
  | float64 x => .node "Float64" .call [.word x.toFloating.text]
  | text s => .node "Text" .call [.quoted s]
  | date d => .node "Date" .call [.word d.text]
  | list items => .node "List" .list (formAll items)

/-- The forms of values. -/
def formAll : List Value → List Form
  | [] => []
  | v :: vs => v.form :: formAll vs

end

/-- A name with one part in round brackets, spelled out. -/
theorem spell_call (name : String) (f : Form) :
    (Form.node name .call [f]).spell = name.toList ++ '(' :: (f.spell ++ [')']) := rfl

mutual

/-- The canonical text of a value is its form, spelled out. -/
theorem spell_form : ∀ v : Value, v.form.spell = v.display.toList
  | null => rfl
  | bool b => by simp [form, display, spell_call, Form.spell]
  | int n => by simp [form, display, spell_call, Form.spell]
  | uint n => by simp [form, display, spell_call, Form.spell]
  | float32 x => by simp [form, display, spell_call, Form.spell]
  | float64 x => by simp [form, display, spell_call, Form.spell]
  | text s => by simp [form, display, spell_call, Form.spell]
  | date d => by simp [form, display, spell_call, Form.spell]
  | list items => by
    rw [form, display, Form.spell, spellParts_formAll items]
    simp [Bracket.opening]

/-- The canonical texts of items, apart by commas, are their forms, spelled out. -/
theorem spellParts_formAll : ∀ vs : List Value,
    Form.spellParts .list (formAll vs) = (", ".intercalate (displayItems vs)).toList ++ [']']
  | [] => by simp [formAll, Form.spellParts, Bracket.closing]
  | [v] => by
    simp [formAll, Form.spellParts, Form.spellRest, spell_form v, Bracket.closing, displayItems]
  | v :: w :: vs => by
    have hrest := spellParts_formAll (w :: vs)
    simp only [formAll, Form.spellParts] at hrest
    simp only [formAll, Form.spellParts, Form.spellRest, hrest, spell_form v, displayItems,
      String.intercalate_cons_cons, String.toList_append, List.append_assoc]
    rfl

end

mutual

/-- The form of a value can be read back. -/
theorem readable_form : ∀ v : Value, v.form.Readable
  | null => (by decide : IsWord "Null")
  | bool b => ⟨by decide, isWord_bool b, trivial⟩
  | int n => ⟨by decide, isWord_int n.toInt, trivial⟩
  | uint n => ⟨by decide, isWord_nat n.toNat, trivial⟩
  | float32 x => ⟨by decide, isWord_float x, trivial⟩
  | float64 x => ⟨by decide, isWord_float x, trivial⟩
  | text s => ⟨by decide, trivial, trivial⟩
  | date d => ⟨by decide, isWord_date d, trivial⟩
  | list items => ⟨by decide, allReadable_formAll items⟩

/-- The forms of values can be read back. -/
theorem allReadable_formAll : ∀ vs : List Value, Form.AllReadable (formAll vs)
  | [] => trivial
  | v :: vs => ⟨readable_form v, allReadable_formAll vs⟩

end

/-! ### Different values have different forms -/

mutual

/-- The form of a value determines it. -/
theorem form_inj : ∀ v w : Value, v.form = w.form → v = w
  | null, w, h => by
    cases w <;> first | rfl | simp [form] at h
  | bool a, w, h => by
    cases w with
    | bool b =>
      simp only [form, Form.node.injEq, List.cons.injEq, Form.word.injEq] at h
      rw [Text.bool_inj h.2.2.1]
    | _ => simp [form] at h
  | int m, w, h => by
    cases w with
    | int n =>
      simp only [form, Form.node.injEq, List.cons.injEq, Form.word.injEq] at h
      rw [Int64.toInt_inj.mp (Text.int_inj h.2.2.1)]
    | _ => simp [form] at h
  | uint m, w, h => by
    cases w with
    | uint n =>
      simp only [form, Form.node.injEq, List.cons.injEq, Form.word.injEq] at h
      rw [UInt64.toNat_inj.mp (Text.nat_inj h.2.2.1)]
    | _ => simp [form] at h
  | float32 x, w, h => by
    cases w with
    | float32 y =>
      simp only [form, Form.node.injEq, List.cons.injEq, Form.word.injEq] at h
      rw [Finite.text_injective RoundingInterval.digitsSuffice_single h.2.2.1]
    | _ => simp [form] at h
  | float64 x, w, h => by
    cases w with
    | float64 y =>
      simp only [form, Form.node.injEq, List.cons.injEq, Form.word.injEq] at h
      rw [Finite.text_injective RoundingInterval.digitsSuffice_double h.2.2.1]
    | _ => simp [form] at h
  | text s, w, h => by
    cases w with
    | text t =>
      simp only [form, Form.node.injEq, List.cons.injEq, Form.quoted.injEq] at h
      rw [h.2.2.1]
    | _ => simp [form] at h
  | date a, w, h => by
    cases w with
    | date b =>
      simp only [form, Form.node.injEq, List.cons.injEq, Form.word.injEq] at h
      rw [Date.text_injective h.2.2.1]
    | _ => simp [form] at h
  | list vs, w, h => by
    cases w with
    | list ws =>
      simp only [form, Form.node.injEq, true_and] at h
      rw [formAll_inj vs ws h]
    | _ => simp [form] at h

/-- The forms of values determine them. -/
theorem formAll_inj : ∀ vs ws : List Value, formAll vs = formAll ws → vs = ws
  | [], [], _ => rfl
  | [], _ :: _, h => nomatch h
  | _ :: _, [], h => nomatch h
  | v :: vs, w :: ws, h => by
    obtain ⟨hhead, htail⟩ := List.cons.inj h
    rw [form_inj v w hhead, formAll_inj vs ws htail]

end

/-- The canonical text of a value determines it. -/
theorem display_inj {v w : Value} (h : v.display = w.display) : v = w := by
  have hspell : v.form.spell = w.form.spell := by
    rw [spell_form, spell_form, h]
  exact form_inj v w (Form.spell_inj (readable_form v) (readable_form w) hspell)

end Value

end RowFilter
