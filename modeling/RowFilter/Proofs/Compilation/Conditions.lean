import RowFilter.Proofs.Evaluation.Operations

/-!
# What the conditions of the compilation return

The operators that make conditions of operands, as those of `RowFilter.Proofs.Compilation.Operators`
make operands. The `_cases` lemmas say all that a successful operator can have done.
-/

namespace RowFilter

namespace Compilation

variable {config : Config} {shown : String} {t : Trace} {q : Option Predicate}

/-- A comparison that is kept is the one that was made. -/
theorem exists_of_outcome?_asPredicate {c : Comparator} {ignoreCase : Bool}
    {made : Except Error Comparison}
    (h : outcome? (asPredicate ignoreCase <$> compared c made) t = some q) :
    ∃ comparison, made = .ok comparison ∧ q = asPredicate ignoreCase comparison := by
  rw [outcome?_map, outcome?_compared] at h
  obtain ⟨comparison, hmade, rfl⟩ := Option.map_eq_some_iff.mp h
  exact ⟨comparison, toOption_eq_some_iff.mp hmade, rfl⟩

theorem outcome?_kindOf (u : Term) : outcome? (kindOf u) t = (u.kind t.registry).toOption := by
  rw [kindOf, outcome?_get_bind, outcome?_ofExcept]

/-- Asking for the kind of a term leaves the trace as it is. -/
theorem outcome?_kindOf_bind {α : Type} (u : Term) (f : Kind → Compilation α) :
    outcome? (kindOf u >>= f) t =
      (u.kind t.registry).toOption.bind fun kind => outcome? (f kind) t := by
  rw [kindOf, bind_assoc, outcome?_get_bind, outcome?_ofExcept_bind]

/-- A successful condition is a constant of kind boolean, or a test of a term of that kind. -/
theorem asCondition_cases {o : Operand} (h : outcome? (asCondition shown o) t = some q) :
    (∃ b, o = .value (.bool b) ∧ q = some (.shortCircuit b)) ∨
      ∃ u, o = .term u ∧ u.kind t.registry = .ok .bool ∧
        q = some (.comparison u .equal (.value (.bool true)) false) := by
  cases o with
  | value v =>
    left
    cases v with
    | bool b =>
      cases h
      exact ⟨b, rfl, rfl⟩
    | _ => cases h
  | term u =>
    right
    simp only [asCondition, outcome?_kindOf_bind] at h
    obtain ⟨kind, hkind, h⟩ := Option.bind_eq_some_iff.mp h
    split at h
    next hbool =>
      cases h
      rw [hbool] at hkind
      exact ⟨u, rfl, toOption_eq_some_iff.mp hkind, rfl⟩
    next => cases h

/-- Whether an operand has a value is known at once, or a test of a term for null. -/
theorem hasValue_cases {o : Operand} (h : outcome? (hasValue o) t = some q) :
    (∃ b, q = some (.shortCircuit b)) ∨
      ∃ u comparison, o = .term u ∧ Comparison.unary u .isNotNull = .ok comparison ∧
        q = asPredicate false comparison := by
  cases o with
  | value v =>
    left
    cases h
    exact ⟨_, rfl⟩
  | term u =>
    -- whether the term is nullable is found in two ways, and decides the rest in the same way
    have htest : ∀ (nullable : Bool) (t : Trace), outcome? (
        if nullable then asPredicate false <$> compared .isNotNull (Comparison.unary u .isNotNull)
        else foldedTo true) t = some q →
        (∃ b, q = some (.shortCircuit b)) ∨ ∃ u' comparison, Operand.term u = .term u' ∧
          Comparison.unary u' .isNotNull = .ok comparison ∧ q = asPredicate false comparison := by
      intro nullable t h
      cases nullable with
      | true =>
        obtain ⟨comparison, hmade, rfl⟩ := exists_of_outcome?_asPredicate h
        exact .inr ⟨u, comparison, rfl, hmade, rfl⟩
      | false =>
        cases h
        exact .inl ⟨true, rfl⟩
    simp only [hasValue] at h
    split at h
    · rw [outcome?_get_bind, outcome?_ofExcept_bind] at h
      obtain ⟨field, -, h⟩ := Option.bind_eq_some_iff.mp h
      exact htest field.nullable t h
    · exact htest true t h

/-- Comparing two operands keeps a term on the left, brings one there from the right, or folds. -/
theorem compareOperands_cases {c : Comparator} {ignoreCase : Bool} {l r : Operand}
    (h : outcome? (compareOperands config shown c ignoreCase l r) t = some q) :
    (∃ u comparison, l = .term u ∧
        Comparison.withOperand u c r config.wildcard = .ok comparison ∧
        q = asPredicate ignoreCase comparison) ∨
      (∃ v u comparison, l = .value v ∧ r = .term u ∧
        Comparison.withValue u c.reverse v config.wildcard = .ok comparison ∧
        q = asPredicate ignoreCase comparison) ∨
      ∃ a b truth, l = .value a ∧ r = .value b ∧
        Value.comparison? c ignoreCase a b = some truth ∧ q = some (.shortCircuit truth) := by
  cases l with
  | term u =>
    left
    simp only [compareOperands] at h
    obtain ⟨comparison, hmade, rfl⟩ := exists_of_outcome?_asPredicate h
    exact ⟨u, comparison, rfl, hmade, rfl⟩
  | value a =>
    right
    cases r with
    | term u =>
      left
      simp only [compareOperands] at h
      obtain ⟨_, _, -, h⟩ := exists_of_outcome?_bind h
      obtain ⟨comparison, hmade, rfl⟩ := exists_of_outcome?_asPredicate h
      exact ⟨a, u, comparison, rfl, rfl, hmade, rfl⟩
    | value b =>
      right
      simp only [compareOperands] at h
      split at h
      next truth htruth =>
        cases h
        exact ⟨a, b, truth, rfl, rfl, htruth, rfl⟩
      next => cases h

/-- All that a successful search of a receiver for an argument can have done. -/
inductive Searched (config : Config) (kind : PatternKind) (ignoreCase : Bool) :
    Operand → Operand → Option Predicate → Prop
  /-- A term is tested for membership in a constant list. -/
  | constantList {items : List Value} {u : Term} {made : Comparison} (hkind : kind = .contains)
      (hmade : Comparison.withValue u .isIn (.list items) config.wildcard = .ok made) :
      Searched config kind ignoreCase (.value (.list items)) (.term u) (asPredicate ignoreCase made)
  /-- A constant is tested for membership in a term that computes lists. -/
  | termList {u : Term} {v : Value} {registry : Registry} {made : Comparison}
      (hkind : kind = .contains) (hlist : u.kind registry = .ok .list)
      (hmade : Comparison.withOperand (.ofValue v) .isIn (.term u) defaultWildcard = .ok made) :
      Searched config kind ignoreCase (.term u) (.value v) (asPredicate ignoreCase made)
  /-- A term that computes texts is matched with the pattern of a constant text. -/
  | pattern {u : Term} {s : String} {registry : Registry} {made : Comparison}
      (htext : u.kind registry = .ok .text)
      (hmade : Comparison.withValue u kind.comparator (.text (kind.wrap config.wildcard s))
        config.wildcard = .ok made) :
      Searched config kind ignoreCase (.term u) (.value (.text s)) (asPredicate ignoreCase made)
  /-- A term that computes texts is matched with another term. -/
  | computedPattern {u a : Term} {registry : Registry} {made : Comparison}
      (htext : u.kind registry = .ok .text)
      (hmade : Comparison.withOperand u kind.comparator (.term a) config.wildcard = .ok made) :
      Searched config kind ignoreCase (.term u) (.term a) (asPredicate ignoreCase made)
  /-- Two constants fold. -/
  | constants {r a : Value} {truth : Bool}
      (htruth : Value.pattern? kind ignoreCase r a = some truth) :
      Searched config kind ignoreCase (.value r) (.value a) (some (.shortCircuit truth))

variable {kind : PatternKind} {ignoreCase : Bool}

/-- A constant that a term is searched for, where it is no item of the term, is a text. -/
theorem searched_of_constant {u : Term} {v : Value}
    (h : outcome? (match v with
      | .text s => do
        if (← kindOf u).isText then
          asPredicate ignoreCase <$>
            compared kind.comparator
              (Comparison.withValue u kind.comparator (.text (kind.wrap config.wildcard s))
                config.wildcard)
        else throw (.unsupportedShape shown)
      | _ => throw (.unsupportedShape shown)) t = some q) :
    Searched config kind ignoreCase (.term u) (.value v) q := by
  split at h
  next s =>
    rw [outcome?_kindOf_bind] at h
    obtain ⟨k, hk, h⟩ := Option.bind_eq_some_iff.mp h
    split at h
    next htext =>
      obtain ⟨made, hmade, rfl⟩ := exists_of_outcome?_asPredicate h
      rw [Kind.eq_text_of_isText htext] at hk
      exact .pattern (toOption_eq_some_iff.mp hk) hmade
    next => cases h
  next => cases h

/-- A successful search is one of those that `Searched` lists. -/
theorem searched_of_outcome? {receiver arg : Operand}
    (h : outcome? (searchOperands config shown kind ignoreCase receiver arg) t = some q) :
    Searched config kind ignoreCase receiver arg q := by
  unfold searchOperands at h
  split at h
  next items u =>
    split at h
    next hkind =>
      obtain ⟨made, hmade, rfl⟩ := exists_of_outcome?_asPredicate h
      exact .constantList hkind hmade
    next => cases h
  next => cases h
  next u v =>
    dsimp only at h
    split at h
    next hkind =>
      obtain ⟨listed, _, hlisted, h⟩ := exists_of_outcome?_bind h
      -- a term that computes lists is searched for an item, any other for a part of its text
      cases listed with
      | true =>
        obtain ⟨made, hmade, rfl⟩ := exists_of_outcome?_asPredicate h
        rw [outcome?_map, outcome?_kindOf] at hlisted
        obtain ⟨k, hk, hlist⟩ := Option.map_eq_some_iff.mp hlisted
        rw [of_decide_eq_true hlist] at hk
        exact .termList hkind (toOption_eq_some_iff.mp hk) hmade
      | false => exact searched_of_constant h
    next => exact searched_of_constant h
  next u a =>
    rw [outcome?_kindOf_bind] at h
    obtain ⟨k, hk, h⟩ := Option.bind_eq_some_iff.mp h
    split at h
    next htext =>
      obtain ⟨made, hmade, rfl⟩ := exists_of_outcome?_asPredicate h
      rw [Kind.eq_text_of_isText htext] at hk
      exact .computedPattern (toOption_eq_some_iff.mp hk) hmade
    next => cases h
  next r a =>
    split at h
    next truth htruth =>
      cases h
      exact .constants htruth
    next => cases h

end Compilation

end RowFilter
