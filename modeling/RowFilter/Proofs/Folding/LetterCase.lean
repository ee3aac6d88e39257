import RowFilter.Compilation.Basic
import RowFilter.Proofs.Compilation.Equations

/-!
# Letter case in folded searches

A search method on two constants folds to a truth value. One that ignores letter case should fold as
the plain method does on the constants in lowercase, texts inside of lists included. It does for
texts. For a list it does not look at letter case at all: the flag has no effect there
(`pattern?_list`), so an item that differs from the argument in letter case only is not found.

That is the only difference, and it goes one way: what is found is found in lowercase too.
-/

namespace RowFilter

namespace Value

mutual

/-- A value in lowercase, with every text inside of it. -/
def lowercased : Value → Value
  | text s => text (Text.lower s)
  | list items => list (lowercasedItems items)
  | v => v

/-- The items of a list in lowercase. -/
def lowercasedItems : List Value → List Value
  | [] => []
  | v :: vs => lowercased v :: lowercasedItems vs

end

@[simp]
theorem lowercasedItems_eq_map (vs : List Value) : lowercasedItems vs = vs.map lowercased := by
  induction vs with
  | nil => rfl
  | cons v vs ih => simp [lowercasedItems, ih]

/-- The receiver is a list, no item of it is the argument, and some item is in lowercase. -/
def Overlooks (kind : PatternKind) (receiver arg : Value) : Prop :=
  kind = .contains ∧ ∃ items, receiver = list items ∧
    (∀ v ∈ items, v.same arg = false) ∧ ∃ v ∈ items, v.lowercased.same arg.lowercased = true

variable {kind : PatternKind} {r a b v : Value} {items : List Value}

/-! ### Lowercase of single values -/

/-- Only null is null in lowercase. -/
theorem lowercased_eq_null_iff : v.lowercased = .null ↔ v = .null := by
  cases v <;> simp [lowercased]

/-- A text is the same constant as an equal text only. -/
theorem same_text_iff {s : String} : (text s).same b = true ↔ text s = b := by
  cases b with
  | text t =>
    simp only [same, compare?, Text.compare, beq_iff_eq, text.injEq]
    exact Std.LawfulEqCmp.compare_eq_iff_eq
  | _ => simp [same, compare?, isNumeric, kind, Kind.isNumeric]

/-- A list is the same constant as an equal list only. -/
theorem same_list_iff : (list items).same b = true ↔ list items = b := by
  cases b <;> simp [same, compare?, isNumeric, kind, Kind.isNumeric]

/-- Constants that are the same are so in lowercase. -/
theorem same_lowercased (h : a.same b = true) : a.lowercased.same b.lowercased = true := by
  cases a with
  | text s =>
    rw [← same_text_iff.mp h]
    exact same_text_iff.mpr rfl
  | list items =>
    rw [← same_list_iff.mp h]
    exact same_list_iff.mpr rfl
  | _ =>
    -- the first value stays as it is, so only a text or a list could differ from it in lowercase
    cases b with
    | text t => simp [same, compare?, isNumeric, Value.kind, Kind.isNumeric] at h
    | list items => simp [same, compare?, isNumeric, Value.kind, Kind.isNumeric] at h
    | _ => exact h

/-! ### Searches of constants -/

/-- On a list the flag has no effect. -/
theorem pattern?_list (kind : PatternKind) (ignoreCase : Bool) (items : List Value) (a : Value) :
    pattern? kind ignoreCase (.list items) a = pattern? kind false (.list items) a := by
  cases a <;> rfl

/-- A search for one of the items of a list, or for none of them. -/
theorem pattern?_contains_list (ignoreCase : Bool) (items : List Value) (a : Value) :
    pattern? .contains ignoreCase (.list items) a = some (items.any (·.same a)) := by
  cases a <;> rfl

/-- A search that overlooks an item finds nothing, and finds the item in lowercase. -/
theorem Overlooks.pattern? (h : Overlooks kind r a) :
    Value.pattern? kind true r a = some false ∧
      Value.pattern? kind false r.lowercased a.lowercased = some true := by
  obtain ⟨rfl, items, rfl, hnone, v, hv, hsome⟩ := h
  rw [pattern?_contains_list, lowercased, pattern?_contains_list, lowercasedItems_eq_map]
  constructor
  · rw [List.any_eq_false.mpr fun v hv => by rw [hnone v hv]; exact Bool.false_ne_true]
  · rw [List.any_eq_true.mpr ⟨_, List.mem_map_of_mem hv, hsome⟩]

/-- A search that overlooks nothing has the result of the plain search in lowercase. -/
theorem pattern?_lowercased (h : ¬ Overlooks kind r a) :
    pattern? kind true r a = pattern? kind false r.lowercased a.lowercased := by
  cases r with
  | text s => cases a <;> rfl
  | list items =>
    rw [pattern?_list, lowercased]
    by_cases hkind : kind = .contains
    · subst hkind
      rw [pattern?_contains_list, pattern?_contains_list, lowercasedItems_eq_map, List.any_map,
        Option.some.injEq, Bool.eq_iff_iff, List.any_eq_true, List.any_eq_true]
      constructor
      · rintro ⟨v, hv, hsame⟩
        exact ⟨v, hv, same_lowercased hsame⟩
      · rintro ⟨v, hv, hsame⟩
        by_contra hnone
        push Not at hnone
        exact h ⟨rfl, items, rfl, fun w hw => Bool.eq_false_iff.mpr (hnone w hw), v, hv, hsame⟩
    · cases a <;> simp [pattern?, hkind]
  | _ => cases a <;> rfl

end Value

namespace Compilation

/-- A search of a constant for a constant that is not null folds, if it has a truth value and there
is depth for its parts. -/
theorem outcome?_search_constants {config : Config} {n : Nat} {entity : Entity} {t : Trace}
    {e : Expr} {method : String} {args : List Expr} {ignoreCase : Bool} {kind : PatternKind}
    {r a : Value} (hcall : receiver? e = some (.constant r, method, args))
    (hargs : soleArgument? args = some (.constant a, ignoreCase))
    (hkind : PatternKind.ofMethod? method = some kind) (ha : a ≠ .null) :
    outcome? (lowerPredicate config (n + 2) entity e) t =
      (Value.pattern? kind ignoreCase r a).map fun truth => some (.shortCircuit truth) := by
  have hvalue : (Operand.value a).value? ≠ some .null := fun h => ha (Option.some.inj h)
  rw [lowerPredicate_of_search _ _ _ hcall hargs hkind, lowerOperand_constant, pure_bind,
    if_neg hvalue, lowerOperand_constant, pure_bind]
  simp only [searchOperands]
  cases Value.pattern? kind ignoreCase r a <;> rfl

/-- Such a search compiles to its truth value if the entity is accepted and the depth suffices for
its parts, and fails otherwise. -/
theorem toOption_compilePredicate_constants {method : String} (args : List Expr) {ignoreCase : Bool}
    {kind : PatternKind} (r : Value) {a : Value} (entity : Entity) (config : Config) (t : Trace)
    (hargs : soleArgument? args = some (.constant a, ignoreCase))
    (hkind : PatternKind.ofMethod? method = some kind) (ha : a ≠ .null) :
    ((compilePredicate entity config (.call (.constant r) method args)).run t).1.toOption =
      if (t.registry.register entity).toOption.isSome ∧ 2 ≤ config.maxDepth then
        (Value.pattern? kind ignoreCase r a).map fun truth => some (.shortCircuit truth)
      else none := by
  rw [compilePredicate, toOption_run_overEntity]
  cases t.registry.register entity with
  | error err => rfl
  | ok registry =>
    rcases config.maxDepth with _ | _ | n
    · rfl
    · -- the call is read, and there is no depth left for its argument
      rw [lowerPredicate_of_search _ _ _ rfl hargs hkind]
      rfl
    · have hdepth : 2 ≤ n + 2 := Nat.le_add_left 2 n
      exact (outcome?_search_constants rfl hargs hkind ha).trans (if_pos ⟨rfl, hdepth⟩).symm

end Compilation

/-- A search of a constant that ignores letter case compiles to the truth value of the plain search
in lowercase, and fails where that fails, unless it overlooks an item of a list: then the plain
search in lowercase is true, and it is false. -/
theorem compile_callIgnoringCase {method : String} {kind : PatternKind}
    (hmethod : PatternKind.ofMethod? method = some kind) {a : Value} (ha : a ≠ .null) (r : Value)
    (entity : Entity) (config : Config) (t : Trace) :
    let ignoring := ((compilePredicate entity config
      (.callIgnoringCase method (.constant r) (.constant a))).run t).1.toOption
    let lowercase := ((compilePredicate entity config
      (.callWith method (.constant r.lowercased) (.constant a.lowercased))).run t).1.toOption
    (∀ q, lowercase = some q → ∃ truth, q = some (.shortCircuit truth)) ∧
      (¬ Value.Overlooks kind r a → ignoring = lowercase) ∧
      (Value.Overlooks kind r a →
        ignoring = none ∧ lowercase = none ∨
        ignoring = some (some (.shortCircuit false)) ∧
          lowercase = some (some (.shortCircuit true))) := by
  intro ignoring lowercase
  have hnull : a.lowercased ≠ .null := mt Value.lowercased_eq_null_iff.mp ha
  have hignoring := Compilation.toOption_compilePredicate_constants
    [.constant a, .constant (.bool true)] r entity config t rfl hmethod ha
  have hlowercase := Compilation.toOption_compilePredicate_constants
    [.constant a.lowercased] r.lowercased entity config t rfl hmethod hnull
  change ignoring = _ at hignoring
  change lowercase = _ at hlowercase
  rw [hignoring, hlowercase]
  -- both compile or neither does, and then their truth values decide
  split
  · refine ⟨?_, ?_, ?_⟩
    · intro q hq
      obtain ⟨truth, -, rfl⟩ := Option.map_eq_some_iff.mp hq
      exact ⟨truth, rfl⟩
    · intro h
      rw [Value.pattern?_lowercased h]
    · intro h
      rw [h.pattern?.1, h.pattern?.2]
      exact .inr ⟨rfl, rfl⟩
  · exact ⟨nofun, fun _ => rfl, fun _ => .inl ⟨rfl, rfl⟩⟩

/-- Texts are compared in lowercase on both sides. -/
theorem compile_callIgnoringCase_text :
    let person : Entity := ⟨"Person", "person", [⟨"name", .text, false⟩]⟩
    PatternKind.ofMethod? "starts_with" = some .startsWith ∧ Value.text "AD" ≠ .null ∧
      ¬ Value.Overlooks .startsWith (.text "Ada") (.text "AD") ∧
      ((compilePredicate person .default (.callIgnoringCase "starts_with" (.constant (.text "Ada"))
        (.constant (.text "AD")))).run ⟨.empty, []⟩).1.toOption =
        ((compilePredicate person .default (.callWith "starts_with"
          (.constant (Value.text "Ada").lowercased)
          (.constant (Value.text "AD").lowercased))).run ⟨.empty, []⟩).1.toOption := by
  intro person
  have hmethod : PatternKind.ofMethod? "starts_with" = some .startsWith := by decide
  have hnull : Value.text "AD" ≠ .null := nofun
  have hplain : ¬ Value.Overlooks .startsWith (.text "Ada") (.text "AD") := by
    rintro ⟨hkind, -⟩
    cases hkind
  obtain ⟨-, hsame, -⟩ := compile_callIgnoringCase hmethod hnull (.text "Ada") person .default
    ⟨.empty, []⟩
  exact ⟨hmethod, hnull, hplain, hsame hplain⟩

/-- A list whose only item is the argument but for letter case: the search that ignores letter case
folds to false, and the plain search in lowercase to true. -/
theorem compile_callIgnoringCase_list :
    let person : Entity := ⟨"Person", "person", [⟨"name", .text, false⟩]⟩
    let names := Value.list [.text "A"]
    names.lowercased = .list [.text "a"] ∧
      ((compilePredicate person .default (.callIgnoringCase "contains" (.constant names)
        (.constant (.text "a")))).run ⟨.empty, []⟩).1 = .ok (some (.shortCircuit false)) ∧
      ((compilePredicate person .default (.callWith "contains" (.constant names.lowercased)
        (.constant (Value.text "a").lowercased))).run ⟨.empty, []⟩).1 =
        .ok (some (.shortCircuit true)) := by
  intro person names
  exact ⟨rfl, rfl, rfl⟩

end RowFilter
