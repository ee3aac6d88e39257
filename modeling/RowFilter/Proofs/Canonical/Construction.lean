import Mathlib.Tactic.SplitIfs
import RowFilter.Proofs.Compilation.Comparators

/-!
# Comparisons that can be made

`Comparison.MadeUnder` says that some constructor returns a comparison under a wildcard, and
`Comparison.remake` hands the parts of a comparison to the constructor of its right side once more.

All constructors but one go through `Comparison.assign`, so everything about them is read off
`Comparison.Assigned`, which lists what assigning a value can give. Two facts follow from it:

* `made_iff_isCanonical`: the comparisons that can be made are those of canonical shape;
* `remake_of_madeUnder`: a comparison that was made is made again from its own parts.
-/

namespace RowFilter

namespace Comparator

/-- The comparator for a list takes a right side if the comparator does. -/
@[simp]
theorem acceptsValue_forList (c : Comparator) : c.forList.acceptsValue = c.acceptsValue := by
  cases c <;> rfl

/-- The comparator for a text with wildcards takes a right side if the comparator does. -/
@[simp]
theorem acceptsValue_forWildcard (c : Comparator) :
    c.forWildcard.acceptsValue = c.acceptsValue := by
  cases c <;> rfl

/-- A comparator that takes no right side is of neither family. -/
theorem isFamily_of_not_acceptsValue {c : Comparator} (h : c.acceptsValue = false) :
    c.isEqualFamily = false ∧ c.isGreaterFamily = false := by
  rw [acceptsValue] at h
  exact Bool.or_eq_false_iff.mp h

end Comparator

namespace Comparison

variable {left : Term} {c c' : Comparator} {v : Value} {w : Char} {right : RightSide}
  {made : Comparison}

/-! ### Assigning a value -/

/-- All that assigning a value to a comparator can give: a comparator and a right side. -/
inductive Assigned (w : Char) (c : Comparator) : Value → Comparator → RightSide → Prop
  /-- Null under a comparator of the equal family is a test for null. -/
  | isNull (h : c.isEqualFamily = true) : Assigned w c .null .isNull .empty
  /-- Null under a comparator of the greater family is a test for a value. -/
  | isNotNull (h : c.isGreaterFamily = true) : Assigned w c .null .isNotNull .empty
  /-- Null under no comparator at all is a truth value. -/
  | absent (h : c = .absent) : Assigned w c .null .absent (.predicate (.shortCircuit true))
  /-- Null leaves a comparator that stands alone as it is. -/
  | alone (h : c.acceptsValue = false) (hne : c ≠ .absent) : Assigned w c .null c .empty
  /-- A list makes equality a membership. -/
  | list {v : Value} (h : c.acceptsValue = true) (hv : v.isList = true) :
      Assigned w c v c.forList (.value v)
  /-- A text with wildcards makes equality a pattern match. -/
  | pattern {v : Value} (h : c.acceptsValue = true) (hv : v.isWildcarded w = true) :
      Assigned w c v c.forWildcard (.value v)
  /-- Any other value is assigned as it is. -/
  | plain {v : Value} (h : c.acceptsValue = true) (hnull : v.isNull = false)
      (hlist : v.isList = false) (hwild : v.isWildcarded w = false) :
      Assigned w c v c (.value v)

/-- A value is not null if it is a list. -/
theorem isNull_of_isList (h : v.isList = true) : v.isNull = false := by
  cases v <;> first | rfl | cases h

/-- A value with wildcards is a text, hence neither null nor a list. -/
theorem isText_of_isWildcarded (h : v.isWildcarded w = true) :
    v.isNull = false ∧ v.isList = false := by
  cases v <;> first | exact ⟨rfl, rfl⟩ | cases h

/-- Assigning a value gives what `Assigned` lists, and nothing else. -/
theorem assign_eq_ok_iff : assign c v w = .ok (c', right) ↔ Assigned w c v c' right := by
  constructor
  · intro h
    unfold assign at h
    split at h
    next hnull =>
      have hv : v = .null := by cases v <;> first | rfl | cases hnull
      subst hv
      -- the branches ask for the two families, for no comparator, and leave the rest
      split_ifs at h with hequal hgreater habsent <;> cases h
      · exact .isNull hequal
      · exact .isNotNull hgreater
      · exact .absent habsent
      · exact .alone (by rw [Comparator.acceptsValue]; simp [hequal, hgreater]) habsent
    next hnull =>
      split_ifs at h with haccepts hlist hwild
      all_goals
        cases h
        rw [Bool.not_eq_true', Bool.not_eq_false] at haccepts
      · exact .list haccepts hlist
      · exact .pattern haccepts hwild
      · exact .plain haccepts (Bool.eq_false_iff.mpr hnull) (Bool.eq_false_iff.mpr hlist)
          (Bool.eq_false_iff.mpr hwild)
  · intro h
    cases h with
    | isNull h => simp [assign, Value.isNull, h]
    | isNotNull h =>
      -- the equal family is asked for first, and shares no comparator with the greater one
      have hequal : c.isEqualFamily = false := by cases c <;> first | rfl | cases h
      simp [assign, Value.isNull, h, hequal]
    | absent h =>
      subst h
      rfl
    | alone h hne =>
      obtain ⟨hequal, hgreater⟩ := Comparator.isFamily_of_not_acceptsValue h
      simp [assign, Value.isNull, hequal, hgreater, hne]
    | list h hv => simp [assign, h, hv, isNull_of_isList hv]
    | pattern h hv =>
      obtain ⟨hnull, hlist⟩ := isText_of_isWildcarded hv
      simp [assign, h, hv, hnull, hlist]
    | plain h hnull hlist hwild => simp [assign, h, hnull, hlist, hwild]

/-- A comparison with a value has the comparator and the right side that the value is assigned. -/
theorem withValue_eq_ok_iff :
    withValue left c v w = .ok made ↔
      ∃ c' right, Assigned w c v c' right ∧ made = ⟨left, c', right, false⟩ := by
  rw [withValue]
  cases hassign : assign c v w with
  | error err =>
    refine ⟨nofun, ?_⟩
    rintro ⟨c', right, h, -⟩
    rw [assign_eq_ok_iff.mpr h] at hassign
    cases hassign
  | ok assigned =>
    obtain ⟨d, r⟩ := assigned
    constructor
    · intro h
      exact ⟨d, r, assign_eq_ok_iff.mp hassign, (Except.ok.inj h).symm⟩
    · rintro ⟨c', right, h, rfl⟩
      rw [assign_eq_ok_iff.mpr h] at hassign
      cases hassign
      rfl

/-! ### Making a comparison -/

/-- Some constructor returns the comparison under a wildcard, before letter case is made to count or
not. -/
inductive MadeUnder (w : Char) : Comparison → Prop
  | value {left : Term} {c : Comparator} {v : Value} {made : Comparison} (ignoreCase : Bool)
      (h : withValue left c v w = .ok made) : MadeUnder w (made.ignoringCase ignoreCase)
  | unary {left : Term} {c : Comparator} {made : Comparison} (ignoreCase : Bool)
      (h : Comparison.unary left c = .ok made) : MadeUnder w (made.ignoringCase ignoreCase)
  | operand {left : Term} {c : Comparator} {right : Operand} {made : Comparison}
      (ignoreCase : Bool) (h : withOperand left c right w = .ok made) :
      MadeUnder w (made.ignoringCase ignoreCase)
  | predicate {left : Term} {c : Comparator} {right : Predicate} {made : Comparison}
      (ignoreCase : Bool) (h : withPredicate left c right = .ok made) :
      MadeUnder w (made.ignoringCase ignoreCase)

/-- Some constructor returns the comparison, under some wildcard. -/
def Made (c : Comparison) : Prop := ∃ w, c.MadeUnder w

/-- The shapes of the comparisons that are made under a wildcard: a value that is assigned, a term
that is no literal, or a predicate. -/
inductive Shape (w : Char) : Comparator → RightSide → Prop
  | assigned {c c' : Comparator} {v : Value} {right : RightSide} (h : Assigned w c v c' right) :
      Shape w c' right
  | operand {c : Comparator} {u : Term} (h : c.acceptsValue = true) (hu : u.isLiteral = false) :
      Shape w c (.operand u)
  | predicate {c : Comparator} (p : Predicate) (h : c.acceptsValue = true) :
      Shape w c (.predicate p)

/-- Null is assigned alike under any two wildcards. -/
theorem Assigned.of_null {w' : Char} (h : Assigned w c .null c' right) :
    Assigned w' c .null c' right := by
  cases h with
  | isNull h => exact .isNull h
  | isNotNull h => exact .isNotNull h
  | absent h => exact .absent h
  | alone h hne => exact .alone h hne
  | list _ hv => cases hv
  | pattern _ hv => cases hv
  | plain _ hnull _ _ => cases hnull

/-- A comparison with an operand assigns its value, or keeps a term that is no literal. -/
theorem shape_of_withOperand {right : Operand} (h : withOperand left c right w = .ok made) :
    Shape w made.comparator made.right := by
  unfold withOperand at h
  split at h
  next v =>
    obtain ⟨c', r, hassigned, rfl⟩ := withValue_eq_ok_iff.mp h
    exact .assigned hassigned
  next v assigned =>
    obtain ⟨c', r, hassigned, rfl⟩ := withValue_eq_ok_iff.mp h
    exact .assigned hassigned
  next u hliteral =>
    split_ifs at h with haccepts
    cases h
    refine .operand haccepts ?_
    cases u with
    | literal v assigned => exact absurd rfl (hliteral v assigned)
    | _ => rfl

/-- A comparison with a predicate keeps it. -/
theorem shape_of_withPredicate {p : Predicate} (h : withPredicate left c p = .ok made) :
    Shape w made.comparator made.right := by
  unfold withPredicate at h
  split_ifs at h with haccepts
  cases h
  exact .predicate p haccepts

/-- The comparisons that are made under a wildcard are those of the shapes that `Shape` lists. -/
theorem madeUnder_iff_shape : made.MadeUnder w ↔ Shape w made.comparator made.right := by
  constructor
  · intro h
    cases h with
    | value _ h =>
      obtain ⟨c', right, hassigned, rfl⟩ := withValue_eq_ok_iff.mp h
      exact .assigned hassigned
    | unary _ h =>
      -- null is assigned under the default wildcard, which makes no difference to null
      obtain ⟨c', right, hassigned, rfl⟩ := withValue_eq_ok_iff.mp h
      exact .assigned hassigned.of_null
    -- whether letter case counts is no part of the shape
    | @operand _ _ _ made _ h =>
      have hshape : Shape w made.comparator made.right := shape_of_withOperand h
      exact hshape
    | @predicate _ _ _ made _ h =>
      have hshape : Shape w made.comparator made.right := shape_of_withPredicate h
      exact hshape
  · intro h
    obtain ⟨left, comparator, right, ignoreCase⟩ := made
    dsimp only at h
    cases h with
    | assigned h => exact .value ignoreCase (withValue_eq_ok_iff.mpr ⟨_, _, h, rfl⟩)
    | operand h hu => exact .operand ignoreCase (withOperand_of_not_isLiteral left h hu w)
    | predicate p h =>
      have hmade : withPredicate left comparator p = .ok ⟨left, comparator, .predicate p, false⟩ :=
        if_pos h
      exact .predicate ignoreCase hmade

/-! ### Canonical shape -/

/-- What is made under a wildcard has a canonical shape. -/
theorem isCanonical_of_shape (h : Shape w c right) : isCanonical c right = true := by
  cases h with
  | assigned h =>
    cases h with
    | isNull _ => rfl
    | isNotNull _ => rfl
    | absent _ => rfl
    | alone h hne => simp [isCanonical, h, hne]
    | list h hv => simp [isCanonical, h, isNull_of_isList hv]
    | pattern h hv =>
      obtain ⟨hnull, hlist⟩ := isText_of_isWildcarded hv
      simp [isCanonical, h, hnull, hlist]
    | plain h hnull hlist _ => simp [isCanonical, h, hnull, hlist]
  | operand h hu => simp [isCanonical, h, hu]
  | predicate p h => simp [isCanonical, h]

/-- A canonical shape is made under any wildcard that a text on the right leaves alone. -/
theorem shape_of_isCanonical (hwild : ∀ v, right = .value v → v.isWildcarded w = false)
    (h : isCanonical c right = true) : Shape w c right := by
  cases right with
  | empty =>
    simp only [isCanonical, Bool.and_eq_true, Bool.not_eq_true', bne_iff_ne] at h
    exact .assigned (.alone h.1 h.2)
  | operand u =>
    simp only [isCanonical, Bool.and_eq_true, Bool.not_eq_true'] at h
    exact .operand h.1 h.2
  | predicate p =>
    simp only [isCanonical, Bool.or_eq_true, Bool.and_eq_true, beq_iff_eq] at h
    rcases h with h | ⟨rfl, htruth⟩
    · exact .predicate p h
    · -- the one predicate that stands under no comparator is what null is assigned there
      cases p <;> cases htruth
      exact .assigned (.absent rfl)
  | value v =>
    simp only [isCanonical, Bool.and_eq_true, Bool.not_eq_true', Bool.or_eq_true,
      beq_iff_eq] at h
    obtain ⟨⟨hnull, haccepts⟩, hlist⟩ := h
    by_cases hv : v.isList = true
    · -- a list is kept only under a comparator that is the one for lists already
      have hfixed : c.forList = c := hlist.resolve_left fun hno => by simp [hno] at hv
      have hassigned : Assigned w c v c.forList (.value v) := .list haccepts hv
      rw [hfixed] at hassigned
      exact .assigned hassigned
    · exact .assigned (.plain haccepts hnull (Bool.eq_false_iff.mpr hv) (hwild v rfl))

/-- The comparisons that can be made are those of canonical shape, as long as a text on the right
lacks some character that can serve as the wildcard. -/
theorem made_iff_isCanonical
    (htext : ∀ s, made.right = .value (.text s) → ∃ w, w ∉ s.toList) :
    made.Made ↔ isCanonical made.comparator made.right = true := by
  constructor
  · rintro ⟨w, h⟩
    exact isCanonical_of_shape (madeUnder_iff_shape.mp h)
  · intro h
    have hwild : ∃ w, ∀ v, made.right = .value v → v.isWildcarded w = false := by
      by_cases hs : ∃ s, made.right = .value (.text s)
      · obtain ⟨s, hs⟩ := hs
        obtain ⟨w, hw⟩ := htext s hs
        refine ⟨w, fun v hv => ?_⟩
        rw [hs] at hv
        cases hv
        simpa [Value.isWildcarded] using hw
      -- without a text on the right any wildcard will do
      · refine ⟨defaultWildcard, fun v hv => ?_⟩
        cases v with
        | text s => exact absurd ⟨s, hv⟩ hs
        | _ => rfl
    obtain ⟨w, hwild⟩ := hwild
    exact ⟨w, madeUnder_iff_shape.mpr (shape_of_isCanonical hwild h)⟩

/-! ### Making a comparison again -/

/-- Hand the parts of a comparison to the constructor of its right side once more, and restore
whether letter case counts. -/
def remake (w : Char) (made : Comparison) : Except Error Comparison :=
  (fun again => again.ignoringCase made.ignoreCase) <$>
    if made.comparator = .absent then Comparison.unary made.left made.comparator
    else
      match made.right with
      | .empty => Comparison.unary made.left made.comparator
      | .value v => withValue made.left made.comparator v w
      | .operand u => withOperand made.left made.comparator (.term u) w
      | .predicate p => withPredicate made.left made.comparator p

/-- A value that was assigned under a wildcard is assigned the same comparator again. -/
theorem Assigned.again (h : Assigned w c v c' (.value v)) : Assigned w c' v c' (.value v) := by
  generalize hright : RightSide.value v = right at h
  cases h with
  | isNull _ => cases hright
  | isNotNull _ => cases hright
  | absent _ => cases hright
  | alone _ _ => cases hright
  | list h hv =>
    -- the comparator for lists is its own comparator for lists
    have hassigned : Assigned w c.forList v c.forList.forList (.value v) :=
      .list (by rw [Comparator.acceptsValue_forList, h]) hv
    rwa [Comparator.forList_forList] at hassigned
  | pattern h hv =>
    have hassigned : Assigned w c.forWildcard v c.forWildcard.forWildcard (.value v) :=
      .pattern (by rw [Comparator.acceptsValue_forWildcard, h]) hv
    rwa [Comparator.forWildcard_forWildcard] at hassigned
  | plain h hnull hlist hwild => exact .plain h hnull hlist hwild

/-- A comparator that a value was assigned takes a right side. -/
theorem Assigned.acceptsValue (h : Assigned w c v c' (.value v)) : c'.acceptsValue = true := by
  generalize hright : RightSide.value v = right at h
  cases h with
  | isNull _ => cases hright
  | isNotNull _ => cases hright
  | absent _ => cases hright
  | alone _ _ => cases hright
  | list h _ => rw [Comparator.acceptsValue_forList, h]
  | pattern h _ => rw [Comparator.acceptsValue_forWildcard, h]
  | plain h _ _ _ => exact h

/-- A test that stands alone is made again from its comparator. -/
theorem remake_alone (ignoreCase : Bool) (h : c.acceptsValue = false) (hne : c ≠ .absent) :
    remake w ⟨left, c, .empty, ignoreCase⟩ = .ok ⟨left, c, .empty, ignoreCase⟩ := by
  have hmade : Comparison.unary left c = .ok ⟨left, c, .empty, false⟩ :=
    withValue_eq_ok_iff.mpr ⟨c, .empty, .alone h hne, rfl⟩
  simp only [remake, if_neg hne, hmade]
  rfl

/-- A comparison with a value is made again if the value is assigned the comparator that it has. -/
theorem remake_value (ignoreCase : Bool) (h : Assigned w c v c (.value v)) :
    remake w ⟨left, c, .value v, ignoreCase⟩ = .ok ⟨left, c, .value v, ignoreCase⟩ := by
  have hne := Comparator.ne_absent_of_acceptsValue h.acceptsValue
  simp only [remake, if_neg hne, withValue_eq_ok_iff.mpr ⟨_, _, h, rfl⟩]
  rfl

/-- A comparison of one of the listed shapes is made again from its own parts. -/
theorem remake_of_shape (ignoreCase : Bool) (h : Shape w c right) :
    remake w ⟨left, c, right, ignoreCase⟩ = .ok ⟨left, c, right, ignoreCase⟩ := by
  cases h with
  | assigned h =>
    cases h with
    | isNull _ => exact remake_alone ignoreCase rfl (by decide)
    | isNotNull _ => exact remake_alone ignoreCase rfl (by decide)
    | absent _ => rfl
    | alone hc hne => exact remake_alone ignoreCase hc hne
    | list hc hv => exact remake_value ignoreCase (Assigned.list hc hv).again
    | pattern hc hv => exact remake_value ignoreCase (Assigned.pattern hc hv).again
    | plain hc hnull hlist hwild =>
      exact remake_value ignoreCase (.plain hc hnull hlist hwild)
  | operand hc hu =>
    have hne := Comparator.ne_absent_of_acceptsValue hc
    simp only [remake, if_neg hne, withOperand_of_not_isLiteral left hc hu w]
    rfl
  | predicate p hc =>
    have hne := Comparator.ne_absent_of_acceptsValue hc
    have hmade : withPredicate left c p = .ok ⟨left, c, .predicate p, false⟩ := if_pos hc
    simp only [remake, if_neg hne, hmade]
    rfl

/-- A comparison that was made under a wildcard is made again from its own parts. -/
theorem remake_of_madeUnder (h : made.MadeUnder w) : made.remake w = .ok made :=
  remake_of_shape made.ignoreCase (madeUnder_iff_shape.mp h)

end Comparison

/-! ### The comparisons of a predicate -/

mutual

/-- All comparisons of a predicate: under connectives, in the inner sides of subqueries, and in the
predicates on the right of other comparisons. -/
def Predicate.comparisons : Predicate → List Comparison
  | .joined p _ q => p.comparisons ++ q.comparisons
  | .solo _ p => p.comparisons
  | .comparison left c right ignoreCase => ⟨left, c, right, ignoreCase⟩ :: right.comparisons
  | .subquery _ x _ => x.comparisons
  | .shortCircuit _ => []

/-- All comparisons of a right side. -/
def RightSide.comparisons : RightSide → List Comparison
  | .predicate p => p.comparisons
  | .empty | .operand _ | .value _ => []

/-- All comparisons of the inner side of a subquery. -/
def Inner.comparisons : Inner → List Comparison
  | .foreignKey _ => []
  | .predicate p => p.comparisons

end

/-- The comparisons of a list all have a canonical shape. -/
def AllCanonical (cs : List Comparison) : Prop :=
  ∀ c ∈ cs, Comparison.isCanonical c.comparator c.right = true

theorem allCanonical_nil : AllCanonical [] := by
  intro c hc
  cases hc

/-- Comparisons that can be made have a canonical shape. -/
theorem allCanonical_of_made {cs : List Comparison} (h : ∀ c ∈ cs, c.Made) : AllCanonical cs := by
  intro c hc
  obtain ⟨w, hw⟩ := h c hc
  exact Comparison.isCanonical_of_shape (Comparison.madeUnder_iff_shape.mp hw)

end RowFilter
