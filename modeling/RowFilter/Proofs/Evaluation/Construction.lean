import RowFilter.Term.Kind

/-!
# What the checked constructors accept

`Term.join` and `Term.apply` succeed exactly under the conditions that they check, and then give the
plain term of their arguments.
-/

namespace RowFilter

namespace Term

variable {registry : Registry} {sign : Sign} {w : Term}

/-- The term of an entity's member is the reference that carries the declared field. -/
theorem ofEntity_eq_ok_iff {e : Entity} {name : String} :
    ofEntity e name = .ok w ↔
      ∃ f, e.field? name = some f ∧ w = .member ⟨e.path, f.name, some f⟩ := by
  rw [ofEntity, MemberRef.ofEntity]
  cases e.field? name with
  | none => exact ⟨nofun, nofun⟩
  | some f =>
    constructor
    · intro hw
      exact ⟨f, rfl, (Except.ok.inj hw).symm⟩
    · rintro ⟨_, hf, rfl⟩
      cases hf
      rfl

/-- Joining needs an arithmetic sign and nothing else. -/
theorem join_eq_ok_iff {l r : Operand} :
    join l sign r = .ok w ↔ sign.isArithmetic = true ∧ w = .binary l sign r := by
  rw [join]
  split
  next h => exact ⟨fun hw => ⟨h, (Except.ok.inj hw).symm⟩, fun hw => by rw [hw.2]⟩
  next h => exact ⟨nofun, fun hw => absurd hw.1 h⟩

/-- Arguments pass the check exactly if each is of an integer kind. -/
theorem checkArguments_eq_ok_iff {args : List Term} :
    checkArguments registry sign args = .ok () ↔
      ∀ arg ∈ args, ∃ kind, arg.kind registry = .ok kind ∧ kind.isInteger = true := by
  induction args with
  | nil => simp [checkArguments]
  | cons arg args ih =>
    rw [checkArguments, List.forall_mem_cons, ← ih]
    cases hkind : arg.kind registry with
    | error err => exact ⟨nofun, nofun⟩
    | ok kind =>
      change (if kind.isInteger then checkArguments registry sign args else _) = _ ↔ _
      by_cases hinteger : kind.isInteger = true
      · rw [if_pos hinteger]
        exact ⟨fun h => ⟨⟨kind, rfl, hinteger⟩, h⟩, fun h => h.2⟩
      · rw [if_neg hinteger]
        refine ⟨nofun, ?_⟩
        rintro ⟨⟨kind', hkind', hinteger'⟩, -⟩
        cases hkind'
        exact absurd hinteger' hinteger

/-- A sign applies exactly if it is one for texts, its operand is of kind text, and it has no more
arguments than it takes, all of integer kinds. -/
theorem apply_eq_ok_iff {t : Term} {args : List Term} :
    apply registry sign t args = .ok w ↔
      sign.isString = true ∧ t.kind registry = .ok .text ∧ args.length ≤ sign.maxArguments ∧
        (∀ arg ∈ args, ∃ kind, arg.kind registry = .ok kind ∧ kind.isInteger = true) ∧
        w = .unary sign t args := by
  rw [← checkArguments_eq_ok_iff, apply]
  cases hsign : sign.isString with
  | false => exact ⟨nofun, nofun⟩
  | true =>
    cases hkind : t.kind registry with
    | error err => exact ⟨nofun, nofun⟩
    | ok kind =>
      by_cases hcount : sign.maxArguments < args.length
      · have hcount' : ¬args.length ≤ sign.maxArguments := by omega
        cases kind <;> simp [hcount, hcount', Kind.isText, bind, Except.bind]
      · have hcount' : args.length ≤ sign.maxArguments := by omega
        cases hargs : checkArguments registry sign args <;> cases kind <;>
          simp [hcount, hcount', Kind.isText, bind, Except.bind, pure, Except.pure, eq_comm]

end Term

end RowFilter
