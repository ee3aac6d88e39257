import RowFilter.Proofs.Compilation.Operators
import RowFilter.Proofs.Compilation.Steps
import RowFilter.Proofs.WellFormed.Terms

/-!
# Compiled operands are well-formed

Whatever expression compiles to an operand over an entity, the operand is a plain value or a
compiled term of the entity, and a term comes of nothing but a mention of the row. A condition in
the place of a value is only ever a constant, so the induction does not descend into conditions.
-/

namespace RowFilter

mutual

/-- The expression mentions its row. The filter of a subquery is about another row. -/
def Expr.mentionsRow : Expr → Bool
  | .row => true
  | .constant _ | .nonFinite _ => false
  | .member target _ => target.mentionsRow
  | .unary _ e => e.mentionsRow
  | .binary _ left right => left.mentionsRow || right.mentionsRow
  | .call target _ args => target.mentionsRow || Expr.anyMentionsRow args
  | .staticCall _ args => Expr.anyMentionsRow args
  | .existsIn outer _ _ _ | .existsWhere outer _ _ _ _ => outer.mentionsRow

/-- One of the expressions mentions the row. -/
def Expr.anyMentionsRow : List Expr → Bool
  | [] => false
  | e :: es => e.mentionsRow || Expr.anyMentionsRow es

end

/-- What holds of an operand that an expression compiles to. -/
structure Operand.CompiledFrom (entity : Entity) (e : Expr) (o : Operand) : Prop where
  /-- The operand is a plain value or a compiled term. -/
  compiled : o.Compiled entity
  /-- Only an expression that mentions the row compiles to a term. -/
  mentionsRow : o.value? = none → e.mentionsRow = true

theorem Operand.CompiledFrom.value {entity : Entity} {e : Expr} (v : Value) :
    (Operand.value v).CompiledFrom entity e :=
  ⟨trivial, nofun⟩

namespace Compilation

variable {config : Config} {entity : Entity} {t : Trace} {shown : String} {o : Operand}

/-! ### The operators -/

/-- Arithmetic on compiled operands gives a compiled one, of a term among its sides if it is one. -/
theorem compiled_of_arithmeticOf {l r : Operand} {sign : Sign} (hl : l.Compiled entity)
    (hr : r.Compiled entity) (h : outcome? (arithmeticOf shown l sign r) t = some o) :
    o.Compiled entity ∧ (o.value? = none → l.value? = none ∨ r.value? = none) := by
  rcases arithmeticOf_cases h with ⟨a, b, v, -, -, -, rfl⟩ | ⟨hterm, hsign, rfl⟩
  · exact ⟨trivial, nofun⟩
  · exact ⟨Term.Compiled.binary hl hr hterm hsign, fun _ => hterm⟩

/-- A text function on compiled operands gives a compiled one, of a target that is a term if it is
one. -/
theorem compiled_of_textFunctionOf {target : Operand} {args : List Operand} {sign : Sign}
    (htarget : target.Compiled entity) (hargs : ∀ arg ∈ args, Operand.Compiled entity arg)
    (h : outcome? (textFunctionOf shown sign target args) t = some o) :
    o.Compiled entity ∧ (o.value? = none → target.value? = none) := by
  rcases textFunctionOf_cases h with ⟨_, _, w, -, -, -, rfl⟩ | ⟨u, w, rfl, hw, rfl⟩
  · exact ⟨trivial, nofun⟩
  · refine ⟨Term.Compiled.apply htarget (List.forall_mem_map.mpr fun arg harg => ?_) hw,
      fun _ => rfl⟩
    exact (hargs arg harg).wellFormed_toTerm

/-- A member of a compiled target is compiled, and of a target that is a term if it is one. -/
theorem compiled_of_memberOf {target : Operand} {name : String} (htarget : target.Compiled entity)
    (h : outcome? (memberOf shown target name) t = some o) :
    o.Compiled entity ∧ (o.value? = none → target.value? = none) := by
  rcases memberOf_cases h with ⟨_, w, -, rfl, -⟩ | ⟨u, w, sign, rfl, -, hw, rfl⟩
  · exact ⟨trivial, nofun⟩
  · exact ⟨Term.Compiled.apply htarget (List.forall_mem_nil _) hw, fun _ => rfl⟩

/-! ### The induction -/

/-- Every operand that is compiled over an entity is a plain value or a compiled term. -/
theorem compiledFrom_of_lowerOperand : ∀ {n : Nat} {e : Expr} {t : Trace} {o : Operand},
    outcome? (lowerOperand config n entity e) t = some o → o.CompiledFrom entity e := by
  -- on the depth: a target and the arguments of a call have one level less than the call
  intro n
  induction n with
  | zero =>
    intro e t o h
    cases h
  | succ n ih =>
    intro e t o h
    cases loweredOperand_of_outcome? h with
    | constant v => exact .value v
    | field hu => exact ⟨Term.Compiled.of_ofEntity hu, fun _ => rfl⟩
    | member _ hu ho =>
      obtain ⟨hcompiled, hterm⟩ := compiled_of_memberOf (ih hu).compiled ho
      exact ⟨hcompiled, fun hnone => (ih hu).mentionsRow (hterm hnone)⟩
    | unary _ ho =>
      obtain ⟨v, rfl⟩ := unaryOf_cases ho
      exact .value v
    | arithmetic _ hl hr ho =>
      obtain ⟨hcompiled, hterm⟩ := compiled_of_arithmeticOf (ih hl).compiled (ih hr).compiled ho
      refine ⟨hcompiled, fun hnone => ?_⟩
      rw [Expr.mentionsRow, Bool.or_eq_true]
      exact (hterm hnone).imp (ih hl).mentionsRow (ih hr).mentionsRow
    | item _ _ ho =>
      obtain ⟨v, rfl⟩ := itemOf_cases ho
      exact .value v
    | textFunction os _ hu hos ho =>
      have hargs : ∀ a ∈ os, Operand.Compiled entity a := by
        intro a ha
        obtain ⟨arg, _, harg⟩ := exists_of_mem_outcome?_mapM hos ha
        exact (ih harg).compiled
      obtain ⟨hcompiled, hterm⟩ := compiled_of_textFunctionOf (ih hu).compiled hargs ho
      refine ⟨hcompiled, fun hnone => ?_⟩
      rw [Expr.mentionsRow, Bool.or_eq_true]
      exact .inl ((ih hu).mentionsRow (hterm hnone))
    | condition _ _ ho =>
      obtain ⟨b, rfl⟩ := asOperand_cases ho
      exact .value (.bool b)

end Compilation

end RowFilter
