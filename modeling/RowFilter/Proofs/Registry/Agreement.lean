import RowFilter.Proofs.Cbor.Nesting
import RowFilter.Proofs.Registry.References
import RowFilter.Proofs.Registry.Sessions

/-!
# Operands that agree

Agreement ignores the fields that references carry, and the fields decide kinds. It is sound all the
same: whatever operands a session has come to hold, by compiling them, by decoding them and by
asking for the fields of their references, the fields are those that the registry gives. So operands
that agree have the same kind and the same values, at every later point of the session
(`Session.Holding.same_of_agrees`).
-/

namespace RowFilter

/-! ### Asking for fields -/

mutual

/-- A term some of whose references have been asked for their fields, and carry them from then on if
they are known. -/
def Term.askedFor (asked : MemberRef → Bool) (registry : Registry) : Term → Term
  | .member ref => .member (if asked ref then ref.resolved registry else ref)
  | .literal v assigned => .literal v assigned
  | .binary l sign r => .binary (l.askedFor asked registry) sign (r.askedFor asked registry)
  | .unary sign t args =>
    .unary sign (t.askedFor asked registry) (Term.allAskedFor asked registry args)

/-- An operand some of whose references have been asked for their fields. -/
def Operand.askedFor (asked : MemberRef → Bool) (registry : Registry) : Operand → Operand
  | .term t => .term (t.askedFor asked registry)
  | .value v => .value v

/-- Terms some of whose references have been asked for their fields. -/
def Term.allAskedFor (asked : MemberRef → Bool) (registry : Registry) : List Term → List Term
  | [] => []
  | t :: ts => t.askedFor asked registry :: Term.allAskedFor asked registry ts

end

section

variable {asked : MemberRef → Bool} {registry : Registry}

mutual

/-- Asking a term for fields does not change its unresolved form. -/
theorem Term.unresolved_askedFor : ∀ t : Term,
    (t.askedFor asked registry).unresolved = t.unresolved
  | .member ref => by
    rw [Term.askedFor]
    split
    next => exact congrArg Term.member (ref.unresolved_resolved registry)
    next => rfl
  | .literal _ _ => rfl
  | .binary l _ r => by
    rw [Term.askedFor, Term.unresolved, Operand.unresolved_askedFor l,
      Operand.unresolved_askedFor r, Term.unresolved]
  | .unary _ t args => by
    rw [Term.askedFor, Term.unresolved, Term.unresolved_askedFor t,
      Term.unresolvedAll_allAskedFor args, Term.unresolved]

/-- Asking an operand for fields does not change its unresolved form. -/
theorem Operand.unresolved_askedFor : ∀ o : Operand,
    (o.askedFor asked registry).unresolved = o.unresolved
  | .term t => congrArg Operand.term (Term.unresolved_askedFor t)
  | .value _ => rfl

/-- Asking terms for fields does not change their unresolved forms. -/
theorem Term.unresolvedAll_allAskedFor : ∀ ts : List Term,
    Term.unresolvedAll (Term.allAskedFor asked registry ts) = Term.unresolvedAll ts
  | [] => rfl
  | t :: ts => by
    rw [Term.allAskedFor, Term.unresolvedAll, Term.unresolved_askedFor t,
      Term.unresolvedAll_allAskedFor ts, Term.unresolvedAll]

end

mutual

/-- Asking a term for fields leaves them known. -/
theorem Term.AllRefs.askedFor : ∀ {t : Term}, t.AllRefs (·.KnownIn registry) →
    (t.askedFor asked registry).AllRefs (·.KnownIn registry)
  | .member ref, h => by
    have hknown := Term.allRefs_member.mp h
    refine Term.allRefs_member.mpr ?_
    split
    next => exact hknown.resolved
    next => exact hknown
  | .literal v assigned, _ => Term.allRefs_literal v assigned
  | .binary l _ r, h => by
    obtain ⟨hl, hr⟩ := Term.allRefs_binary.mp h
    exact Term.allRefs_binary.mpr ⟨Operand.AllRefs.askedFor hl, Operand.AllRefs.askedFor hr⟩
  | .unary _ t args, h => by
    obtain ⟨ht, hargs⟩ := Term.allRefs_unary.mp h
    exact Term.allRefs_unary.mpr ⟨Term.AllRefs.askedFor ht, Term.allRefs_allAskedFor hargs⟩

/-- Asking an operand for fields leaves them known. -/
theorem Operand.AllRefs.askedFor : ∀ {o : Operand}, o.AllRefs (·.KnownIn registry) →
    (o.askedFor asked registry).AllRefs (·.KnownIn registry)
  | .term _, h => Term.AllRefs.askedFor h
  | .value _, h => h

/-- Asking terms for fields leaves them known. -/
theorem Term.allRefs_allAskedFor : ∀ {ts : List Term},
    (∀ t ∈ ts, t.AllRefs (·.KnownIn registry)) →
      ∀ t ∈ Term.allAskedFor asked registry ts, t.AllRefs (·.KnownIn registry)
  | [], _ => nofun
  | t :: ts, h => by
    obtain ⟨ht, hts⟩ := List.forall_mem_cons.mp h
    exact List.forall_mem_cons.mpr ⟨Term.AllRefs.askedFor ht, Term.allRefs_allAskedFor hts⟩

end

end

namespace Session

/-! ### Operands of a session -/

/-- The operands that a session can have come to hold: those that it has compiled, those that it has
decoded, and any of them once some of its references have been asked for their fields. -/
inductive Holding : Session → List Operand → Prop
  | new : Holding empty []
  /-- A call whose answer is not held. -/
  | call {s : Session} {os : List Operand} (h : Holding s os) (call : Call) :
      Holding (call.run s) os
  | compiled {s : Session} {os : List Operand} {entity : Entity} {config : Config} {e : Expr}
      {o : Operand} (h : Holding s os)
      (ho : ((Session.compileOperand entity config e).run s).1 = .ok o) :
      Holding ((Session.compileOperand entity config e).run s).2 (o :: os)
  | decodedTerm {s : Session} {os : List Operand} {limit : Nat} {bytes : List UInt8} {t : Term}
      (h : Holding s os) (ht : Term.decode limit bytes = .ok t) : Holding s (.term t :: os)
  | decodedOperand {s : Session} {os : List Operand} {limit : Nat} {bytes : List UInt8}
      {o : Operand} (h : Holding s os) (ho : Operand.decode limit bytes = .ok o) :
      Holding s (o :: os)
  | asked {s : Session} {os : List Operand} {o : Operand} (h : Holding s os) (ho : o ∈ os)
      (asked : MemberRef → Bool) : Holding s (o.askedFor asked s.registry :: os)

/-- An operand that has been compiled has fields that are known. -/
theorem knownIn_of_compileOperand {s : Session} {entity : Entity} {config : Config} {e : Expr}
    {o : Operand} (ho : ((Session.compileOperand entity config e).run s).1 = .ok o) :
    o.AllRefs (·.KnownIn ((Session.compileOperand entity config e).run s).2.registry) := by
  have hbound := (find?_of_compile entity config e s).2 o ho entity (.inl rfl)
  have hcompiled : o.Compiled entity := by
    rw [Session.compileOperand, (run_compile _ s).1, RowFilter.compileOperand,
      ← toOption_eq_some_iff, Compilation.toOption_run_overEntity] at ho
    obtain ⟨_, -, ho⟩ := Option.bind_eq_some_iff.mp ho
    exact (Compilation.compiledFrom_of_lowerOperand ho).compiled
  exact hcompiled.knownIn hbound

/-- The fields of all operands that a session holds are known. -/
theorem Holding.knownIn {s : Session} {os : List Operand} (h : Holding s os) :
    ∀ o ∈ os, o.AllRefs (·.KnownIn s.registry) := by
  induction h with
  | new => nofun
  | call _ call ih =>
    exact fun o ho => (ih o ho).mono fun ref href => href.of_extends (call.extends_run _)
  | @compiled s os entity config e o _ ho ih =>
    have hgrows := (Call.compileOperand entity config e).extends_run s
    refine List.forall_mem_cons.mpr ⟨knownIn_of_compileOperand ho, fun o' ho' => ?_⟩
    exact (ih o' ho').mono fun ref href => href.of_extends hgrows
  | decodedTerm _ ht ih =>
    refine List.forall_mem_cons.mpr ⟨?_, ih⟩
    exact (Term.allRefs_of_decode ht).mono fun ref => MemberRef.knownIn_of_field?_eq_none
  | decodedOperand _ ho ih =>
    refine List.forall_mem_cons.mpr ⟨?_, ih⟩
    exact (Operand.allRefs_of_decode ho).mono fun ref => MemberRef.knownIn_of_field?_eq_none
  | asked _ ho _ ih => exact List.forall_mem_cons.mpr ⟨(ih _ ho).askedFor, ih⟩

/-- Operands with known fields that agree have the same kind and the same value over every row,
whatever is called in between. -/
theorem same_of_agrees_after {s : Session} {o o' : Operand} (ho : o.AllRefs (·.KnownIn s.registry))
    (ho' : o'.AllRefs (·.KnownIn s.registry)) (h : o.agrees o' = true) (calls : List Call) :
    o.kind (s.after calls).registry = o'.kind (s.after calls).registry ∧
      ∀ row, o.evaluate (s.after calls).registry row = o'.evaluate (s.after calls).registry row :=
  Operand.same_of_knownIn_of_agrees (ho.mono fun _ href => href.of_extends (extends_after calls s))
    (ho'.mono fun _ href => href.of_extends (extends_after calls s)) h

/-- Operands of a session that agree have the same kind, or the same error in the place of one, and
the same value or error over every row, now and after any calls. An operand agrees with what becomes
of it when its references are asked for their fields, and with what comes back from its bytes. -/
theorem Holding.same_of_agrees {s : Session} {os : List Operand} (h : Holding s os) :
    (∀ o ∈ os, ∀ asked, Holding s (o.askedFor asked s.registry :: os) ∧
        (o.askedFor asked s.registry).agrees o = true) ∧
      (∀ o ∈ os, ∀ o' ∈ os, o.agrees o' = true → ∀ calls,
        o.kind (s.after calls).registry = o'.kind (s.after calls).registry ∧
          ∀ row, o.evaluate (s.after calls).registry row =
            o'.evaluate (s.after calls).registry row) ∧
      (∀ o ∈ os, ∀ limit < 2 ^ 64, ∀ w, Operand.decode limit o.encode = .ok w →
        w.agrees o = true ∧ ∀ calls,
          w.kind (s.after calls).registry = o.kind (s.after calls).registry ∧
            ∀ row, w.evaluate (s.after calls).registry row =
              o.evaluate (s.after calls).registry row) ∧
      ∀ t, .term t ∈ os → ∀ limit < 2 ^ 64, ∀ w, Term.decode limit t.encode = .ok w →
        w.agrees t = true ∧ ∀ calls,
          w.kind (s.after calls).registry = t.kind (s.after calls).registry ∧
            ∀ row, w.evaluate (s.after calls).registry row =
              t.evaluate (s.after calls).registry row := by
  have hknown := h.knownIn
  refine ⟨fun o ho asked => ⟨h.asked ho asked, ?_⟩, fun o ho o' ho' hagrees calls => ?_,
    fun o ho limit hlimit w hw => ?_, fun t ht limit hlimit w hw => ?_⟩
  · exact (Operand.agrees_iff _ _).mpr (Operand.unresolved_askedFor o)
  · exact same_of_agrees_after (hknown o ho) (hknown o' ho') hagrees calls
  · have hagrees : w.agrees o = true := by
      have hadmitted := admitted_of_decodeBytes o.writable_toItem hlimit hw
      rw [Operand.decode_encode hadmitted] at hw
      cases hw
      exact o.agrees_unresolved
    have hw := (h.decodedOperand hw).knownIn w List.mem_cons_self
    exact ⟨hagrees, same_of_agrees_after hw (hknown o ho) hagrees⟩
  · have hagrees : w.agrees t = true := by
      have hadmitted := admitted_of_decodeBytes t.writable_toItem hlimit hw
      rw [Term.decode_encode hadmitted] at hw
      cases hw
      exact t.agrees_unresolved
    have hw := (h.decodedTerm hw).knownIn _ List.mem_cons_self
    exact ⟨hagrees, same_of_agrees_after hw (hknown _ ht) hagrees⟩

/-- The length of a text that is compiled, written and read back, and evaluated after another
registration. -/
theorem Holding.same_of_agrees_length :
    let name : Field := ⟨"name", .text, true⟩
    let product : Entity := ⟨"Product", "product", [name]⟩
    let e : Expr := .member (.field "name") "length"
    let o : Operand := .term (.unary .length (.member ⟨"product", "name", some name⟩) [])
    let w : Operand := .term (.unary .length (.member (.named "product" "name")) [])
    let s := ((Session.compileOperand product .default e).run empty).2
    let s' := s.after [.register ⟨"Order", "order", []⟩]
    let row := Row.ofList [("name", .text "tea")]
    Holding s [w, o] ∧ w.agrees o = true ∧ o.kind s'.registry = .ok .int ∧
      w.kind s'.registry = o.kind s'.registry ∧ o.evaluate s'.registry row = .ok (.int 3) ∧
      w.evaluate s'.registry row = o.evaluate s'.registry row := by
  intro name product e o w s s' row
  have ho : ((Session.compileOperand product .default e).run empty).1 = .ok o := rfl
  have hw : Operand.decode 1024 o.encode = .ok w :=
    Operand.decode_encode ⟨by decide, by decide +kernel, by decide⟩
  have hheld : Holding s [w, o] := (Holding.new.compiled ho).decodedOperand hw
  have hsame := (Holding.same_of_agrees hheld).2.1 w List.mem_cons_self o
    (List.mem_cons_of_mem w List.mem_cons_self) (by decide)
    [.register ⟨"Order", "order", []⟩]
  exact ⟨hheld, by decide, rfl, hsame.1, rfl, hsame.2 row⟩

end Session

end RowFilter
