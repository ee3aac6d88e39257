import RowFilter.Proofs.Compilation.Depth

/-!
# What a compilation reports

Whatever stands in an expression, subqueries and folded constants included, compiling it adds one
event of a compilation, after all its other events, which are rewritings (`Compilation.events_overEntity`). The
descent into parts goes through the inner compilation and never through the entry point, which alone
reports a compilation.
-/

namespace RowFilter

namespace Compilation

variable {config : Config}

/-- Binding an entity reports nothing. -/
theorem rewrites_register (entity : Entity) : Rewrites (register entity) := by
  refine .of_events_eq fun t => ?_
  rw [run_register]
  cases t.registry.register entity <;> rfl

theorem sequential_rewrites (shown : String) :
    Sequential shown (fun _ => True) fun _ x _ => Rewrites x where
  own hx := hx.rewrites
  register entity _ := rewrites_register entity
  bind := Rewrites.bind

/-- A compilation reports rewritings only, as a condition and as a value. -/
theorem rewrites_lower : ∀ {n : Nat} {entity : Entity} {e : Expr},
    Rewrites (lowerPredicate config n entity e) ∧ Rewrites (lowerOperand config n entity e) := by
  intro n
  induction n with
  | zero =>
    intro entity e
    -- without depth the compilation fails before it reports anything
    exact ⟨.of_events_eq fun t => rfl, .of_events_eq fun t => rfl⟩
  | succ n ih =>
    intro entity e
    constructor
    · exact (sequential_rewrites _).lowerPredicate (d := 0) (m := 0) (fun _ _ => trivial)
        (fun c _ entity => ih.1) (fun c _ => ih.2) fun _ => ih.2
    · exact (sequential_rewrites _).lowerOperand (d := 0) (m := 0) (fun c _ => ih.2) fun _ => ih.1

/-- A compilation over an entity adds what its body reports, and its own event after that. -/
theorem events_overEntity {α : Type} {x : Compilation α} (hx : Rewrites x) (entity : Entity)
    (t : Trace) :
    ∃ rewrites, (∀ e ∈ rewrites, e.IsRewriting) ∧
      ((overEntity entity x).run t).2.events =
        t.events ++ rewrites ++ [.compile entity.path ((overEntity entity x).run t).1.isOk] := by
  have hbody : Rewrites (register entity >>= fun _ => x) :=
    (rewrites_register entity).bind fun _ _ _ => hx
  -- the entity is bound and the body run before the outcome is reported
  obtain ⟨rewrites, hevents, hrewriting⟩ := hbody t
  refine ⟨rewrites, hrewriting, ?_⟩
  rw [run_overEntity, ← hevents]

end Compilation

end RowFilter
