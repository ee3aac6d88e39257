import RowFilter.Proofs.Compilation.Depth
import RowFilter.Proofs.Folding.LetterCase
import RowFilter.Proofs.Text.Matching

/-!
# Patterns of compiled searches

A search for a constant text compiles to a match with a pattern where the receiver is a term that
computes texts, and folds to a truth value where the receiver is a constant text. The comparator of
the pattern stays as the method gives it, with wildcards in the text or without, and compiling the
search costs no event beyond those of the receiver.

The two readings agree (`matches_iff_compile_search`): a text matches the pattern exactly if the
search of the text folds to true.
-/

namespace RowFilter

/-- The expression is a call of a search method on a receiver for an argument, with a target or
without, in which letter case counts. -/
def Expr.SearchesFor (e : Expr) (kind : PatternKind) (receiver arg : Expr) : Prop :=
  ∃ method args, Compilation.receiver? e = some (receiver, method, args) ∧
    PatternKind.ofMethod? method = some kind ∧
    Compilation.soleArgument? args = some (arg, false)

namespace PatternKind

/-- A comparator of patterns takes any text as it is. -/
theorem withValue_comparator (kind : PatternKind) (u : Term) (s : String) (wildcard : Char) :
    Comparison.withValue u kind.comparator (.text s) wildcard =
      .ok ⟨u, kind.comparator, .value (.text s), false⟩ := by
  have hassign : Comparison.assign kind.comparator (.text s) wildcard =
      .ok (kind.comparator, .value (.text s)) := by
    -- whether the text has the wildcard does not matter: the comparators are not of equality
    cases kind <;> by_cases h : wildcard ∈ s.toList <;>
      simp [Comparison.assign, comparator, Value.isNull, Value.isList, Value.isWildcarded,
        Comparator.acceptsValue, Comparator.isEqualFamily, Comparator.isGreaterFamily,
        Comparator.forWildcard, h]
  rw [Comparison.withValue, hassign]
  rfl

end PatternKind

namespace Compilation

variable {config : Config} {n : Nat} {entity : Entity} {kind : PatternKind} {u : Term}
  {receiver e : Expr} {t t' : Trace} {shown s : String}

/-- Asking for a kind that is known changes nothing. -/
theorem run_kindOf_bind {α : Type} {k : Kind} (hkind : u.kind t.registry = .ok k)
    (f : Kind → Compilation α) : (kindOf u >>= f).run.run t = (f k).run.run t := by
  have hasked : (kindOf u).run.run t = (.ok k, t) := by
    show (ofExcept (u.kind t.registry)).run.run t = _
    rw [hkind]
    rfl
  rw [run_bind, hasked]

/-- A search of a term that computes texts for a constant text is a match with the pattern of the
text, and reports nothing. -/
theorem run_searchOperands_text (hkind : u.kind t.registry = .ok .text) :
    (searchOperands config shown kind false (.term u) (.value (.text s))).run.run t =
      (.ok (some (.comparison u kind.comparator (.value (.text (kind.wrap config.wildcard s)))
        false)), t) := by
  have hmatch : (kindOf u >>= fun k =>
      if k.isText then
        asPredicate false <$> compared kind.comparator (Comparison.withValue u kind.comparator
          (.text (kind.wrap config.wildcard s)) config.wildcard)
      else throw (.unsupportedShape shown)).run.run t =
      (.ok (some (.comparison u kind.comparator (.value (.text (kind.wrap config.wildcard s)))
        false)), t) := by
    rw [run_kindOf_bind hkind, PatternKind.withValue_comparator, compared, Comparison.change?,
      if_pos rfl]
    rfl
  -- a receiver that could be a list is asked for its kind once more
  by_cases hcontains : kind = .contains
  · simp only [searchOperands, if_pos hcontains, bind_map_left]
    rw [run_kindOf_bind hkind]
    exact hmatch
  · simp only [searchOperands, if_neg hcontains, pure_bind]
    exact hmatch

/-- Where the receiver of a search for a constant text compiles to a term that computes texts, the
search compiles to a match with the pattern of the text, and leaves the same trace. -/
theorem run_lowerPredicate_text (he : e.SearchesFor kind receiver (.constant (.text s)))
    (hreceiver : (lowerOperand config (n + 1) entity receiver).run.run t = (.ok (.term u), t'))
    (hkind : u.kind t'.registry = .ok .text) :
    (lowerPredicate config (n + 2) entity e).run.run t =
      (.ok (some (.comparison u kind.comparator (.value (.text (kind.wrap config.wildcard s)))
        false)), t') := by
  obtain ⟨method, args, hcall, hmethod, hargs⟩ := he
  rw [lowerPredicate_of_search _ _ _ hcall hargs hmethod, lowerOperand_constant, pure_bind,
    if_neg nofun, run_bind, hreceiver]
  exact run_searchOperands_text hkind

/-- A compilation to an operand that succeeds has bound its entity, and its body does the same
under any bound on nesting. -/
theorem exists_of_compileOperand {d : Nat} {o : Operand}
    (h : (compileOperand entity { config with maxDepth := d } e).run t = (.ok o, t')) :
    ∃ registry s, t.registry.register entity = .ok registry ∧
      (lowerOperand config d entity e).run.run { t with registry } = (.ok o, s) ∧
      t' = { s with events := s.events ++ [.compile entity.path true] } := by
  obtain ⟨registry, s, hregister, hrun, rfl⟩ := exists_of_run_overEntity h
  refine ⟨registry, s, hregister, ?_, rfl⟩
  -- only an error of nesting mentions the bound
  have hdeepens : DeepensTo Operand (lowerOperand { config with maxDepth := d } d entity e)
      (lowerOperand config d entity e) := (deepensTo_of_le (Nat.le_refl d)).2
  have hnests : ∀ limit shown, ((lowerOperand { config with maxDepth := d } d entity e).run.run
      { t with registry }).1 ≠ .error (.nestingTooDeep limit shown) := by
    intro limit shown herr
    rw [hrun] at herr
    cases herr
  rw [hdeepens _ hnests, hrun]

end Compilation

/-- A search for a constant text of a receiver that compiles, at the depth that is left for it, to a
term that computes texts: the search compiles to a match of that term with the pattern of the text,
under the comparator of the method, and adds no event to those of the receiver. Made from the
pattern in place of the text, it is the same match. If the wildcard does not occur in the text, a
constant text matches the pattern exactly if the search of it folds to true. -/
theorem matches_iff_compile_search {entity : Entity} {config : Config} {kind : PatternKind}
    {receiver : Expr} {u : Term} {t t' : Trace}
    (hreceiver : (compileOperand entity { config with maxDepth := config.maxDepth - 1 }
      receiver).run t = (.ok (.term u), t'))
    (hkind : u.kind t'.registry = .ok .text) (arg : String) :
    let pattern := kind.wrap config.wildcard arg
    let made := some (Predicate.comparison u kind.comparator (.value (.text pattern)) false)
    (∀ e : Expr, e.SearchesFor kind receiver (.constant (.text arg)) →
        (compilePredicate entity config e).run t = (.ok made, t')) ∧
      (∀ e : Expr, e.SearchesFor kind receiver (.constant (.text pattern)) →
        (compilePredicate entity config e).run t = (.ok made, t')) ∧
      (config.wildcard ∉ arg.toList → ∀ (s : String) (e : Expr),
        e.SearchesFor kind (.constant (.text s)) (.constant (.text arg)) →
          (Text.Matches config.wildcard pattern.toList s.toList ↔
            ((compilePredicate entity config e).run t).1 = .ok (some (.shortCircuit true)))) := by
  intro pattern made
  obtain ⟨registry, final, hentity, hbody, rfl⟩ := Compilation.exists_of_compileOperand hreceiver
  -- the receiver has compiled, so there is depth for it and for the search around it
  obtain ⟨n, hn⟩ := Compilation.exists_depth_of_lowerOperand
    (show Compilation.outcome? (Compilation.lowerOperand config (config.maxDepth - 1) entity
      receiver) { t with registry } = some (.term u) by rw [Compilation.outcome?, hbody]; rfl)
  have hdepth : config.maxDepth = n + 2 := by omega
  rw [hn] at hbody
  have hcompiles : ∀ (text : String) (e : Expr),
      e.SearchesFor kind receiver (.constant (.text text)) →
        (compilePredicate entity config e).run t =
          (.ok (some (.comparison u kind.comparator
            (.value (.text (kind.wrap config.wildcard text))) false)),
            { final with events := final.events ++ [.compile entity.path true] }) := by
    intro text e he
    rw [compilePredicate, hdepth, Compilation.run_overEntity, Compilation.run_bind,
      Compilation.run_register, hentity]
    dsimp only
    rw [Compilation.run_lowerPredicate_text he hbody hkind]
    rfl
  refine ⟨hcompiles arg, ?_, ?_⟩
  · intro e he
    rw [hcompiles pattern e he, kind.wrap_wrap]
  · rintro hfree s e ⟨method, args, hcall, hmethod, hargs⟩
    have hvalue : Value.text arg ≠ .null := by
      intro h
      cases h
    rw [kind.matches_wrap_iff_holds hfree, ← toOption_eq_some_iff, compilePredicate,
      Compilation.toOption_run_overEntity, hentity, hdepth, toOption_ok, Option.bind_some,
      Compilation.outcome?_search_constants hcall hargs hmethod hvalue]
    simp [Value.pattern?]

/-- A trimmed member and a constant are searched for one text, the constant without a target. -/
theorem matches_iff_compile_search_trimmed :
    let name : Field := ⟨"name", .text, true⟩
    let person : Entity := ⟨"Person", "person", [name]⟩
    let config : Config := { Config.default with wildcard := '*' }
    let receiver : Expr := .call (.field "name") "trim" []
    let u : Term := .unary .trim (.member ⟨"person", "name", some name⟩) []
    let t : Trace := ⟨.empty, []⟩
    let t' : Trace := ⟨⟨[person]⟩, [.compile "person" true]⟩
    let search : Expr := .callWith "contains" receiver (.constant (.text "an"))
    let folded : Expr := .staticCall "contains" [.constant (.text "banana"), .constant (.text "an")]
    (compileOperand person { config with maxDepth := config.maxDepth - 1 } receiver).run t =
        (.ok (.term u), t') ∧
      u.kind t'.registry = .ok .text ∧
      search.SearchesFor .contains receiver (.constant (.text "an")) ∧
      folded.SearchesFor .contains (.constant (.text "banana")) (.constant (.text "an")) ∧
      '*' ∉ "an".toList ∧
      (compilePredicate person config search).run t =
        (.ok (some (.comparison u .like (.value (.text "*an*")) false)), t') ∧
      Text.Matches '*' "*an*".toList "banana".toList ∧
      ((compilePredicate person config folded).run t).1 = .ok (some (.shortCircuit true)) := by
  intro name person config receiver u t t' search folded
  have hreceiver : (compileOperand person { config with maxDepth := config.maxDepth - 1 }
      receiver).run t = (.ok (.term u), t') := rfl
  have hkind : u.kind t'.registry = .ok .text := rfl
  have hsearch : search.SearchesFor .contains receiver (.constant (.text "an")) :=
    ⟨"contains", _, rfl, rfl, rfl⟩
  have hfolded : folded.SearchesFor .contains (.constant (.text "banana"))
      (.constant (.text "an")) := ⟨"contains", _, rfl, rfl, rfl⟩
  have hfree : '*' ∉ "an".toList := by decide
  have hmatches : Text.Matches '*' "*an*".toList "banana".toList := by decide
  obtain ⟨hbuilt, -, hfolds⟩ :=
    matches_iff_compile_search hreceiver hkind "an"
  exact ⟨hreceiver, hkind, hsearch, hfolded, hfree, hbuilt search hsearch, hmatches,
    (hfolds hfree "banana" folded hfolded).mp hmatches⟩

end RowFilter
