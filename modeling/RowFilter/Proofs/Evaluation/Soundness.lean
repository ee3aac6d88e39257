import RowFilter.Proofs.Evaluation.Faults
import RowFilter.Proofs.Evaluation.Terms
import RowFilter.Proofs.Result
import RowFilter.Proofs.WellFormed.Terms

/-!
# Kind soundness of evaluation

A term is sound if each of its nodes passes the checks of its constructor and each sum, difference,
product or quotient joins kinds that have arithmetic. Over a row that fits its members it computes
null or a value of its declared kind, or fails because a result is out of range. There is one other
way to fail: a substring whose argument is null, or an unsigned integer that no position reaches, is
not implemented.

Null is only ever computed by a member or a literal. A composed term gives a value of its declared
kind or none, whatever it is made of and whatever the row holds.
-/

namespace RowFilter

/-! ### Checks of nodes -/

namespace Term

/-- A node passes the checks of its constructor: a member is known, a sign of arithmetic joins kinds
that have arithmetic, by addition where the result is a text, and a sign for texts applies to its
operand and arguments. -/
def Checked (registry : Registry) : Term → Prop
  | .member ref => ∃ kind, ref.kind registry = .ok kind
  | .literal _ _ => True
  | .binary l sign r =>
    sign.isArithmetic = true ∧ ∃ j k kind, l.kind registry = .ok j ∧ r.kind registry = .ok k ∧
      Kind.arithmeticResult j k = some kind ∧ (kind = .text → sign = .add)
  | .unary sign t args => apply registry sign t args = .ok (.unary sign t args)

/-- A substring among the nodes has an argument that computes no position: null, or an unsigned
integer beyond the signed ones. -/
def StrayArgument (registry : Registry) (row : Row) (nodes : List Term) : Prop :=
  ∃ t args arg v, .unary .substring t args ∈ nodes ∧ arg ∈ args ∧
    arg.evaluate registry row = .ok v ∧
    (v = .null ∨ ∃ n : UInt64, v = .uint n ∧ Int64.maxValue.toInt < n.toNat)

theorem StrayArgument.mono {registry : Registry} {row : Row} {ns ms : List Term}
    (h : StrayArgument registry row ns) (hsub : ns ⊆ ms) : StrayArgument registry row ms := by
  obtain ⟨t, args, arg, v, hmem, harg⟩ := h
  exact ⟨t, args, arg, v, hsub hmem, harg⟩

end Term

/-- The row has, for every member among the nodes, null or a value of the member's kind. -/
def Row.Fits (row : Row) (registry : Registry) (nodes : List Term) : Prop :=
  ∀ ref kind, .member ref ∈ nodes → ref.kind registry = .ok kind →
    ∃ v, row.value? ref.name = some v ∧ v.Inhabits kind

/-- Nodes that pass their checks, over a row that fits them. -/
structure Term.Ready (registry : Registry) (row : Row) (nodes : List Term) : Prop where
  /-- Every node passes the checks of its constructor. -/
  checked : ∀ s ∈ nodes, s.Checked registry
  /-- The row fits the members. -/
  fits : row.Fits registry nodes

theorem Term.Ready.mono {registry : Registry} {row : Row} {ns ms : List Term}
    (h : Ready registry row ns) (hsub : ms ⊆ ns) : Ready registry row ms :=
  ⟨fun s hs => h.checked s (hsub hs), fun ref kind href => h.fits ref kind (hsub href)⟩

/-- What evaluation makes of an operand of a declared kind: a value that a member of the kind may
have, or one of the two failures. -/
structure Operand.Sound (registry : Registry) (row : Row) (o : Operand) (kind : Kind) : Prop where
  /-- The kind is the declared one. -/
  declared : o.kind registry = .ok kind
  /-- Computed values are null or of the declared kind. -/
  computed : ∀ v, o.evaluate registry row = .ok v → v.Inhabits kind
  /-- Failures are out of range, or not implemented where an argument is no position. -/
  failed : ∀ err, o.evaluate registry row = .error err → err.category = .outOfRange ∨
    err.category = .notImplemented ∧ Term.StrayArgument registry row o.nodes

section

variable {registry : Registry} {row : Row}

/-- A value that a composed term computes is of the kind that the term declares. -/
theorem Term.kind_of_evaluate {t : Term} {v : Value} (hmember : t.member? = none)
    (hliteral : t.isLiteral = false) (h : t.evaluate registry row = .ok v) :
    t.kind registry = .ok v.kind := by
  cases t with
  | member _ => cases hmember
  | literal _ _ => cases hliteral
  | binary l sign r =>
    rw [Term.evaluate] at h
    obtain ⟨kind, hkind, h⟩ := bind_eq_ok_iff.mp h
    obtain ⟨a, -, h⟩ := bind_eq_ok_iff.mp h
    obtain ⟨b, -, h⟩ := bind_eq_ok_iff.mp h
    rw [← toOption_eq_some_iff, toOption_mapError, toOption_eq_some_iff] at h
    rw [hkind, Value.kind_of_arithmetic h]
  | unary sign t args =>
    rw [← toOption_eq_some_iff, toOption_evaluate_unary] at h
    obtain ⟨a, -, h⟩ := Option.bind_eq_some_iff.mp h
    obtain ⟨vs, -, h⟩ := Option.bind_eq_some_iff.mp h
    rw [Term.kind, Value.kind_of_applied? h]

namespace Operand.Sound

/-- A plain value is sound. -/
theorem value (v : Value) : (Operand.value v).Sound registry row v.kind where
  declared := rfl
  computed w h := by
    cases h
    exact .inr rfl
  failed err h := by cases h

/-- A literal is sound, assigned or not. -/
theorem literal (v : Value) (assigned : Bool) :
    (Operand.term (.literal v assigned)).Sound registry row v.kind where
  declared := rfl
  computed w h := by
    cases assigned <;> cases h
    · exact .inl rfl
    · exact .inr rfl
  failed err h := by cases h

/-- A member that the row has is sound. -/
theorem member {ref : MemberRef} {kind : Kind} {v : Value} (hkind : ref.kind registry = .ok kind)
    (hv : row.value? ref.name = some v) (hinhabits : v.Inhabits kind) :
    (Operand.term (.member ref)).Sound registry row kind := by
  have hvalue : (Operand.term (.member ref)).evaluate registry row = .ok v := by
    simp only [Operand.evaluate, Term.evaluate, hv]
  refine ⟨hkind, fun w hw => ?_, fun err herr => ?_⟩
  · rw [hvalue] at hw
    cases hw
    exact hinhabits
  · rw [hvalue] at herr
    cases herr

/-- Sound operands joined by arithmetic are sound. -/
theorem binary {l r : Operand} {j k kind : Kind} {sign : Sign}
    (hl : l.Sound registry row j) (hr : r.Sound registry row k)
    (hkind : Kind.arithmeticResult j k = some kind) (hsign : sign.isArithmetic = true)
    (htext : kind = .text → sign = .add) :
    (Operand.term (.binary l sign r)).Sound registry row kind := by
  have hdeclared : (Term.binary l sign r).kind registry = .ok kind := by
    simp [Term.kind, hl.declared, hr.declared, hkind, bind, Except.bind, pure, Except.pure]
  refine ⟨hdeclared, fun v hv => ?_, fun err herr => ?_⟩
  · have hcomputed := Term.kind_of_evaluate rfl rfl hv
    rw [hdeclared] at hcomputed
    exact .inr (Except.ok.inj hcomputed).symm
  · rw [Operand.evaluate, Term.evaluate, hdeclared] at herr
    -- the kind is declared, so one of the sides fails or the operation on their values does
    rcases bind_eq_error_iff.mp herr with h | ⟨_, h, herr⟩ <;> cases h
    rcases bind_eq_error_iff.mp herr with hleft | ⟨a, ha, herr⟩
    · exact (hl.failed err hleft).imp id fun h =>
        ⟨h.1, h.2.mono (List.subset_cons_of_subset _ (List.subset_append_left ..))⟩
    rcases bind_eq_error_iff.mp herr with hright | ⟨b, hb, herr⟩
    · exact (hr.failed err hright).imp id fun h =>
        ⟨h.1, h.2.mono (List.subset_cons_of_subset _ (List.subset_append_right ..))⟩
    obtain ⟨fault, hfault, rfl⟩ := mapError_eq_error_iff.mp herr
    left
    rw [Value.fault_of_arithmetic hkind hsign htext (hl.computed a ha) (hr.computed b hb) hfault]
    rfl

/-- Arguments of integer kinds fail with one of them, or because one computes no position. -/
theorem of_evaluateArgs {shown : String} {err : Error} {args : List Term}
    (hargs : ∀ arg ∈ args, ∃ kind, kind.isInteger = true ∧
      (Operand.term arg).Sound registry row kind)
    (h : Term.evaluateArgs registry row shown args = .error err) :
    (∃ arg ∈ args, arg.evaluate registry row = .error err) ∨
      err = .notImplemented shown ∧ ∃ arg ∈ args, ∃ v, arg.evaluate registry row = .ok v ∧
        (v = .null ∨ ∃ n : UInt64, v = .uint n ∧ Int64.maxValue.toInt < n.toNat) := by
  induction args with
  | nil => cases h
  | cons arg args ih =>
    rw [Term.evaluateArgs] at h
    rcases bind_eq_error_iff.mp h with herr | ⟨v, hv, h⟩
    · exact .inl ⟨arg, List.mem_cons_self, herr⟩
    · obtain ⟨kind, hinteger, hsound⟩ := hargs arg List.mem_cons_self
      cases hindex : v.index? with
      | none =>
        rw [hindex] at h
        cases h
        exact .inr ⟨rfl, arg, List.mem_cons_self, v, hv,
          (hsound.computed v hv).of_index?_eq_none hinteger hindex⟩
      | some n =>
        rw [hindex] at h
        rcases bind_eq_error_iff.mp h with hrest | ⟨_, _, h⟩
        · rcases ih (fun a ha => hargs a (List.mem_cons_of_mem arg ha)) hrest with
            ⟨a, ha, herr⟩ | ⟨rfl, a, ha, hstray⟩
          · exact .inl ⟨a, List.mem_cons_of_mem arg ha, herr⟩
          · exact .inr ⟨rfl, a, List.mem_cons_of_mem arg ha, hstray⟩
        · cases h

/-- A sign for texts on a sound term of kind text, with sound arguments of integer kinds, is
sound. -/
theorem unary {sign : Sign} {t : Term} {args : List Term} (hsign : sign.isString = true)
    (ht : (Operand.term t).Sound registry row .text) (hcount : args.length ≤ sign.maxArguments)
    (hargs : ∀ arg ∈ args, ∃ kind, kind.isInteger = true ∧
      (Operand.term arg).Sound registry row kind) :
    (Operand.term (.unary sign t args)).Sound registry row
      (if sign = .length then .int else .text) := by
  refine ⟨rfl, fun v hv => ?_, fun err herr => ?_⟩
  · have hcomputed := Term.kind_of_evaluate rfl rfl hv
    exact .inr (Except.ok.inj hcomputed).symm
  · rw [Operand.evaluate, Term.evaluate] at herr
    rcases bind_eq_error_iff.mp herr with hoperand | ⟨a, ha, herr⟩
    · exact (ht.failed err hoperand).imp id fun h =>
        ⟨h.1, h.2.mono (List.subset_cons_of_subset _ (List.subset_append_left ..))⟩
    obtain ⟨s, hs⟩ := (ht.computed a ha).exists_coalescedText?
    rw [hs] at herr
    rcases bind_eq_error_iff.mp herr with hpositions | ⟨positions, hpositions, herr⟩
    · rcases of_evaluateArgs hargs hpositions with
        ⟨arg, harg, herr⟩ | ⟨rfl, arg, harg, v, hv, hstray⟩
      · obtain ⟨kind, -, hsound⟩ := hargs arg harg
        refine (hsound.failed err herr).imp id fun h => ⟨h.1, h.2.mono ?_⟩
        exact List.subset_cons_of_subset _
          (List.subset_append_of_subset_right _ (Term.nodes_subset_nodesOfAll harg))
      · -- only a substring has arguments, so it is one
        have hsubstring : sign = .substring := by
          by_contra hne
          rw [Sign.maxArguments, if_neg hne] at hcount
          rw [List.eq_nil_of_length_eq_zero (Nat.le_zero.mp hcount)] at harg
          cases harg
        subst hsubstring
        exact .inr ⟨rfl, t, args, arg, v, List.mem_cons_self, harg, hv, hstray⟩
    · obtain ⟨fault, hfault, rfl⟩ := mapError_eq_error_iff.mp herr
      left
      rw [Value.fault_of_textFunction hsign hfault]
      rfl

end Operand.Sound

/-! ### The induction -/

/-- An operand is sound for its declared kind only. -/
theorem Operand.Sound.kind_eq {o : Operand} {j k : Kind} (h : o.Sound registry row j)
    (hk : o.kind registry = .ok k) : j = k := by
  rw [h.declared] at hk
  exact Except.ok.inj hk

mutual

/-- A term whose nodes are checked is sound over a row that fits them. -/
theorem Term.exists_sound : ∀ t : Term, Term.Ready registry row t.nodes →
    ∃ kind, (Operand.term t).Sound registry row kind := by
  -- the parts of a node are checked and fitted with it, and its own check joins their kinds
  intro t hready
  have hself := hready.checked t t.mem_nodes_self
  match t with
  | .member ref =>
    obtain ⟨kind, hkind⟩ := hself
    obtain ⟨v, hv, hinhabits⟩ := hready.fits ref kind (List.mem_singleton_self _) hkind
    exact ⟨kind, .member hkind hv hinhabits⟩
  | .literal v assigned => exact ⟨v.kind, .literal v assigned⟩
  | .binary l sign r =>
    obtain ⟨hsign, j, k, kind, hj, hk, hkind, htext⟩ := hself
    have hparts : Term.Ready registry row (l.nodes ++ r.nodes) :=
      hready.mono (List.subset_cons_self _ _)
    obtain ⟨j', hl⟩ := l.exists_sound (hparts.mono (List.subset_append_left _ _))
    obtain ⟨k', hr⟩ := r.exists_sound (hparts.mono (List.subset_append_right _ _))
    obtain rfl := hl.kind_eq hj
    obtain rfl := hr.kind_eq hk
    exact ⟨kind, .binary hl hr hkind hsign htext⟩
  | .unary sign t args =>
    obtain ⟨hsign, htext, hcount, hinteger, -⟩ := Term.apply_eq_ok_iff.mp hself
    have hparts : Term.Ready registry row (t.nodes ++ Term.nodesOfAll args) :=
      hready.mono (List.subset_cons_self _ _)
    obtain ⟨kind, ht⟩ := t.exists_sound (hparts.mono (List.subset_append_left _ _))
    obtain rfl := ht.kind_eq htext
    refine ⟨_, .unary hsign ht hcount fun arg harg => ?_⟩
    obtain ⟨kind, hsound⟩ :=
      Term.forall_exists_sound args (hparts.mono (List.subset_append_right _ _)) arg harg
    obtain ⟨kind', hkind', hint⟩ := hinteger arg harg
    obtain rfl := hsound.kind_eq hkind'
    exact ⟨kind, hint, hsound⟩

/-- An operand whose nodes are checked is sound over a row that fits them. -/
theorem Operand.exists_sound : ∀ o : Operand, Term.Ready registry row o.nodes →
    ∃ kind, o.Sound registry row kind
  | .term t, hready => t.exists_sound hready
  | .value v, _ => ⟨v.kind, .value v⟩

/-- Terms whose nodes are checked are sound over a row that fits them. -/
theorem Term.forall_exists_sound : ∀ ts : List Term, Term.Ready registry row (Term.nodesOfAll ts) →
    ∀ t ∈ ts, ∃ kind, (Operand.term t).Sound registry row kind
  | [], _ => nofun
  | t :: ts, hready => by
    rw [Term.nodesOfAll] at hready
    rw [List.forall_mem_cons]
    exact ⟨t.exists_sound (hready.mono (List.subset_append_left _ _)),
      Term.forall_exists_sound ts (hready.mono (List.subset_append_right _ _))⟩

end

end

/-! ### Soundness -/

/-- A term whose nodes pass the checks of their constructors declares a kind. Over a row that fits
its members it computes a value of that kind, or null if it is itself a member or a literal, or it
fails: out of range, or as not implemented where a substring has an argument that is no position.
Whatever the term and the row, a composed term computes values of its declared kind only. -/
theorem evaluate_sound (registry : Registry) (row : Row) :
    (∀ t : Term, (∀ s ∈ t.nodes, s.Checked registry) → row.Fits registry t.nodes →
      ∃ kind, t.kind registry = .ok kind ∧
        (∀ v, t.evaluate registry row = .ok v → v.kind = kind ∨
          v = .null ∧ (t.member?.isSome = true ∨ t.isLiteral = true)) ∧
        ∀ err, t.evaluate registry row = .error err → err.category = .outOfRange ∨
          err.category = .notImplemented ∧ Term.StrayArgument registry row t.nodes) ∧
    ∀ (t : Term) (v : Value), t.member? = none → t.isLiteral = false →
      t.evaluate registry row = .ok v → t.kind registry = .ok v.kind := by
  constructor
  · intro t hchecked hfits
    obtain ⟨kind, hsound⟩ := t.exists_sound ⟨hchecked, hfits⟩
    refine ⟨kind, hsound.declared, fun v hv => ?_, hsound.failed⟩
    by_cases hleaf : t.member?.isSome = true ∨ t.isLiteral = true
    · exact (hsound.computed v hv).symm.imp id fun hnull => ⟨hnull, hleaf⟩
    · -- a composed term computes its declared kind
      rw [not_or, Bool.not_eq_true, Bool.not_eq_true, Option.isSome_eq_false_iff,
        Option.isNone_iff_eq_none] at hleaf
      exact .inl (hsound.kind_eq (Term.kind_of_evaluate hleaf.1 hleaf.2 hv)).symm
  · intro t v hmember hliteral h
    exact Term.kind_of_evaluate hmember hliteral h

/-- A part of a text that is null, from a position without sign on, is joined to a number. -/
theorem evaluate_sound_concat :
    let name : Term := .member ⟨"person", "name", some ⟨"name", .text, true⟩⟩
    let start : Term := .member ⟨"person", "start", some ⟨"start", .uint, false⟩⟩
    let age : Term := .member ⟨"person", "age", some ⟨"age", .int, false⟩⟩
    let t : Term := .binary (.term (.unary .substring name [start])) .add (.term age)
    let row := Row.ofList [("name", .null), ("start", .uint 0), ("age", .int 7)]
    (∀ s ∈ t.nodes, s.Checked .empty) ∧ row.Fits .empty t.nodes ∧
      t.evaluate .empty row = .ok (.text "7") ∧ t.kind .empty = .ok .text ∧
      ∀ err, t.evaluate .empty row = .error err → err.category = .outOfRange ∨
        err.category = .notImplemented ∧ Term.StrayArgument .empty row t.nodes := by
  intro name start age t row
  have hnodes : t.nodes = [t, .unary .substring name [start], name, start, age] := rfl
  have hchecked : ∀ s ∈ t.nodes, s.Checked .empty := by
    have hjoin : t.Checked .empty := ⟨rfl, .text, .int, .text, rfl, rfl, rfl, fun _ => rfl⟩
    have hsubstring : (Term.unary .substring name [start]).Checked .empty := rfl
    rw [hnodes]
    simp only [List.forall_mem_cons]
    exact ⟨hjoin, hsubstring, ⟨.text, rfl⟩, ⟨.uint, rfl⟩, ⟨.int, rfl⟩, nofun⟩
  have hfits : row.Fits .empty t.nodes := by
    intro ref kind href hkind
    simp only [hnodes, t, name, start, age, List.mem_cons, List.not_mem_nil, or_false, reduceCtorEq,
      false_or, Term.member.injEq] at href
    rcases href with rfl | rfl | rfl <;> cases hkind
    · exact ⟨.null, rfl, .inl rfl⟩
    · exact ⟨.uint 0, rfl, .inr rfl⟩
    · exact ⟨.int 7, rfl, .inr rfl⟩
  have ht : t.evaluate .empty row = .ok (.text "7") := rfl
  obtain ⟨hsound, hcomposed⟩ := evaluate_sound .empty row
  obtain ⟨kind, -, -, hfailed⟩ := hsound t hchecked hfits
  exact ⟨hchecked, hfits, ht, hcomposed t _ rfl rfl ht, hfailed⟩

end RowFilter
