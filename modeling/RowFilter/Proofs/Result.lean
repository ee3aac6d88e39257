/-!
# Results of computations that may fail

What the success of a sequence says of its parts, and what its failure says: which part failed. The
`toOption` of a result forgets with which error it failed; the lemmas on it are about whether there
is a result and which.
-/

namespace RowFilter

/-! ### Success and failure of a sequence -/

/-- A sequence succeeds exactly if its first part does and the rest does on what that part gives. -/
theorem bind_eq_ok_iff {ε α β : Type} {x : Except ε α} {f : α → Except ε β} {b : β} :
    x >>= f = .ok b ↔ ∃ a, x = .ok a ∧ f a = .ok b := by
  cases x with
  | error e => exact ⟨nofun, fun ⟨_, h, _⟩ => nomatch h⟩
  | ok a => exact ⟨fun h => ⟨a, rfl, h⟩, fun ⟨_, h, hf⟩ => by cases h; exact hf⟩

/-- A sequence fails exactly if its first part does, or the rest does on what that part gives. -/
theorem bind_eq_error_iff {ε α β : Type} {x : Except ε α} {f : α → Except ε β} {e : ε} :
    x >>= f = .error e ↔ x = .error e ∨ ∃ a, x = .ok a ∧ f a = .error e := by
  cases x with
  | error e' =>
    constructor
    · intro h
      cases h
      exact .inl rfl
    · rintro (h | ⟨_, h, _⟩) <;> cases h
      rfl
  | ok a =>
    constructor
    · intro h
      exact .inr ⟨a, rfl, h⟩
    · rintro (h | ⟨_, h, hf⟩) <;> cases h
      exact hf

/-- A renamed error comes from an error. -/
theorem mapError_eq_error_iff {ε ε' α : Type} {f : ε → ε'} {x : Except ε α} {e : ε'} :
    x.mapError f = .error e ↔ ∃ e', x = .error e' ∧ f e' = e := by
  cases x with
  | ok a => exact ⟨nofun, fun ⟨_, h, _⟩ => nomatch h⟩
  | error e' =>
    constructor
    · intro h
      exact ⟨e', rfl, Except.error.inj h⟩
    · rintro ⟨_, h, rfl⟩
      cases h
      rfl

/-- A mapped result is the image of a result. -/
theorem map_eq_ok_iff {ε α β : Type} {x : Except ε α} {f : α → β} {b : β} :
    f <$> x = .ok b ↔ ∃ a, x = .ok a ∧ f a = b := by
  cases x with
  | error e => exact ⟨nofun, fun ⟨_, h, _⟩ => nomatch h⟩
  | ok a =>
    constructor
    · intro h
      exact ⟨a, rfl, Except.ok.inj h⟩
    · rintro ⟨_, h, rfl⟩
      cases h
      rfl

/-- Items that are each read as what they were made from are read as the list of it. -/
theorem mapM_map_eq_ok {ε α β : Type} {f : α → Except ε β} {item : β → α} :
    ∀ {bs : List β}, (∀ b ∈ bs, f (item b) = .ok b) → (bs.map item).mapM f = .ok bs
  | [], _ => rfl
  | b :: bs, h => by
    rw [List.map_cons, List.mapM_cons, h b List.mem_cons_self]
    have hrest := mapM_map_eq_ok fun d hd => h d (List.mem_cons_of_mem b hd)
    change (List.mapM f (bs.map item) >>= fun ds => .ok (b :: ds)) = _
    rw [hrest]
    rfl

/-! ### Errors forgotten -/

@[simp]
theorem toOption_ok {ε α : Type} (a : α) : (.ok a : Except ε α).toOption = some a := rfl

@[simp]
theorem toOption_error {ε α : Type} (e : ε) : (.error e : Except ε α).toOption = none := rfl

@[simp]
theorem toOption_throw {ε α : Type} (e : ε) : (throw e : Except ε α).toOption = none := rfl

/-- What an exceptional sequence gives, errors forgotten. -/
@[simp]
theorem toOption_bind {ε α β : Type} (x : Except ε α) (f : α → Except ε β) :
    (x >>= f).toOption = x.toOption.bind fun a => (f a).toOption := by
  cases x <;> rfl

/-- Renaming errors does not change what is left when they are forgotten. -/
@[simp]
theorem toOption_mapError {ε ε' α : Type} (f : ε → ε') (x : Except ε α) :
    (x.mapError f).toOption = x.toOption := by
  cases x <;> rfl

/-- A result is left exactly if there is one. -/
theorem toOption_eq_some_iff {ε α : Type} {x : Except ε α} {a : α} :
    x.toOption = some a ↔ x = .ok a := by
  cases x <;> simp [Except.toOption]

end RowFilter
