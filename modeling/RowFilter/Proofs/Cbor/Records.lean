import RowFilter.Cbor.Decoding
import RowFilter.Proofs.Result

/-!
# Records and variants

The shapes of typed data are read back from the items that are written for them, and a reading that
succeeds has read each of its parts.

A record is written as a map of its fields in their order. `foldPairs_flatMap` says that such a map
is read like the array of the fields, so one lemma about arrays serves both forms. Conversely, what
holds of a record before any field and is kept by each field holds at the end, in any of the forms:
`foldRecord_induction`. It gives for each size of record the items that the parts were read from.
-/

namespace RowFilter

namespace Item

/-! ### Records that are written -/

section

variable {σ : Type} {step : Nat → Item → σ → Decoded σ}

/-- The position of a name among names of which none before it is equal. -/
theorem idxOf?_append_cons {before after : List String} {name : String} (h : name ∉ before) :
    (before ++ name :: after).idxOf? name = some before.length := by
  rw [List.idxOf?_eq_some_iff]
  have hlt : before.length < (before ++ name :: after).length := by
    rw [List.length_append, List.length_cons]
    omega
  refine ⟨hlt, by simp, fun j hj heq => h ?_⟩
  rw [List.getElem_append_left hj] at heq
  rw [← heq]
  exact List.getElem_mem hj

/-- The pairs of the fields that are left are read like the items that are left. -/
theorem foldPairs_flatMap : ∀ (before : List String) (entries : List (String × Item)) (s : σ),
    (before ++ entries.map Prod.fst).Nodup →
    foldPairs (before ++ entries.map Prod.fst) step (entries.flatMap fun e => [text e.1, e.2]) s =
      foldElements (before ++ entries.map Prod.fst).length step before.length
        (entries.map Prod.snd) s
  | before, [], s, _ => by
    simp [foldPairs, foldElements]
  | before, (name, item) :: entries, s, hnodup => by
    have hfresh : name ∉ before := by
      intro hmem
      exact (List.nodup_append.mp hnodup).2.2 name hmem name List.mem_cons_self rfl
    -- the name that has just been read joins those before
    have hmove : before ++ name :: entries.map Prod.fst =
        before ++ [name] ++ entries.map Prod.fst := by
      rw [List.append_assoc, List.singleton_append]
    have hlt : before.length < (before ++ name :: entries.map Prod.fst).length := by
      rw [List.length_append, List.length_cons]
      omega
    have hname : name? (before ++ name :: entries.map Prod.fst) (text name) =
        .ok (some before.length) := congrArg Except.ok (idxOf?_append_cons hfresh)
    rw [List.map_cons] at hnodup
    rw [List.map_cons, List.flatMap_cons, List.cons_append, List.cons_append, List.nil_append,
      foldPairs, hname, List.map_cons, foldElements, if_pos hlt]
    change (step before.length item s >>= _) = step before.length item s >>= _
    congr 1
    funext s'
    -- both sides go on with what the step gives, one name further
    rw [hmove] at hnodup ⊢
    have hnext : (before ++ [name]).length = before.length + 1 := by simp
    rw [foldPairs_flatMap (before ++ [name]) entries s' hnodup, hnext]

/-- A record that is written as a map is read like the array of its fields. -/
theorem foldRecord_fields (names : List String) (entries : List (String × Item)) (s : σ)
    (hnames : entries.map Prod.fst = names) (hnodup : names.Nodup) :
    foldRecord names step s (fields entries) =
      foldElements names.length step 0 (entries.map Prod.snd) s := by
  subst hnames
  exact foldPairs_flatMap [] entries s hnodup

end

section

variable {α β γ δ : Type} {a b c d : String} {decodeA : Item → Decoded α}
  {decodeB : Item → Decoded β} {decodeC : Item → Decoded γ} {decodeD : Item → Decoded δ}
  {x : α} {y : β} {z : γ} {w : δ} {i j k l : Item}

/-- A record of two fields is read back. -/
theorem record2_fields (hnodup : [a, b].Nodup) (hx : decodeA i = .ok x) (hy : decodeB j = .ok y) :
    record2 a decodeA b decodeB (fields [(a, i), (b, j)]) = .ok (x, y) := by
  simp only [record2]
  rw [foldRecord_fields [a, b] [(a, i), (b, j)] _ rfl hnodup]
  simp [foldElements, put, hx, hy, orMalformed, bind, Except.bind, pure, Except.pure,
    Functor.map, Except.map]

/-- A record of three fields is read back, also where fields may be missing. -/
theorem optional3_fields (hnodup : [a, b, c].Nodup) (hx : decodeA i = .ok x)
    (hy : decodeB j = .ok y) (hz : decodeC k = .ok z) :
    optional3 a decodeA b decodeB c decodeC (fields [(a, i), (b, j), (c, k)]) =
      .ok (some x, some y, some z) := by
  simp only [optional3]
  rw [foldRecord_fields [a, b, c] [(a, i), (b, j), (c, k)] _ rfl hnodup]
  simp [foldElements, put, hx, hy, hz, bind, Except.bind, pure, Except.pure, Functor.map,
    Except.map]

/-- A record of three fields is read back. -/
theorem record3_fields (hnodup : [a, b, c].Nodup) (hx : decodeA i = .ok x)
    (hy : decodeB j = .ok y) (hz : decodeC k = .ok z) :
    record3 a decodeA b decodeB c decodeC (fields [(a, i), (b, j), (c, k)]) = .ok (x, y, z) := by
  rw [record3, optional3_fields hnodup hx hy hz]
  rfl

/-- A record of four fields is read back. -/
theorem record4_fields (hnodup : [a, b, c, d].Nodup) (hx : decodeA i = .ok x)
    (hy : decodeB j = .ok y) (hz : decodeC k = .ok z) (hw : decodeD l = .ok w) :
    record4 a decodeA b decodeB c decodeC d decodeD
      (fields [(a, i), (b, j), (c, k), (d, l)]) = .ok (x, y, z, w) := by
  simp only [record4]
  rw [foldRecord_fields [a, b, c, d] [(a, i), (b, j), (c, k), (d, l)] _ rfl hnodup]
  simp [foldElements, put, hx, hy, hz, hw, orMalformed, bind, Except.bind, pure, Except.pure,
    Functor.map, Except.map]

end

/-! ### Records that are read -/

section

variable {σ : Type} {names : List String} {step : Nat → Item → σ → Decoded σ} {P : σ → Prop}
  (hstep : ∀ i item s s', step i item s = .ok s' → P s → P s')

include hstep

/-- What each field keeps is kept by the pairs of a record. -/
theorem foldPairs_induction : ∀ {content : List Item} {s s' : σ},
    foldPairs names step content s = .ok s' → P s → P s'
  | [], s, s', h, hs => by
    cases h
    exact hs
  | [_], s, s', h, _ => nomatch h
  | key :: value :: rest, s, s', h, hs => by
    rw [foldPairs] at h
    obtain ⟨found, -, h⟩ := bind_eq_ok_iff.mp h
    cases found with
    | some i =>
      obtain ⟨t, ht, h⟩ := bind_eq_ok_iff.mp h
      exact foldPairs_induction h (hstep i value s t ht hs)
    | none =>
      -- an unknown name is passed over
      dsimp only at h
      split at h
      next => exact foldPairs_induction h hs
      next => cases h

/-- What each field keeps is kept by the items of a record. -/
theorem foldElements_induction {count : Nat} : ∀ {items : List Item} {i : Nat} {s s' : σ},
    foldElements count step i items s = .ok s' → P s → P s'
  | [], i, s, s', h, hs => by
    rw [foldElements] at h
    split at h
    next => cases h; exact hs
    next => cases h
  | item :: items, i, s, s', h, hs => by
    rw [foldElements] at h
    split at h
    next =>
      obtain ⟨t, ht, h⟩ := bind_eq_ok_iff.mp h
      exact foldElements_induction h (hstep i item s t ht hs)
    next => cases h

/-- What holds before any field and is kept by each field holds of a record that is read. -/
theorem foldRecord_induction {init s : σ} {item : Item}
    (h : foldRecord names step init item = .ok s) (hinit : P init) : P s := by
  unfold foldRecord at h
  split at h
  · exact foldPairs_induction hstep h hinit
  · exact foldPairs_induction hstep h hinit
  · exact foldElements_induction hstep h hinit
  · cases h

end

/-- What may have been read of a part has been read from some item. -/
def ReadBy {α : Type} (decode : Item → Decoded α) (part : Option α) : Prop :=
  ∀ x, part = some x → ∃ item, decode item = .ok x

theorem ReadBy.none {α : Type} (decode : Item → Decoded α) : ReadBy decode none := nofun

/-- A part that is put has been read from its item. -/
theorem readBy_of_put {α : Type} {decode : Item → Decoded α} {old new : Option α} {item : Item}
    (h : put old decode item = .ok new) : ReadBy decode new := by
  rintro x rfl
  cases old with
  | some _ => cases h
  | none =>
    obtain ⟨y, hy, hxy⟩ := map_eq_ok_iff.mp h
    cases hxy
    exact ⟨item, hy⟩

/-- A part that has to be there has been read. -/
theorem exists_of_orMalformed {α : Type} {decode : Item → Decoded α} {part : Option α} {x : α}
    (hpart : ReadBy decode part) (h : orMalformed part = .ok x) : ∃ item, decode item = .ok x := by
  cases part with
  | none => cases h
  | some y =>
    cases h
    exact hpart _ rfl

section

variable {α β γ δ : Type} {a b c d : String} {decodeA : Item → Decoded α}
  {decodeB : Item → Decoded β} {decodeC : Item → Decoded γ} {decodeD : Item → Decoded δ}
  {item : Item}

/-- The parts of a record of three fields that are there have been read from items. -/
theorem parts_of_optional3 {p : Option α} {q : Option β} {r : Option γ}
    (h : optional3 a decodeA b decodeB c decodeC item = .ok (p, q, r)) :
    ReadBy decodeA p ∧ ReadBy decodeB q ∧ ReadBy decodeC r := by
  rw [optional3] at h
  exact foldRecord_induction
    (P := fun s => ReadBy decodeA s.1 ∧ ReadBy decodeB s.2.1 ∧ ReadBy decodeC s.2.2)
    (fun i item s s' hstep hs => by
      split at hstep <;> obtain ⟨new, hnew, hstep⟩ := bind_eq_ok_iff.mp hstep <;> cases hstep
      · exact ⟨readBy_of_put hnew, hs.2⟩
      · exact ⟨hs.1, readBy_of_put hnew, hs.2.2⟩
      · exact ⟨hs.1, hs.2.1, readBy_of_put hnew⟩)
    h ⟨.none _, .none _, .none _⟩

/-- The parts of a record of three fields have been read from items. -/
theorem parts_of_record3 {x : α} {y : β} {z : γ}
    (h : record3 a decodeA b decodeB c decodeC item = .ok (x, y, z)) :
    (∃ i, decodeA i = .ok x) ∧ (∃ j, decodeB j = .ok y) ∧ ∃ k, decodeC k = .ok z := by
  rw [record3] at h
  obtain ⟨⟨p, q, r⟩, hfold, h⟩ := bind_eq_ok_iff.mp h
  obtain ⟨x', hx, h⟩ := bind_eq_ok_iff.mp h
  obtain ⟨y', hy, h⟩ := bind_eq_ok_iff.mp h
  obtain ⟨z', hz, h⟩ := bind_eq_ok_iff.mp h
  cases h
  obtain ⟨hp, hq, hr⟩ := parts_of_optional3 hfold
  exact ⟨exists_of_orMalformed hp hx, exists_of_orMalformed hq hy, exists_of_orMalformed hr hz⟩

/-- The parts of a record of four fields have been read from items. -/
theorem parts_of_record4 {x : α} {y : β} {z : γ} {w : δ}
    (h : record4 a decodeA b decodeB c decodeC d decodeD item = .ok (x, y, z, w)) :
    (∃ i, decodeA i = .ok x) ∧ (∃ j, decodeB j = .ok y) ∧ (∃ k, decodeC k = .ok z) ∧
      ∃ l, decodeD l = .ok w := by
  rw [record4] at h
  obtain ⟨⟨p, q, r, t⟩, hfold, h⟩ := bind_eq_ok_iff.mp h
  obtain ⟨x', hx, h⟩ := bind_eq_ok_iff.mp h
  obtain ⟨y', hy, h⟩ := bind_eq_ok_iff.mp h
  obtain ⟨z', hz, h⟩ := bind_eq_ok_iff.mp h
  obtain ⟨w', hw, h⟩ := bind_eq_ok_iff.mp h
  cases h
  have hread := foldRecord_induction
    (P := fun s => ReadBy decodeA s.1 ∧ ReadBy decodeB s.2.1 ∧ ReadBy decodeC s.2.2.1 ∧
      ReadBy decodeD s.2.2.2)
    (fun i item s s' hstep hs => by
      split at hstep <;> obtain ⟨new, hnew, hstep⟩ := bind_eq_ok_iff.mp hstep <;> cases hstep
      · exact ⟨readBy_of_put hnew, hs.2⟩
      · exact ⟨hs.1, readBy_of_put hnew, hs.2.2⟩
      · exact ⟨hs.1, hs.2.1, readBy_of_put hnew, hs.2.2.2⟩
      · exact ⟨hs.1, hs.2.1, hs.2.2.1, readBy_of_put hnew⟩)
    hfold ⟨.none _, .none _, .none _, .none _⟩
  exact ⟨exists_of_orMalformed hread.1 hx, exists_of_orMalformed hread.2.1 hy,
    exists_of_orMalformed hread.2.2.1 hz, exists_of_orMalformed hread.2.2.2 hw⟩

end

/-! ### Variants -/

section

variable {α : Type} {alternatives : List (String × Alternative α)} {a : α} {item : Item}

/-- The alternative of a position is named by its name. -/
theorem alternative_text {name : String} {n : Nat} {chosen : Alternative α}
    (hname : (alternatives.map Prod.fst).idxOf? name = some n)
    (hchosen : alternatives[n]? = some (name, chosen)) :
    alternative alternatives (text name) = .ok chosen := by
  have hposition : name? (alternatives.map Prod.fst) (text name) = .ok (some n) :=
    congrArg Except.ok hname
  rw [alternative, hposition]
  change orMalformed (alternatives[n]?.map Prod.snd) = _
  rw [hchosen]
  rfl

/-- A variant with a payload is read back as its payload is. -/
theorem asVariant_variant {name : String} {n : Nat} {decode : Item → Decoded α} {payload : Item}
    (hname : (alternatives.map Prod.fst).idxOf? name = some n)
    (hchosen : alternatives[n]? = some (name, .payload decode)) :
    asVariant alternatives (variant name payload) = decode payload := by
  rw [variant, asVariant, alternative_text hname hchosen]
  rfl

/-- A variant without a payload is read back from its name. -/
theorem asVariant_text {name : String} {n : Nat}
    (hname : (alternatives.map Prod.fst).idxOf? name = some n)
    (hchosen : alternatives[n]? = some (name, .bare a)) :
    asVariant alternatives (text name) = .ok a := by
  rw [asVariant, alternative_text hname hchosen]
  · rfl
  all_goals nofun

/-- What an alternative can be read as. -/
def Alternative.Gives : Alternative α → α → Prop
  | .bare b, a => a = b
  | .payload decode, a => ∃ item, decode item = .ok a

/-- An alternative that is found is one of those that there are. -/
theorem mem_of_alternative {chosen : Alternative α}
    (h : alternative alternatives item = .ok chosen) : ∃ name, (name, chosen) ∈ alternatives := by
  rw [alternative] at h
  obtain ⟨found, -, h⟩ := bind_eq_ok_iff.mp h
  obtain ⟨n, -, h⟩ := bind_eq_ok_iff.mp h
  cases hn : alternatives[n]? with
  | none =>
    rw [hn] at h
    cases h
  | some e =>
    rw [hn] at h
    cases h
    exact ⟨e.1, List.mem_of_getElem? hn⟩

/-- What an alternative reads is what it can be read as. -/
theorem Alternative.gives_of_read {chosen : Alternative α} (h : chosen.read item = .ok a) :
    chosen.Gives a := by
  cases chosen with
  | bare b =>
    obtain ⟨_, -, h⟩ := bind_eq_ok_iff.mp h
    cases h
    rfl
  | payload decode => exact ⟨item, h⟩

/-- What is read as one of several alternatives is what one of them can be read as. -/
theorem exists_of_asVariant (h : asVariant alternatives item = .ok a) :
    ∃ e ∈ alternatives, e.2.Gives a := by
  unfold asVariant at h
  split at h
  next key value =>
    obtain ⟨chosen, hchosen, h⟩ := bind_eq_ok_iff.mp h
    obtain ⟨name, hmem⟩ := mem_of_alternative hchosen
    exact ⟨_, hmem, Alternative.gives_of_read h⟩
  next key value rest =>
    obtain ⟨chosen, hchosen, h⟩ := bind_eq_ok_iff.mp h
    obtain ⟨name, hmem⟩ := mem_of_alternative hchosen
    obtain ⟨b, hb, h⟩ := bind_eq_ok_iff.mp h
    split at h
    next =>
      cases h
      exact ⟨_, hmem, Alternative.gives_of_read hb⟩
    next => cases h
  next => cases h
  next =>
    obtain ⟨chosen, hchosen, h⟩ := bind_eq_ok_iff.mp h
    obtain ⟨name, hmem⟩ := mem_of_alternative hchosen
    cases chosen with
    | bare b =>
      cases h
      exact ⟨_, hmem, rfl⟩
    | payload decode => cases h

end

end Item

end RowFilter
