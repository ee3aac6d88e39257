import RowFilter.Proofs.Calendar.Order

/-!
# Reading the text of a day

The text of a day is read back to the day if its year has four digits (`Date.parse?_of_text`). A
year is filled up with zeros to four characters and its sign is one of them, so the years from −999
to −1 have three digits only, and a date of theirs is not read. Nor is a count of days, which is the
text of a day outside the calendar.
-/

namespace RowFilter

namespace Date

variable {count n : Nat} {cs rest : List Char} {c : Char}

/-! ### Numbers of so many digits -/

/-- The characters are a number, written out with so many digits. -/
structure Writes (count n : Nat) (cs : List Char) : Prop where
  /-- There are as many characters as digits. -/
  length_eq : cs.length = count
  /-- Each character is a digit. -/
  isDigit : ∀ c ∈ cs, c.isDigit = true
  /-- The digits are those of the number. -/
  value_eq : Nat.ofDigitChars 10 cs 0 = n

/-- A number that is written out is read, and nothing behind it. -/
theorem Writes.readDigits_append (h : Writes count n cs) (rest : List Char) :
    readDigits count (cs ++ rest) = some (n, rest) := by
  have htake : (cs ++ rest).take count = cs := List.take_left' h.length_eq
  have hdrop : (cs ++ rest).drop count = rest := List.drop_left' h.length_eq
  have hdigits : cs.all Char.isDigit = true := List.all_eq_true.mpr h.isDigit
  rw [readDigits, htake, hdrop]
  exact (if_pos ⟨h.length_eq, hdigits⟩).trans (congrArg (fun n => some (n, rest)) h.value_eq)

/-- No number is read where another character comes too early. -/
theorem readDigits_eq_none (hmem : c ∈ cs.take count) (hc : c.isDigit = false) :
    readDigits count cs = none := by
  rw [readDigits]
  refine if_neg fun h => ?_
  have hdigit := List.all_eq_true.mp h.2 c hmem
  rw [hc] at hdigit
  cases hdigit

/-- A number without sign is its digits, behind the zeros that are missing. -/
theorem toList_padded_nat (width n : Nat) : (padded width n).toList =
    List.replicate (width - (Nat.toDigits 10 n).length) '0' ++ Nat.toDigits 10 n := by
  have hsign : ¬ (n : Int) < 0 := by omega
  simp only [padded, if_neg hsign, Int.natAbs_natCast, Nat.repr_eq_ofList_toDigits,
    String.toList_append, String.toList_ofList, String.length_ofList]
  simp

/-- The sign of a negative number takes the place of one of its zeros. -/
theorem toList_padded_neg (width : Nat) (hn : 0 < n) :
    (padded (width + 1) (-n)).toList = '-' :: (padded width n).toList := by
  have hsign : (-n : Int) < 0 := by omega
  have hlength : "-".length = 1 := rfl
  rw [toList_padded_nat]
  simp only [padded, if_pos hsign, Int.natAbs_neg, Int.natAbs_natCast, Nat.repr_eq_ofList_toDigits,
    String.toList_append, String.toList_ofList, String.length_ofList, hlength, Nat.add_sub_cancel]
  rfl

/-- A number that is not too great is filled up to as many digits as there are characters. -/
theorem writes_padded {width : Nat} (hwidth : 0 < width) (hn : n < 10 ^ width) :
    Writes width n (padded width n).toList := by
  rw [toList_padded_nat]
  refine ⟨?_, fun c hc => Text.isDigit_of_mem_fill hc, Text.ofDigitChars_fill _ _⟩
  have hlength := (Nat.length_toDigits_le_iff (by decide) hwidth).mpr hn
  rw [List.length_append, List.length_replicate]
  omega

/-- A number that is too great for the width is not filled up. -/
theorem toList_padded_of_pow_le {width : Nat} (hn : 10 ^ width ≤ n) :
    (padded width n).toList = (padded (width + 1) n).toList := by
  have hlength : width < (Nat.toDigits 10 n).length := by
    by_contra hle
    rcases Nat.eq_zero_or_pos width with rfl | hwidth
    · exact hle Nat.length_toDigits_pos
    · exact absurd ((Nat.length_toDigits_le_iff (by decide) hwidth).mp (Nat.le_of_not_lt hle))
        (Nat.not_lt_of_le hn)
  rw [toList_padded_nat, toList_padded_nat, Nat.sub_eq_zero_of_le hlength.le,
    Nat.sub_eq_zero_of_le hlength]

/-- A number without sign is read without one. -/
theorem readSign_padded_nat (width : Nat) (hwidth : 0 < width) (hn : n < 10 ^ width)
    (rest : List Char) :
    readSign ((padded width n).toList ++ rest) = (false, (padded width n).toList ++ rest) := by
  obtain ⟨hlength, hdigits, -⟩ := writes_padded hwidth hn
  cases hcs : (padded width n).toList with
  | nil =>
    rw [hcs, List.length_nil] at hlength
    omega
  | cons c cs =>
    have hc : c.isDigit = true := hdigits c (by simp [hcs])
    rw [List.cons_append]
    unfold readSign
    -- neither sign is a digit
    split
    next h => cases h; cases hc
    next h => cases h; cases hc
    next => rfl

/-- The sign of a negative number is read, and what is left is the number without it. -/
theorem readSign_padded_neg (width : Nat) (hn : 0 < n) (rest : List Char) :
    readSign ((padded (width + 1) (-n)).toList ++ rest) =
      (true, (padded width n).toList ++ rest) := by
  rw [toList_padded_neg width hn]
  rfl

/-! ### Dates -/

/-- A year of four digits, a month and a day of two are read as a date of the calendar. -/
theorem parse?_of_writes {s : String} {negative : Bool} {year month day : List Char} {y m d : Nat}
    (hs : readSign s.toList = (negative, year ++ '-' :: (month ++ '-' :: day)))
    (hyear : Writes 4 y year) (hmonth : Writes 2 m month) (hday : Writes 2 d day) :
    parse? s = ofCalendar? ⟨if negative then -(y : Int) else y, m, d⟩ := by
  have hlast : readDigits 2 day = some (d, []) := by
    have h := hday.readDigits_append []
    rwa [List.append_nil] at h
  simp only [parse?, hs, hyear.readDigits_append, hmonth.readDigits_append, hlast, readHyphen,
    Option.bind_eq_bind, Option.bind_some, List.isEmpty_nil, guard_true]
  rfl

/-- Without a year of four digits nothing is read. -/
theorem parse?_eq_none {s : String} (h : readDigits 4 (readSign s.toList).2 = none) :
    parse? s = none := by
  simp only [parse?, h]
  rfl

section

variable {s : String} {y m d : Nat} {month day : List Char}

/-- A year that is not negative is filled up to four digits, with which it is read. -/
theorem parse?_of_year_nat
    (hs : s.toList = (padded 4 (y : Int)).toList ++ '-' :: (month ++ '-' :: day))
    (hy : y < 10 ^ 4) (hmonth : Writes 2 m month) (hday : Writes 2 d day) :
    parse? s = ofCalendar? ⟨y, m, d⟩ := by
  have hread := (congrArg readSign hs).trans (readSign_padded_nat 4 (by decide) hy _)
  exact parse?_of_writes hread (writes_padded (by decide) hy) hmonth hday

/-- A negative year that fills the width has four digits behind its sign. -/
theorem parse?_of_year_neg
    (hs : s.toList = (padded 4 (-y : Int)).toList ++ '-' :: (month ++ '-' :: day))
    (hlong : 10 ^ 3 ≤ y) (hy : y < 10 ^ 4) (hmonth : Writes 2 m month) (hday : Writes 2 d day) :
    parse? s = ofCalendar? ⟨-y, m, d⟩ := by
  have hread := (congrArg readSign hs).trans (readSign_padded_neg 3 (by omega) _)
  have hyear : Writes 4 y (padded 3 y).toList := by
    rw [toList_padded_of_pow_le hlong]
    exact writes_padded (by decide) hy
  exact parse?_of_writes hread hyear hmonth hday

/-- A shorter negative year has three digits, and where the fourth should be stands the hyphen. -/
theorem parse?_of_year_short (hs : s.toList = (padded 4 (-y : Int)).toList ++ '-' :: rest)
    (hpos : 0 < y) (hshort : y < 10 ^ 3) : parse? s = none := by
  have hread := (congrArg readSign hs).trans (readSign_padded_neg 3 hpos _)
  have hyear : Writes 3 y (padded 3 y).toList := writes_padded (by decide) hshort
  refine parse?_eq_none (readDigits_eq_none (c := '-') ?_ rfl)
  rw [hread, List.take_append, hyear.length_eq]
  exact List.mem_append_right _ List.mem_cons_self

end

variable {d : Date}

/-- Month and day of a date of the calendar have two digits. -/
theorem writes_monthDay (m : Int) :
    Writes 2 (CalendarDate.ofDayNumber m).month
        (padded 2 (CalendarDate.ofDayNumber m).month).toList ∧
      Writes 2 (CalendarDate.ofDayNumber m).day
        (padded 2 (CalendarDate.ofDayNumber m).day).toList := by
  have hdate := CalendarDate.isValid_iff_isGregorian.mp (CalendarDate.isValid_ofDayNumber m)
  have hmonth := hdate.month_le
  have hday : (CalendarDate.ofDayNumber m).day ≤ 31 := by
    refine hdate.day_le.trans ?_
    split_ifs <;> decide
  exact ⟨writes_padded (by decide) (by omega), writes_padded (by decide) (by omega)⟩

/-- The text of a day of the calendar is read back, or not at all if its year lacks a digit. -/
theorem parse?_text_of_inCalendar (h : d.inCalendar = true) :
    parse? d.text = if 0 ≤ d.year ∨ d.year ≤ -1000 then some d else none := by
  obtain ⟨hmonth, hday⟩ := writes_monthDay d.days.toInt
  have hyear : d.year = (CalendarDate.ofDayNumber d.days.toInt).year := by
    rw [year, toCalendar_of_inCalendar h]
  obtain ⟨hlow, hhigh⟩ := (year_ofDayNumber_mem_iff _).mpr (inCalendar_iff.mp h)
  have hdate := ofCalendar?_eq_some_iff.mpr ⟨h, rfl⟩
  have htext := toList_text_of_inCalendar h
  rw [hyear]
  -- nothing is needed of the date but its digits and its day
  generalize CalendarDate.ofDayNumber d.days.toInt = date at *
  obtain ⟨year, month, day⟩ := date
  dsimp only at *
  rw [List.append_assoc, List.cons_append] at htext
  rcases Int.lt_or_le year 0 with hneg | hpos
  · obtain ⟨y, rfl⟩ : ∃ y : Nat, year = -y := ⟨year.natAbs, by omega⟩
    by_cases hlong : 1000 ≤ y
    · rw [if_pos (.inr (by omega)), parse?_of_year_neg htext hlong (by omega) hmonth hday]
      exact hdate
    · rw [if_neg (by omega)]
      exact parse?_of_year_short htext (by omega) (by omega)
  · obtain ⟨y, rfl⟩ := Int.eq_ofNat_of_zero_le hpos
    rw [if_pos (.inl hpos), parse?_of_year_nat htext (by omega) hmonth hday]
    exact hdate

/-- The count of a day outside the calendar is not read as a date. -/
theorem parse?_text_of_not_inCalendar (h : d.inCalendar = false) : parse? d.text = none := by
  refine parse?_eq_none ?_
  rw [toList_text_of_not_inCalendar h]
  exact readDigits_eq_none (c := 'e') List.mem_cons_self rfl

/-- What is read of the text of a day is the day itself, if the day is in the calendar and its year
has four digits, as all have but those from −999 to −1. Of any other day nothing is read. -/
theorem parse?_of_text (d : Date) :
    parse? d.text =
      if d.inCalendar = true ∧ (0 ≤ d.year ∨ d.year ≤ -1000) then some d else none := by
  cases h : d.inCalendar with
  | true => simpa using parse?_text_of_inCalendar h
  | false => simpa using parse?_text_of_not_inCalendar h

/-- The last day before year zero is in the calendar. Its year is written with three digits, with
which it is not read. -/
theorem parse?_text_before_year_zero :
    let d : Date := ⟨-719529⟩
    d.inCalendar = true ∧ ofCalendar? ⟨-1, 12, 31⟩ = some d ∧ d.text = "-001-12-31" ∧
      parse? d.text = none ∧ parse? "-0001-12-31" = some d := by
  decide +kernel

end Date

end RowFilter
