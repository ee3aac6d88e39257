import RowFilter.Calendar.Date
import RowFilter.Proofs.Text.Digits

/-!
# The text of a day determines it

A day of the calendar is the day number of its year, month and day (`dayNumber_ofDayNumber`), and
these are read off its text from behind: neither the month nor the day has a hyphen in it, while the
year may start with one. A day outside the calendar prints as its count, which no date looks like.
-/

namespace RowFilter

namespace Gregorian

/-! ### Day numbers -/

/-- The year of a day has begun by then. -/
theorem daysBeforeYear_yearOf_le (n : Int) : daysBeforeYear (yearOf n) ≤ n := by
  unfold yearOf
  dsimp only
  split
  next =>
    -- a year less than the estimate makes up for all leap days
    unfold daysBeforeYear
    omega
  next h =>
    split
    next => omega
    next h => omega

/-- Months start one after the other. -/
theorem pairwise_monthStarts (year : Int) : (monthStarts year).Pairwise (· ≤ ·) := by
  unfold monthStarts
  cases isLeapYear year <;> decide

/-- Of numbers in order, those up to a bound come first. -/
theorem getElem?_le_of_lt_countP {bound : Nat} : ∀ {starts : List Nat} {k : Nat},
    starts.Pairwise (· ≤ ·) → k < starts.countP (· ≤ bound) → starts[k]?.getD 0 ≤ bound
  | [], _, _, h => by simp at h
  | start :: starts, k, hsorted, h => by
    obtain ⟨hstart, hsorted⟩ := List.pairwise_cons.mp hsorted
    by_cases hle : start ≤ bound
    · rw [List.countP_cons_of_pos (by simpa using hle)] at h
      cases k with
      | zero => simpa using hle
      | succ k => simpa using getElem?_le_of_lt_countP hsorted (Nat.lt_of_succ_lt_succ h)
    · -- if the first is beyond the bound, all are
      have hnone : starts.countP (· ≤ bound) = 0 := by
        rw [List.countP_eq_zero]
        intro other hother
        have := hstart other hother
        simp only [decide_eq_true_eq]
        omega
      rw [List.countP_cons_of_neg (by simpa using hle), hnone] at h
      exact absurd h (Nat.not_lt_zero k)

/-- The month of a day of the year has begun by then. -/
theorem monthStart_le (year : Int) (dayOfYear : Nat) :
    (monthStarts year)[(monthStarts year).countP (· ≤ dayOfYear) - 1]?.getD 0 ≤ dayOfYear := by
  refine getElem?_le_of_lt_countP (pairwise_monthStarts year) (Nat.sub_lt ?_ Nat.one_pos)
  -- January has begun on any day
  rw [List.countP_pos_iff]
  exact ⟨0, by simp [monthStarts], by simp⟩

end Gregorian

/-- A day number is that of its date. -/
theorem CalendarDate.dayNumber_ofDayNumber (n : Int) : (ofDayNumber n).dayNumber = n := by
  have hyear := Gregorian.daysBeforeYear_yearOf_le (n + Gregorian.epochOffset)
  simp only [dayNumber, Gregorian.dayNumber, ofDayNumber]
  generalize Gregorian.yearOf (n + Gregorian.epochOffset) = year at hyear
  have hmonth := Gregorian.monthStart_le year
    (n + Gregorian.epochOffset - Gregorian.daysBeforeYear year).toNat
  omega

namespace Date

variable {a b d : Date} {c : Char}

/-! ### The parts of a text -/

/-- The characters of a number that is filled up with zeros are a sign and digits. -/
theorem toList_padded (width : Nat) (n : Int) :
    ∃ filled, (padded width n).toList =
      (if n < 0 then ['-'] else []) ++
        (List.replicate filled '0' ++ Nat.toDigits 10 n.natAbs) := by
  refine ⟨width - (if n < 0 then "-" else "").length - (Nat.repr n.natAbs).length, ?_⟩
  simp only [padded, String.toList_append, String.toList_ofList, Nat.repr_eq_ofList_toDigits,
    List.append_assoc]
  split <;> rfl

/-- The characters of a number that is filled up with zeros are digits, but for a sign. -/
theorem isDigit_or_eq_sign_of_mem_padded {width : Nat} {n : Int}
    (h : c ∈ (padded width n).toList) : c.isDigit = true ∨ c = '-' := by
  obtain ⟨filled, htext⟩ := toList_padded width n
  rw [htext, List.mem_append] at h
  rcases h with h | h
  · split at h
    · exact .inr (List.mem_singleton.mp h)
    · cases h
  · exact .inl (Text.isDigit_of_mem_fill h)

/-- No sign stands before a number that is not negative. -/
theorem not_mem_padded (width n : Nat) : '-' ∉ (padded width n).toList := by
  obtain ⟨filled, htext⟩ := toList_padded width n
  rw [htext, if_neg (by omega), List.nil_append]
  exact Text.not_mem_fill filled _

/-- A number is determined by its text, however wide it is filled up. -/
theorem padded_inj {width width' : Nat} {m n : Int}
    (h : (padded width m).toList = (padded width' n).toList) : m = n := by
  obtain ⟨filled, hm⟩ := toList_padded width m
  obtain ⟨filled', hn⟩ := toList_padded width' n
  rw [hm, hn] at h
  obtain ⟨hsign, hdigits⟩ := Text.sign_append_inj (Text.not_mem_fill _ _) (Text.not_mem_fill _ _) h
  have habs := Text.fill_inj filled filled' hdigits
  omega

/-! ### The two sorts of texts -/

/-- The text of a day of the calendar is its year, month and day. -/
theorem toList_text_of_inCalendar (h : d.inCalendar = true) :
    d.text.toList = (padded 4 (CalendarDate.ofDayNumber d.days.toInt).year).toList ++
      '-' :: (padded 2 (CalendarDate.ofDayNumber d.days.toInt).month).toList ++
      '-' :: (padded 2 (CalendarDate.ofDayNumber d.days.toInt).day).toList := by
  have hhyphen : "-".toList = ['-'] := rfl
  simp only [text, toCalendar?, h, if_true, String.toList_append, hhyphen, List.append_assoc,
    List.cons_append, List.nil_append]

/-- The text of a day outside the calendar is its count between words. -/
theorem toList_text_of_not_inCalendar (h : d.inCalendar = false) :
    d.text.toList = "epoch".toList ++
      (if d.days.toInt < 0 then '-' else '+') ::
        (Nat.toDigits 10 d.days.toInt.natAbs ++ ['d']) := by
  have hcount : d.text = "epoch" ++ (if d.days.toInt < 0 then "" else "+") ++
      toString d.days.toInt ++ "d" := by
    simp only [text, toCalendar?, h, Bool.false_eq_true, if_false]
  simp only [hcount, String.toList_append, Text.toList_int]
  -- the sign of a negative count is that of its text, the other is put in front of it
  by_cases hneg : d.days.toInt < 0 <;> simp [hneg]

/-- The text of a day of the calendar has only digits and hyphens in it. -/
theorem mem_text_of_inCalendar (h : d.inCalendar = true) (hc : c ∈ d.text.toList) :
    c.isDigit = true ∨ c = '-' := by
  rw [toList_text_of_inCalendar h] at hc
  simp only [List.mem_append, List.mem_cons] at hc
  rcases hc with (hc | rfl | hc) | rfl | hc
  · exact isDigit_or_eq_sign_of_mem_padded hc
  · exact .inr rfl
  · exact isDigit_or_eq_sign_of_mem_padded hc
  · exact .inr rfl
  · exact isDigit_or_eq_sign_of_mem_padded hc

/-- The text of a day has only digits, signs and the letters of two words in it. -/
theorem mem_text (hc : c ∈ d.text.toList) : c.isDigit = true ∨ c ∈ "-+epochd".toList := by
  cases h : d.inCalendar with
  | true =>
    rcases mem_text_of_inCalendar h hc with hc | rfl
    · exact .inl hc
    · exact .inr (by decide)
  | false =>
    rw [toList_text_of_not_inCalendar h] at hc
    simp only [List.mem_append, List.mem_cons, List.not_mem_nil, or_false] at hc
    rcases hc with hc | hc | hc | rfl
    · refine .inr (List.mem_of_mem_drop (i := 2) ?_)
      exact List.mem_append_left ['d'] hc
    · split at hc <;> subst hc <;> exact .inr (by decide)
    · exact .inl (Nat.isDigit_of_mem_toDigits (by decide) (by decide) hc)
    · exact .inr (by decide)

/-- The text of a day is not empty. -/
theorem text_ne_empty (d : Date) : d.text ≠ "" := by
  intro h
  have htext : d.text.toList = [] := congrArg String.toList h
  cases hin : d.inCalendar with
  | true =>
    rw [toList_text_of_inCalendar hin] at htext
    exact List.cons_ne_nil _ _ (List.append_eq_nil_iff.mp htext).2
  | false =>
    rw [toList_text_of_not_inCalendar hin] at htext
    exact List.cons_ne_nil _ _ (List.append_eq_nil_iff.mp htext).2

/-! ### The theorem -/

/-- Days of the calendar with one text are one day. -/
theorem days_eq_of_text_eq (ha : a.inCalendar = true) (hb : b.inCalendar = true)
    (h : a.text.toList = b.text.toList) : a.days.toInt = b.days.toInt := by
  rw [toList_text_of_inCalendar ha, toList_text_of_inCalendar hb] at h
  obtain ⟨h, hday⟩ := Text.append_cons_inj_of_last (not_mem_padded 2 _) (not_mem_padded 2 _) h
  obtain ⟨hyear, hmonth⟩ :=
    Text.append_cons_inj_of_last (not_mem_padded 2 _) (not_mem_padded 2 _) h
  have hdate : CalendarDate.ofDayNumber a.days.toInt = CalendarDate.ofDayNumber b.days.toInt := by
    rw [CalendarDate.mk.injEq]
    exact ⟨padded_inj hyear, Int.ofNat_inj.mp (padded_inj hmonth),
      Int.ofNat_inj.mp (padded_inj hday)⟩
  rw [← CalendarDate.dayNumber_ofDayNumber a.days.toInt, hdate,
    CalendarDate.dayNumber_ofDayNumber]

/-- Days outside the calendar with one text are one day. -/
theorem days_eq_of_count_eq (ha : a.inCalendar = false) (hb : b.inCalendar = false)
    (h : a.text.toList = b.text.toList) : a.days.toInt = b.days.toInt := by
  rw [toList_text_of_not_inCalendar ha, toList_text_of_not_inCalendar hb] at h
  obtain ⟨hsign, hdigits⟩ := List.cons.inj (List.append_cancel_left h)
  have hsign' : a.days.toInt < 0 ↔ b.days.toInt < 0 := by
    constructor <;> intro hneg <;> by_contra hpos <;> simp [hneg, hpos] at hsign
  have habs : a.days.toInt.natAbs = b.days.toInt.natAbs :=
    Text.fill_inj 0 0 (List.append_cancel_right hdigits)
  omega

/-- The text of a day outside the calendar is no text of a day of the calendar. -/
theorem text_ne_of_inCalendar (ha : a.inCalendar = true) (hb : b.inCalendar = false) :
    a.text.toList ≠ b.text.toList := by
  intro h
  have hletter : 'e' ∈ a.text.toList := by
    rw [h, toList_text_of_not_inCalendar hb]
    exact List.mem_append_left _ (by decide)
  rcases mem_text_of_inCalendar ha hletter with h | h <;> revert h <;> decide

/-- The text of a day determines it. -/
theorem text_injective (h : a.text = b.text) : a = b := by
  have htext : a.text.toList = b.text.toList := congrArg String.toList h
  suffices hdays : a.days.toInt = b.days.toInt by
    have hcount : a.days = b.days := Int32.toInt_inj.mp hdays
    cases a
    cases b
    exact congrArg Date.mk hcount
  cases ha : a.inCalendar <;> cases hb : b.inCalendar
  · exact days_eq_of_count_eq ha hb htext
  · exact absurd htext.symm (text_ne_of_inCalendar hb ha)
  · exact absurd htext (text_ne_of_inCalendar ha hb)
  · exact days_eq_of_text_eq ha hb htext

end Date

end RowFilter
