import Mathlib.Tactic.IntervalCases
import RowFilter.Proofs.Calendar.Text

/-!
# Day numbers count the days of the calendar

The day number of a date and the date of a day number are inverse to each other, on the dates that
exist and on all day numbers (`CalendarDate.ofDayNumber_dayNumber`), and day numbers are in the
order of the dates (`CalendarDate.compare_dayNumber`). Both rest on what one year and one month add
to the count: the next month starts where this one ends (`Gregorian.monthStart_succ`), and so does
the next year (`Gregorian.daysBeforeYear_succ`).

A `Date` has a date of the calendar exactly if its count is in the calendar
(`Date.ofCalendar?_eq_some_iff`), so days and dates stand for each other in order.
-/

namespace RowFilter

namespace Gregorian

variable {year : Int} {month : Nat}

/-! ### Years -/

/-- Number of days of a year. -/
def daysInYear (year : Int) : Nat := if isLeapYear year then 366 else 365

/-- A leap year is one in four, but for the hundreds that are not four hundreds. -/
theorem isLeapYear_iff (year : Int) :
    isLeapYear year = true ↔ 4 ∣ year ∧ (100 ∣ year → 400 ∣ year) := by
  simp only [isLeapYear, Bool.and_eq_true, Bool.or_eq_true, decide_eq_true_eq, bne_iff_ne]
  omega

/-- The next year starts where a year ends. -/
theorem daysBeforeYear_succ (year : Int) :
    daysBeforeYear (year + 1) = daysBeforeYear year + daysInYear year := by
  have hleap := isLeapYear_iff year
  unfold daysBeforeYear daysInYear
  split
  next h =>
    have hfour := hleap.mp h
    push_cast
    omega
  next h =>
    rw [hleap] at h
    push_cast
    omega

/-- Years start one after the other. -/
theorem daysBeforeYear_mono {year year' : Int} (h : year ≤ year') :
    daysBeforeYear year ≤ daysBeforeYear year' := by
  unfold daysBeforeYear
  omega

/-- The year of a day has not ended by then. -/
theorem lt_daysBeforeYear_yearOf_succ (n : Int) : n < daysBeforeYear (yearOf n + 1) := by
  unfold yearOf
  dsimp only
  split
  next h => simpa using h
  next =>
    split
    next h => exact h
    next =>
      -- two years more than the estimate make up for all days that are not leap days
      unfold daysBeforeYear
      omega

/-! ### Months -/

/-- Number of days of the year before a month. -/
def monthStart (year : Int) (month : Nat) : Nat := (monthStarts year)[month - 1]?.getD 0

/-- The next month starts where a month ends. -/
theorem monthStart_succ (year : Int) (hpos : 1 ≤ month) (hlt : month < 12) :
    monthStart year (month + 1) = monthStart year month + daysInMonth year month := by
  unfold monthStart monthStarts daysInMonth
  interval_cases month <;> cases isLeapYear year <;> rfl

/-- The year ends where December does. -/
theorem monthStart_december (year : Int) :
    monthStart year 12 + daysInMonth year 12 = daysInYear year := by
  unfold monthStart monthStarts daysInMonth daysInYear
  cases isLeapYear year <;> rfl

/-- A month ends before a later one starts. -/
theorem monthStart_add_le (year : Int) {month' : Nat} (hpos : 1 ≤ month)
    (hlt : month < month') (hle : month' ≤ 12) :
    monthStart year month + daysInMonth year month ≤ monthStart year month' := by
  -- on the later month, since only the lengths of neighbours are known
  induction month', hlt using Nat.le_induction with
  | base => exact (monthStart_succ year hpos (by omega)).ge
  | succ month' hlt ih =>
    rw [monthStart_succ year (show 1 ≤ month' by omega) (by omega)]
    exact (ih (by omega)).trans (Nat.le_add_right _ _)

/-- A month ends with the year or before. -/
theorem monthStart_add_le_daysInYear (year : Int) (hpos : 1 ≤ month) (hle : month ≤ 12) :
    monthStart year month + daysInMonth year month ≤ daysInYear year := by
  rcases Nat.eq_or_lt_of_le hle with rfl | hlt
  · exact (monthStart_december year).le
  · calc monthStart year month + daysInMonth year month
        ≤ monthStart year 12 := monthStart_add_le year hpos hlt le_rfl
      _ ≤ daysInYear year := (Nat.le_add_right _ _).trans (monthStart_december year).le

/-- Of numbers in order, those beyond a bound come last. -/
theorem lt_getElem?_countP {bound : Nat} : ∀ {starts : List Nat},
    starts.Pairwise (· ≤ ·) → starts.countP (· ≤ bound) < starts.length →
      bound < starts[starts.countP (· ≤ bound)]?.getD 0
  | [], _, h => absurd h (Nat.not_lt_zero _)
  | start :: starts, hsorted, h => by
    obtain ⟨hstart, hsorted⟩ := List.pairwise_cons.mp hsorted
    by_cases hle : start ≤ bound
    · rw [List.countP_cons_of_pos (by simpa using hle)] at h ⊢
      simpa using lt_getElem?_countP hsorted (Nat.lt_of_succ_lt_succ h)
    · -- if the first is beyond the bound, none is counted
      have hnone : starts.countP (· ≤ bound) = 0 := by
        rw [List.countP_eq_zero]
        intro other hother
        have := hstart other hother
        simp only [decide_eq_true_eq]
        omega
      rw [List.countP_cons_of_neg (by simpa using hle), hnone]
      simpa using hle

/-- The month of a day of the year is one of twelve, has begun by then and has not ended. -/
theorem month_of_dayOfYear {dayOfYear : Nat} (h : dayOfYear < daysInYear year)
    (hmonth : month = (monthStarts year).countP (· ≤ dayOfYear)) :
    (1 ≤ month ∧ month ≤ 12) ∧ monthStart year month ≤ dayOfYear ∧
      dayOfYear < monthStart year month + daysInMonth year month := by
  subst hmonth
  have hpos : 1 ≤ (monthStarts year).countP (· ≤ dayOfYear) :=
    List.countP_pos_iff.mpr ⟨0, by simp [monthStarts], by simp⟩
  have hle : (monthStarts year).countP (· ≤ dayOfYear) ≤ 12 := List.countP_le_length
  refine ⟨⟨hpos, hle⟩, monthStart_le year dayOfYear, ?_⟩
  rcases Nat.eq_or_lt_of_le hle with heq | hlt
  · rw [heq, monthStart_december]
    exact h
  · rw [← monthStart_succ year hpos hlt]
    exact lt_getElem?_countP (pairwise_monthStarts year) hlt

/-- A number names a month exactly if the month has days. -/
theorem daysInMonth_pos_iff (year : Int) :
    0 < daysInMonth year month ↔ 1 ≤ month ∧ month ≤ 12 := by
  constructor
  · intro h
    by_contra hmonth
    unfold daysInMonth at h
    split at h <;> omega
  · rintro ⟨hpos, hle⟩
    unfold daysInMonth
    interval_cases month <;> cases isLeapYear year <;> decide

end Gregorian

namespace CalendarDate

open Gregorian

variable {c c' : CalendarDate} {n : Int}

/-! ### Dates -/

/-- The date exists in the proleptic Gregorian calendar. There are twelve months; February has 29
days in a leap year, which is one in four but for the hundreds that are not four hundreds, and 28
days in any other; April, June, September and November have 30 days, and the other months 31. -/
structure IsGregorian (c : CalendarDate) : Prop where
  /-- January is the first month. -/
  month_pos : 1 ≤ c.month
  /-- December is the last month. -/
  month_le : c.month ≤ 12
  /-- A month starts with its first day. -/
  day_pos : 1 ≤ c.day
  /-- A month ends with its last day. -/
  day_le : c.day ≤
    if c.month = 2 then if 4 ∣ c.year ∧ (100 ∣ c.year → 400 ∣ c.year) then 29 else 28
    else if c.month = 4 ∨ c.month = 6 ∨ c.month = 9 ∨ c.month = 11 then 30
    else 31

/-- The day after a date. -/
def next (c : CalendarDate) : CalendarDate :=
  if c.day < daysInMonth c.year c.month then { c with day := c.day + 1 }
  else if c.month < 12 then { c with month := c.month + 1, day := 1 }
  else { year := c.year + 1, month := 1, day := 1 }

/-- Order of dates by the year, then by the month, then by the day. -/
def compare : CalendarDate → CalendarDate → Ordering :=
  compareLex (compareOn year) (compareLex (compareOn month) (compareOn day))

/-- A date is valid if its day is one of its month. -/
theorem isValid_iff : c.isValid = true ↔
    (1 ≤ c.month ∧ c.month ≤ 12) ∧ 1 ≤ c.day ∧ c.day ≤ daysInMonth c.year c.month := by
  rw [isValid, Bool.and_eq_true, decide_eq_true_eq, decide_eq_true_eq,
    ← daysInMonth_pos_iff c.year]
  omega

/-- The dates that are valid are those of the calendar. -/
theorem isValid_iff_isGregorian : c.isValid = true ↔ c.IsGregorian := by
  -- month by month, the number of days is that of the rule
  have hdays : 1 ≤ c.month → c.month ≤ 12 → daysInMonth c.year c.month =
      if c.month = 2 then if 4 ∣ c.year ∧ (100 ∣ c.year → 400 ∣ c.year) then 29 else 28
      else if c.month = 4 ∨ c.month = 6 ∨ c.month = 9 ∨ c.month = 11 then 30 else 31 := by
    intro hpos hle
    simp only [← isLeapYear_iff]
    generalize c.month = month at hpos hle
    unfold daysInMonth
    interval_cases month <;> rfl
  rw [isValid_iff]
  constructor
  · rintro ⟨⟨hpos, hle⟩, hday, hlast⟩
    exact ⟨hpos, hle, hday, hdays hpos hle ▸ hlast⟩
  · rintro ⟨hpos, hle, hday, hlast⟩
    exact ⟨⟨hpos, hle⟩, hday, (hdays hpos hle).symm ▸ hlast⟩

/-! ### The order of day numbers -/

/-- A day number is what the year, the month and the day add up to. -/
theorem dayNumber_eq (c : CalendarDate) : c.dayNumber =
    daysBeforeYear c.year + monthStart c.year c.month + c.day - 1 - epochOffset := rfl

/-- A date comes before another if its year does, or in one year its month, or in one month its
day. -/
theorem compare_eq_lt_iff : c.compare c' = .lt ↔
    c.year < c'.year ∨ c.year = c'.year ∧
      (c.month < c'.month ∨ c.month = c'.month ∧ c.day < c'.day) := by
  simp only [compare, compareLex, compareOn, Ordering.then_eq_lt, Int.compare_eq_lt,
    Int.compare_eq_eq, Nat.compare_eq_lt, Nat.compare_eq_eq]

theorem compare_eq_eq_iff : c.compare c' = .eq ↔ c = c' := by
  simp only [compare, compareLex, compareOn, Ordering.then_eq_eq, Int.compare_eq_eq,
    Nat.compare_eq_eq]
  cases c
  cases c'
  simp

theorem compare_eq_gt_iff : c.compare c' = .gt ↔ c'.compare c = .lt := by
  unfold compare
  exact Std.OrientedCmp.gt_iff_lt

/-- The day number of a date is one of its year. -/
theorem dayNumber_mem_year (h : c.isValid = true) :
    daysBeforeYear c.year ≤ c.dayNumber + epochOffset ∧
      c.dayNumber + epochOffset < daysBeforeYear (c.year + 1) := by
  obtain ⟨⟨hpos, hle⟩, hday, hlast⟩ := isValid_iff.mp h
  have hyear := monthStart_add_le_daysInYear c.year hpos hle
  rw [daysBeforeYear_succ, dayNumber_eq]
  omega

/-- A date that comes before another has the smaller day number. -/
theorem dayNumber_lt (h : c.isValid = true) (h' : c'.isValid = true) (hlt : c.compare c' = .lt) :
    c.dayNumber < c'.dayNumber := by
  rcases compare_eq_lt_iff.mp hlt with hyear | ⟨hyear, hmonth | ⟨hmonth, hday⟩⟩
  · -- the earlier year ends before the later one starts
    have hend := (dayNumber_mem_year h).2
    have hstart := (dayNumber_mem_year h').1
    have hyears := daysBeforeYear_mono (show c.year + 1 ≤ c'.year from hyear)
    omega
  · -- so does the earlier month, of which the day must be a day
    obtain ⟨⟨hpos, -⟩, -, hlast⟩ := isValid_iff.mp h
    obtain ⟨⟨-, hle⟩, hday, -⟩ := isValid_iff.mp h'
    have hmonths := monthStart_add_le c.year hpos hmonth hle
    rw [dayNumber_eq, dayNumber_eq, ← hyear]
    omega
  · rw [dayNumber_eq, dayNumber_eq, ← hyear, ← hmonth]
    omega

/-- Day numbers are in the order of the dates. -/
theorem compare_dayNumber (h : c.isValid = true) (h' : c'.isValid = true) :
    Ord.compare c.dayNumber c'.dayNumber = c.compare c' := by
  cases horder : c.compare c' with
  | lt => exact Int.compare_eq_lt.mpr (dayNumber_lt h h' horder)
  | eq => exact Int.compare_eq_eq.mpr (congrArg dayNumber (compare_eq_eq_iff.mp horder))
  | gt => exact Int.compare_eq_gt.mpr (dayNumber_lt h' h (compare_eq_gt_iff.mp horder))

/-- A date is determined by its day number. -/
theorem dayNumber_inj (h : c.isValid = true) (h' : c'.isValid = true)
    (heq : c.dayNumber = c'.dayNumber) : c = c' := by
  rw [← compare_eq_eq_iff, ← compare_dayNumber h h', heq]
  exact Int.compare_eq_eq.mpr rfl

/-! ### Dates and day numbers -/

/-- The day of a day number lies in its year. -/
theorem year_ofDayNumber_bounds (n : Int) :
    daysBeforeYear (ofDayNumber n).year ≤ n + epochOffset ∧
      n + epochOffset < daysBeforeYear ((ofDayNumber n).year + 1) :=
  ⟨daysBeforeYear_yearOf_le _, lt_daysBeforeYear_yearOf_succ _⟩

/-- Every day number is that of a valid date. -/
theorem isValid_ofDayNumber (n : Int) : (ofDayNumber n).isValid = true := by
  obtain ⟨hstart, hend⟩ := year_ofDayNumber_bounds n
  rw [daysBeforeYear_succ] at hend
  obtain ⟨dayOfYear, hday⟩ :
      ∃ d : Nat, n + epochOffset - daysBeforeYear (ofDayNumber n).year = d :=
    Int.eq_ofNat_of_zero_le (by omega)
  have hparts : (ofDayNumber n).month =
        (monthStarts (ofDayNumber n).year).countP (· ≤ dayOfYear) ∧
      (ofDayNumber n).day =
        dayOfYear - monthStart (ofDayNumber n).year (ofDayNumber n).month + 1 := by
    rw [← Int.toNat_natCast dayOfYear, ← hday]
    exact ⟨rfl, rfl⟩
  obtain ⟨hmonth, hbegun, hleft⟩ := month_of_dayOfYear (by omega) hparts.1
  refine isValid_iff.mpr ⟨hmonth, ?_, ?_⟩ <;> rw [hparts.2] <;> omega

/-- A valid date is that of its day number. -/
theorem ofDayNumber_dayNumber (h : c.isValid = true) : ofDayNumber c.dayNumber = c :=
  dayNumber_inj (isValid_ofDayNumber _) h (dayNumber_ofDayNumber _)

/-- The day after a valid date is valid, and its day number is the next. -/
theorem dayNumber_next (h : c.isValid = true) :
    c.next.isValid = true ∧ c.next.dayNumber = c.dayNumber + 1 := by
  obtain ⟨⟨hpos, hle⟩, hday, hlast⟩ := isValid_iff.mp h
  unfold next
  split
  next hlt =>
    refine ⟨isValid_iff.mpr ⟨⟨hpos, hle⟩, Nat.le_add_left 1 _, hlt⟩, ?_⟩
    simp only [dayNumber_eq]
    omega
  next hlt =>
    -- the last day of its month, which is followed by the first day of the next month or year
    have hlast : c.day = daysInMonth c.year c.month := by omega
    split
    next hmonth =>
      have hmonth' : 1 ≤ c.month + 1 ∧ c.month + 1 ≤ 12 := by omega
      refine ⟨isValid_iff.mpr ⟨hmonth', le_rfl, (daysInMonth_pos_iff _).mpr hmonth'⟩, ?_⟩
      simp only [dayNumber_eq, monthStart_succ c.year hpos hmonth]
      omega
    next hmonth =>
      have hdecember : c.month = 12 := by omega
      have hjanuary : 1 ≤ 1 ∧ 1 ≤ 12 := by decide
      have hstart : monthStart (c.year + 1) 1 = 0 := rfl
      have hend := monthStart_december c.year
      refine ⟨isValid_iff.mpr ⟨hjanuary, le_rfl, (daysInMonth_pos_iff _).mpr hjanuary⟩, ?_⟩
      rw [hdecember] at hlast
      simp only [dayNumber_eq, daysBeforeYear_succ, hstart, hdecember]
      omega

end CalendarDate

namespace Date

open CalendarDate Gregorian

variable {c c' : CalendarDate} {d d' : Date}

/-! ### Days of the calendar -/

/-- A day number is in the calendar exactly if its year is. -/
theorem year_ofDayNumber_mem_iff (n : Int) :
    -9999 ≤ (ofDayNumber n).year ∧ (ofDayNumber n).year ≤ 9999 ↔ firstDay ≤ n ∧ n ≤ lastDay := by
  have hfirst : firstDay + epochOffset = daysBeforeYear (-9999) := by decide
  have hlast : lastDay + epochOffset + 1 = daysBeforeYear 10000 := by decide
  obtain ⟨hstart, hend⟩ := year_ofDayNumber_bounds n
  generalize (ofDayNumber n).year = year at hstart hend
  constructor
  · rintro ⟨hlow, hhigh⟩
    have hlow := daysBeforeYear_mono hlow
    have hhigh := daysBeforeYear_mono (show year + 1 ≤ 10000 by omega)
    omega
  · rintro ⟨hlow, hhigh⟩
    by_contra hyear
    rcases (show year + 1 ≤ -9999 ∨ 10000 ≤ year by omega) with hyear | hyear
    · have := daysBeforeYear_mono hyear
      omega
    · have := daysBeforeYear_mono hyear
      omega

theorem inCalendar_iff :
    d.inCalendar = true ↔ firstDay ≤ d.days.toInt ∧ d.days.toInt ≤ lastDay := by
  rw [inCalendar, Bool.and_eq_true, decide_eq_true_eq, decide_eq_true_eq]

/-- A day in the calendar has the date of its count, and no other day has. -/
theorem ofCalendar?_eq_some_iff :
    ofCalendar? c = some d ↔ d.inCalendar = true ∧ c = ofDayNumber d.days.toInt := by
  rw [inCalendar_iff, ← year_ofDayNumber_mem_iff]
  constructor
  · intro h
    rw [ofCalendar?] at h
    split at h
    next hvalid =>
      obtain ⟨hlow, hhigh, hvalid⟩ := hvalid
      have hdate := ofDayNumber_dayNumber hvalid
      -- the count fits 32 bits, as it is in the calendar
      have hrange := (year_ofDayNumber_mem_iff c.dayNumber).mp (by rw [hdate]; exact ⟨hlow, hhigh⟩)
      have hcount : (Int32.ofInt c.dayNumber).toInt = c.dayNumber := by
        unfold firstDay lastDay at hrange
        exact Int32.toInt_ofInt_of_le (by omega) (by omega)
      cases h
      rw [hcount, hdate]
      exact ⟨⟨hlow, hhigh⟩, rfl⟩
    next => cases h
  · rintro ⟨hyear, rfl⟩
    rw [ofCalendar?, if_pos ⟨hyear.1, hyear.2, isValid_ofDayNumber _⟩, dayNumber_ofDayNumber,
      Int32.ofInt_toInt]

/-- The dates of the calendar are those that exist, in its range of years. -/
theorem exists_ofCalendar?_iff :
    (∃ d, ofCalendar? c = some d) ↔ -9999 ≤ c.year ∧ c.year ≤ 9999 ∧ c.IsGregorian := by
  rw [← isValid_iff_isGregorian, ofCalendar?]
  split
  next h => exact iff_of_true ⟨_, rfl⟩ h
  next h => exact iff_of_false nofun h

/-- Year, month and day of a day in the calendar are those of its date. -/
theorem toCalendar_of_inCalendar (h : d.inCalendar = true) :
    d.toCalendar = ofDayNumber d.days.toInt := by
  obtain ⟨hlow, hhigh⟩ := inCalendar_iff.mp h
  rw [toCalendar, min_eq_right hhigh, max_eq_right hlow]

/-- Year, month and day of a day outside the calendar are those of the nearer end. -/
theorem toCalendar_of_not_inCalendar (h : d.inCalendar = false) :
    d.toCalendar = if 0 ≤ d.days.toInt then ⟨9999, 12, 31⟩ else ⟨-9999, 1, 1⟩ := by
  rw [← Bool.not_eq_true, inCalendar_iff] at h
  have hbounds : firstDay < 0 ∧ 0 < lastDay := by decide
  rw [toCalendar]
  split
  next hpos =>
    rw [min_eq_left (by omega), max_eq_right (by omega)]
    decide
  next hneg =>
    rw [min_eq_right (by omega), max_eq_left (by omega)]
    decide

/-- The count of a day is the day number of its date. -/
theorem days_of_ofCalendar? (h : ofCalendar? c = some d) :
    c.isValid = true ∧ d.days.toInt = c.dayNumber := by
  obtain ⟨-, rfl⟩ := ofCalendar?_eq_some_iff.mp h
  exact ⟨isValid_ofDayNumber _, (dayNumber_ofDayNumber _).symm⟩

/-- Days and dates of the calendar stand for each other in order. A date of a year from −9999 to
9999 is a day exactly if it exists, and year, month and day of the day are its own. Days are in the
order of their dates, and of two days one is counted next to the other exactly if its date is the
day after that of the other. A day is in the calendar if it is the day of a date, which is then that
of its year, month and day; those of a day outside are the last of the calendar, or the first if the
day comes before 1970. -/
theorem ofCalendar?_order_iso :
    (∀ c : CalendarDate, (∃ d, ofCalendar? c = some d) ↔
      -9999 ≤ c.year ∧ c.year ≤ 9999 ∧ c.IsGregorian) ∧
    (∀ (c : CalendarDate) (d : Date), ofCalendar? c = some d →
      d.year = c.year ∧ d.month = c.month ∧ d.day = c.day) ∧
    (∀ (c c' : CalendarDate) (d d' : Date), ofCalendar? c = some d → ofCalendar? c' = some d' →
      d.compare d' = c.compare c' ∧ (d'.days.toInt = d.days.toInt + 1 ↔ c' = c.next)) ∧
    (∀ d : Date, d.inCalendar = true ↔ ∃ c, ofCalendar? c = some d) ∧
    (∀ d : Date, d.inCalendar = true → ofCalendar? ⟨d.year, d.month, d.day⟩ = some d) ∧
    ∀ d : Date, d.inCalendar = false → (⟨d.year, d.month, d.day⟩ : CalendarDate) =
      if 0 ≤ d.days.toInt then ⟨9999, 12, 31⟩ else ⟨-9999, 1, 1⟩ := by
  refine ⟨fun c => exists_ofCalendar?_iff, ?_, ?_, ?_, ?_, fun d => toCalendar_of_not_inCalendar⟩
  · intro c d h
    obtain ⟨hin, rfl⟩ := ofCalendar?_eq_some_iff.mp h
    rw [year, month, day, toCalendar_of_inCalendar hin]
    exact ⟨rfl, rfl, rfl⟩
  · intro c c' d d' h h'
    obtain ⟨hvalid, hdays⟩ := days_of_ofCalendar? h
    obtain ⟨hvalid', hdays'⟩ := days_of_ofCalendar? h'
    obtain ⟨hnext, hnumber⟩ := dayNumber_next hvalid
    refine ⟨?_, ?_⟩
    · rw [Date.compare, hdays, hdays', compare_dayNumber hvalid hvalid']
    · rw [hdays, hdays', ← hnumber]
      exact ⟨dayNumber_inj hvalid' hnext, congrArg CalendarDate.dayNumber⟩
  · intro d
    constructor
    · intro hin
      exact ⟨_, ofCalendar?_eq_some_iff.mpr ⟨hin, rfl⟩⟩
    · rintro ⟨c, h⟩
      exact (ofCalendar?_eq_some_iff.mp h).1
  · intro d hin
    exact ofCalendar?_eq_some_iff.mpr ⟨hin, toCalendar_of_inCalendar hin⟩

/-- The year 1900 has no 29th of February, so its 28th is followed by the first of March. The first
day behind the calendar has the date of the last day in it. -/
theorem ofCalendar?_order_iso_1900 :
    let c : CalendarDate := ⟨1900, 2, 28⟩
    let c' : CalendarDate := ⟨1900, 3, 1⟩
    let d : Date := ⟨-25509⟩
    let d' : Date := ⟨-25508⟩
    let behind : Date := ⟨2932897⟩
    (ofCalendar? c = some d ∧ ofCalendar? c' = some d' ∧ ofCalendar? ⟨1900, 2, 29⟩ = none) ∧
      (d.year = 1900 ∧ d.month = 2 ∧ d.day = 28) ∧ c.compare c' = .lt ∧ d.compare d' = .lt ∧
      c' = c.next ∧
      (d.inCalendar = true ∧ ofCalendar? ⟨d.year, d.month, d.day⟩ = some d) ∧
      behind.inCalendar = false ∧
      (⟨behind.year, behind.month, behind.day⟩ : CalendarDate) = ⟨9999, 12, 31⟩ := by
  intro c c' d d' behind
  obtain ⟨-, hparts, horder, -, hday, houtside⟩ := ofCalendar?_order_iso
  have hc : ofCalendar? c = some d := by decide
  have hc' : ofCalendar? c' = some d' := by decide
  have hin : d.inCalendar = true := by decide
  have hout : behind.inCalendar = false := by decide
  obtain ⟨hcompare, hnext⟩ := horder c c' d d' hc hc'
  have hlt : c.compare c' = .lt := by decide
  exact ⟨⟨hc, hc', by decide⟩, hparts c d hc, hlt, hcompare.trans hlt, hnext.mp (by decide),
    ⟨hin, hday d hin⟩, hout, houtside behind hout⟩

end Date

end RowFilter
