import Fabricate.Calendar.Date

/-!
# The numbers of days

Days are counted through from 1 January of the year 1. The count grows with year, month and day in
this order (`le_iff_civil`), so no two days have one number, and the day of a number is found again
(`ofNumber?_eq_some_iff`). Exactly the numbers from the first day of the first year to the last day
of the last year belong to days (`exists_number_eq_iff`).

A year is pinned down by the numbers of its first day and of the first day of the year after it, and
a month by the days before it and before the next one. What is computed from a number is compared
with these bounds only, never with the cycles it was computed from.
-/

namespace Fabricate.Calendar

/-- The number of days of a year. -/
def yearLength (leap : Bool) : Nat :=
  if leap then 366 else 365

/-! ### Months -/

theorem monthLength_le_leap (leap : Bool) (month : Nat) :
    monthLength leap month ≤ monthLength true month := by
  unfold monthLength
  cases leap <;> split <;> simp

theorem monthLength_leap_le (leap : Bool) (month : Nat) :
    monthLength true month ≤ monthLength leap month + 1 := by
  unfold monthLength
  cases leap <;> split <;> simp

theorem monthLength_pos (leap : Bool) (month : Nat) : 1 ≤ monthLength leap month := by
  unfold monthLength
  cases leap <;> split <;> split <;> simp

theorem daysBeforeMonth_succ (leap : Bool) {month : Nat} (h : 1 ≤ month) :
    daysBeforeMonth leap (month + 1) = daysBeforeMonth leap month + monthLength leap month := by
  cases month with
  | zero => cases h
  | succ month => rfl

theorem daysBeforeMonth_mono (leap : Bool) {m m' : Nat} (h : m ≤ m') :
    daysBeforeMonth leap m ≤ daysBeforeMonth leap m' := by
  induction h with
  | refl => exact Nat.le_refl _
  | @step k _ ih =>
      cases k with
      | zero => exact ih
      | succ k => exact Nat.le_trans ih (Nat.le_add_right _ _)

theorem daysBeforeMonth_thirteen (leap : Bool) : daysBeforeMonth leap 13 = yearLength leap := by
  cases leap <;> rfl

/-- The days of a month come before those of the later months. -/
theorem daysBeforeMonth_add_monthLength_le (leap : Bool) {m m' : Nat} (first : 1 ≤ m)
    (h : m < m') : daysBeforeMonth leap m + monthLength leap m ≤ daysBeforeMonth leap m' := by
  rw [← daysBeforeMonth_succ leap first]
  exact daysBeforeMonth_mono leap h

/-- Within a year, days are ordered by month and day. The first one may also be 29 February of a
year without it, which then counts as the day after 28 February. -/
theorem dayOfYear_le_iff {leap : Bool} {m m' d d' : Nat} (hm : 1 ≤ m) (hm' : 1 ≤ m')
    (hd : 1 ≤ d ∧ d ≤ monthLength true m) (hd' : 1 ≤ d' ∧ d' ≤ monthLength leap m') :
    daysBeforeMonth leap m + (d - 1) ≤ daysBeforeMonth leap m' + (d' - 1) ↔
      m < m' ∨ m = m' ∧ d ≤ d' := by
  have shorter := monthLength_leap_le leap m
  rcases Nat.lt_trichotomy m m' with before | rfl | after
  · have := daysBeforeMonth_add_monthLength_le leap hm before
    omega
  · omega
  · have := daysBeforeMonth_add_monthLength_le leap hm' after
    omega

/-! ### Years -/

theorem daysBeforeYear_succ (year : Int) :
    daysBeforeYear (year + 1) = daysBeforeYear year + yearLength (isLeap year) := by
  unfold daysBeforeYear yearLength isLeap
  by_cases h4 : year % 4 = 0 <;> by_cases h100 : year % 100 = 0 <;>
    by_cases h400 : year % 400 = 0 <;> simp [h4, h100, h400] <;> omega

theorem daysBeforeYear_mono {y y' : Int} (h : y ≤ y') : daysBeforeYear y ≤ daysBeforeYear y' := by
  unfold daysBeforeYear
  dsimp only
  omega

/-- The days before a year that is given by its cycle of 400 years, its century, its span of four
years, and its place in the span. -/
theorem daysBeforeYear_of_parts (cycle : Int) {century span place : Int}
    (hc : 0 ≤ century ∧ century ≤ 3) (hs : 0 ≤ span ∧ span ≤ 24) (hp : 0 ≤ place ∧ place ≤ 3) :
    daysBeforeYear (400 * cycle + 100 * century + 4 * span + place + 1) =
      146097 * cycle + 36524 * century + 1461 * span + 365 * place := by
  unfold daysBeforeYear
  dsimp only
  omega

theorem isLeap_of_parts (cycle : Int) {century span : Int} (hs : 0 ≤ span ∧ span ≤ 24)
    (h : span < 24 ∨ century = 3) :
    isLeap (400 * cycle + 100 * century + 4 * span + 3 + 1) = true := by
  simp only [isLeap, Bool.and_eq_true, Bool.or_eq_true, decide_eq_true_eq, ne_eq]
  omega

/-- The year of a number is the one whose days have it. -/
theorem daysBeforeYear_yearOfNumber (n : Int) :
    daysBeforeYear (Date.yearOfNumber n) ≤ n ∧
      n < daysBeforeYear (Date.yearOfNumber n + 1) := by
  rw [daysBeforeYear_succ]
  unfold Date.yearOfNumber
  dsimp only
  generalize hcycle : n / 146097 = cycle
  generalize hinCycle : n % 146097 = inCycle
  generalize hcentury : min (inCycle / 36524) 3 = century
  generalize hinCentury : inCycle - 36524 * century = inCentury
  generalize hspan : inCentury / 1461 = span
  generalize hinSpan : inCentury - 1461 * span = inSpan
  generalize hplace : min (inSpan / 365) 3 = place
  have century_mem : 0 ≤ century ∧ century ≤ 3 := by omega
  have span_mem : 0 ≤ span ∧ span ≤ 24 := by omega
  have place_mem : 0 ≤ place ∧ place ≤ 3 := by omega
  rw [daysBeforeYear_of_parts cycle century_mem span_mem place_mem]
  refine ⟨by omega, ?_⟩
  -- Only the last year of a span has a day left after 365, and then it is a long one.
  by_cases last : inSpan - 365 * place < 365
  · have : 365 ≤ yearLength (isLeap (400 * cycle + 100 * century + 4 * span + place + 1)) := by
      unfold yearLength
      split <;> omega
    omega
  · have third : place = 3 := by omega
    rw [third, isLeap_of_parts cycle span_mem (by omega), yearLength, if_pos rfl]
    omega

theorem yearOfNumber_eq {n y : Int} (h : daysBeforeYear y ≤ n)
    (h' : n < daysBeforeYear (y + 1)) : Date.yearOfNumber n = y := by
  obtain ⟨lower, upper⟩ := daysBeforeYear_yearOfNumber n
  rcases Int.lt_trichotomy (Date.yearOfNumber n) y with before | same | after
  · have := @daysBeforeYear_mono (Date.yearOfNumber n + 1) y (by omega)
    omega
  · exact same
  · have := @daysBeforeYear_mono (y + 1) (Date.yearOfNumber n) (by omega)
    omega

/-! ### Finding the month -/

/-- Every day of a year lies in a month. -/
theorem exists_month {leap : Bool} {day n : Nat} (h : day < daysBeforeMonth leap (n + 1)) :
    ∃ m, 1 ≤ m ∧ m ≤ n ∧ daysBeforeMonth leap m ≤ day ∧ day < daysBeforeMonth leap (m + 1) := by
  induction n with
  | zero => exact absurd h (Nat.not_lt_zero _)
  | succ n ih =>
      by_cases earlier : day < daysBeforeMonth leap (n + 1)
      · obtain ⟨m, first, last, bounds⟩ := ih earlier
        exact ⟨m, first, Nat.le_succ_of_le last, bounds⟩
      · exact ⟨n + 1, Nat.succ_pos n, Nat.le_refl _, Nat.le_of_not_lt earlier, h⟩

theorem monthOfDay_eq {leap : Bool} {m day : Nat} (hm : 1 ≤ m ∧ m ≤ 12)
    (h : daysBeforeMonth leap m ≤ day) (h' : day < daysBeforeMonth leap (m + 1)) :
    Date.monthOfDay leap day = m := by
  -- The months that start no later than the day are those up to its own.
  have started : ∀ k, daysBeforeMonth leap (k + 1) ≤ day ↔ k < m := by
    intro k
    constructor
    · intro before
      apply Nat.lt_of_not_ge
      intro later
      have := @daysBeforeMonth_mono leap (m + 1) (k + 1) (by omega)
      omega
    · intro before
      exact Nat.le_trans (daysBeforeMonth_mono leap before) h
  simp only [Date.monthOfDay, started]
  rw [← List.countP_eq_length_filter]
  obtain ⟨first, last⟩ := hm
  have counted : ∀ m ≤ 12, (List.range 12).countP (fun k => decide (k < m)) = m := by decide
  exact counted m last

namespace Date

theorem le_refl (d : Date) : d ≤ d := Int.le_refl _

theorem le_iff_number {d e : Date} : d ≤ e ↔ d.number ≤ e.number := Iff.rfl

theorem not_lt {d e : Date} : ¬ d < e ↔ e ≤ d := Int.not_lt

/-- The number that a year, a month and a day of it come to. In a year without 29 February, this
day comes to 1 March. -/
def civilNumber (year : Int) (month day : Nat) : Int :=
  daysBeforeYear year + daysBeforeMonth (isLeap year) month + (day - 1 : Nat)

theorem number_eq_civilNumber (d : Date) : d.number = civilNumber d.year d.month d.day := rfl

theorem day_le_leap (d : Date) : 1 ≤ d.day ∧ d.day ≤ monthLength true d.month :=
  ⟨d.day_mem.1, Nat.le_trans d.day_mem.2 (monthLength_le_leap _ _)⟩

theorem daysBeforeYear_le_civilNumber (year : Int) (month day : Nat) :
    daysBeforeYear year ≤ civilNumber year month day := by
  unfold civilNumber
  omega

theorem civilNumber_lt_daysBeforeYear {year : Int} {month day : Nat}
    (hm : 1 ≤ month ∧ month ≤ 12) (hd : 1 ≤ day ∧ day ≤ monthLength true month) :
    civilNumber year month day < daysBeforeYear (year + 1) := by
  have inside := daysBeforeMonth_add_monthLength_le (isLeap year) hm.1 (Nat.lt_succ_of_le hm.2)
  rw [daysBeforeMonth_thirteen] at inside
  rw [daysBeforeYear_succ]
  unfold civilNumber
  -- A day more than its month has is a day of the next one, and December has no such day.
  rcases Nat.lt_or_eq_of_le hm.2 with earlier | rfl
  · have := monthLength_leap_le (isLeap year) month
    have := daysBeforeMonth_succ (isLeap year) hm.1
    have next := daysBeforeMonth_add_monthLength_le (isLeap year) (Nat.le_add_left 1 month)
      (Nat.succ_lt_succ earlier)
    rw [daysBeforeMonth_thirteen] at next
    have := monthLength_pos (isLeap year) (month + 1)
    omega
  · have : monthLength true 12 = monthLength (isLeap year) 12 := rfl
    omega

/-- Years, months and days, in this order, order the days. -/
theorem civilNumber_le_iff {year : Int} {month day : Nat} (hm : 1 ≤ month ∧ month ≤ 12)
    (hd : 1 ≤ day ∧ day ≤ monthLength true month) (e : Date) :
    civilNumber year month day ≤ e.number ↔ year < e.year ∨
      year = e.year ∧ (month < e.month ∨ month = e.month ∧ day ≤ e.day) := by
  rw [number_eq_civilNumber]
  have := daysBeforeYear_le_civilNumber year month day
  have := daysBeforeYear_le_civilNumber e.year e.month e.day
  rcases Int.lt_trichotomy year e.year with before | rfl | after
  · have := @civilNumber_lt_daysBeforeYear year month day hm hd
    have := @daysBeforeYear_mono (year + 1) e.year (by omega)
    omega
  · have within := @dayOfYear_le_iff (isLeap e.year) _ _ _ _ hm.1 e.month_mem.1 hd
      e.day_mem
    unfold civilNumber
    omega
  · have := @civilNumber_lt_daysBeforeYear e.year e.month e.day e.month_mem e.day_le_leap
    have := @daysBeforeYear_mono (e.year + 1) year (by omega)
    omega

theorem le_iff_civil (d e : Date) :
    d ≤ e ↔ d.year < e.year ∨
      d.year = e.year ∧ (d.month < e.month ∨ d.month = e.month ∧ d.day ≤ e.day) :=
  civilNumber_le_iff d.month_mem d.day_le_leap e

theorem daysBeforeYear_le_number (d : Date) : daysBeforeYear d.year ≤ d.number :=
  daysBeforeYear_le_civilNumber d.year d.month d.day

theorem number_lt_daysBeforeYear (d : Date) : d.number < daysBeforeYear (d.year + 1) :=
  civilNumber_lt_daysBeforeYear d.month_mem d.day_le_leap

/-- The day of a number is the day that was counted. -/
theorem ofNumber?_number (d : Date) : ofNumber? d.number = some d := by
  have year := yearOfNumber_eq d.daysBeforeYear_le_number d.number_lt_daysBeforeYear
  have days := d.day_mem
  have place : (d.number - daysBeforeYear d.year).toNat =
      daysBeforeMonth (isLeap d.year) d.month + (d.day - 1) := by
    unfold number
    omega
  have month : monthOfDay (isLeap d.year)
      (daysBeforeMonth (isLeap d.year) d.month + (d.day - 1)) = d.month := by
    apply monthOfDay_eq d.month_mem (Nat.le_add_right _ _)
    rw [daysBeforeMonth_succ _ d.month_mem.1]
    omega
  have day : daysBeforeMonth (isLeap d.year) d.month + (d.day - 1) -
      daysBeforeMonth (isLeap d.year) d.month + 1 = d.day := by omega
  unfold ofNumber?
  dsimp only
  rw [year, place, month, day, ofCivil?, dif_pos ⟨d.year_mem, d.month_mem, d.day_mem⟩]

theorem le_antisymm {d e : Date} (h : d ≤ e) (h' : e ≤ d) : d = e := by
  have same : d.number = e.number := Int.le_antisymm h h'
  rw [← Option.some.injEq, ← ofNumber?_number d, same, ofNumber?_number]

theorem ofCivil?_eq_some_iff {year : Int} {month day : Nat} {d : Date} :
    ofCivil? year month day = some d ↔ d.year = year ∧ d.month = month ∧ d.day = day := by
  unfold ofCivil?
  split
  · next valid =>
    constructor
    · intro h
      cases h
      exact ⟨rfl, rfl, rfl⟩
    · rintro ⟨rfl, rfl, rfl⟩
      rfl
  · next invalid =>
    constructor
    · intro h
      cases h
    · rintro ⟨rfl, rfl, rfl⟩
      exact absurd ⟨d.year_mem, d.month_mem, d.day_mem⟩ invalid

/-- Exactly the numbers of the calendar's years belong to days. -/
theorem exists_number_eq_iff (n : Int) :
    (∃ d : Date, d.number = n) ↔ daysBeforeYear minYear ≤ n ∧ n < daysBeforeYear (maxYear + 1) := by
  constructor
  · rintro ⟨d, rfl⟩
    have years := d.year_mem
    have := d.daysBeforeYear_le_number
    have := d.number_lt_daysBeforeYear
    have := @daysBeforeYear_mono minYear d.year years.1
    have := @daysBeforeYear_mono (d.year + 1) (maxYear + 1) (by omega)
    omega
  · rintro ⟨first, last⟩
    obtain ⟨lower, upper⟩ := daysBeforeYear_yearOfNumber n
    generalize yearOfNumber n = year at lower upper
    have year_mem : minYear ≤ year ∧ year ≤ maxYear := by
      constructor
      · apply Int.not_lt.1
        intro early
        have := @daysBeforeYear_mono (year + 1) minYear (by omega)
        omega
      · apply Int.not_lt.1
        intro late
        have := @daysBeforeYear_mono (maxYear + 1) year (by omega)
        omega
    have inYear : (n - daysBeforeYear year).toNat < daysBeforeMonth (isLeap year) (12 + 1) := by
      rw [daysBeforeMonth_thirteen]
      rw [daysBeforeYear_succ] at upper
      omega
    obtain ⟨m, hm, hm', started, ends⟩ := exists_month inYear
    rw [daysBeforeMonth_succ _ hm] at ends
    refine ⟨⟨year, m, (n - daysBeforeYear year).toNat - daysBeforeMonth (isLeap year) m + 1,
      year_mem, ⟨hm, hm'⟩, by omega⟩, ?_⟩
    unfold number
    dsimp only
    omega

/-- The numbers of days are far from the ends of a word, also as seconds. -/
theorem number_mem (d : Date) : -100000000 ≤ d.number ∧ d.number ≤ 100000000 := by
  have bounds := (exists_number_eq_iff d.number).1 ⟨d, rfl⟩
  have first : -100000000 ≤ daysBeforeYear minYear := by decide
  have last : daysBeforeYear (maxYear + 1) ≤ 100000000 := by decide
  omega

/-- A day is found under its number and under no other one. -/
theorem ofNumber?_eq_some_iff {n : Int} {d : Date} : ofNumber? n = some d ↔ d.number = n := by
  constructor
  · intro h
    -- The year that was found is one of the calendar, so the number belongs to a day.
    have year : d.year = yearOfNumber n := (ofCivil?_eq_some_iff.1 h).1
    obtain ⟨lower, upper⟩ := daysBeforeYear_yearOfNumber n
    rw [← year] at lower upper
    have := @daysBeforeYear_mono minYear d.year d.year_mem.1
    have := @daysBeforeYear_mono (d.year + 1) (maxYear + 1) (by have := d.year_mem; omega)
    obtain ⟨e, rfl⟩ := (exists_number_eq_iff n).2 ⟨by omega, by omega⟩
    rw [e.ofNumber?_number] at h
    rw [Option.some.inj h]
  · rintro rfl
    exact d.ofNumber?_number

/-- All numbers between those of two days belong to days. -/
theorem exists_of_between {d e : Date} {n : Int} (h : d.number ≤ n) (h' : n ≤ e.number) :
    ∃ f : Date, f.number = n := by
  have first := (exists_number_eq_iff d.number).1 ⟨d, rfl⟩
  have last := (exists_number_eq_iff e.number).1 ⟨e, rfl⟩
  exact (exists_number_eq_iff n).2 ⟨by omega, by omega⟩

end Date

end Fabricate.Calendar
