import Fabricate.Proofs.Calendar.Number

/-!
# Shifted days

A shift by days adds to the number of the day. A shift by months adds to the number of its month and
cuts the day at the end of the month that is met, so it keeps the order of shifts although it is not
one to one: different numbers of months end in different months, and the day matters only within
one. Both shifts fail exactly outside of the calendar, so what lies between two shifts that succeed
succeeds too.
-/

namespace Fabricate.Calendar.Date

/-! ### Days -/

theorem addDays?_eq_some_iff {d e : Date} {days : Int} :
    d.addDays? days = some e ↔ e.number = d.number + days :=
  ofNumber?_eq_some_iff

theorem addDays?_mono {d e f : Date} {a b : Int} (he : d.addDays? a = some e)
    (hf : d.addDays? b = some f) (h : a ≤ b) : e ≤ f := by
  rw [addDays?_eq_some_iff] at he hf
  rw [le_iff_number]
  omega

theorem exists_addDays? {d e f : Date} {a b c : Int} (he : d.addDays? a = some e)
    (hf : d.addDays? b = some f) (h : a ≤ c) (h' : c ≤ b) : ∃ g, d.addDays? c = some g := by
  rw [addDays?_eq_some_iff] at he hf
  obtain ⟨g, number⟩ := @exists_of_between e f (d.number + c) (by omega) (by omega)
  exact ⟨g, addDays?_eq_some_iff.2 number⟩

/-! ### Months -/

/-- The number of months before the month of the day. -/
def monthNumber (d : Date) : Int :=
  12 * d.year + (d.month - 1 : Nat)

theorem monthNumber_eq_iff {d : Date} {n : Int} :
    d.monthNumber = n ↔ d.year = n / 12 ∧ d.month = (n % 12).toNat + 1 := by
  have months := d.month_mem
  unfold monthNumber
  omega

/-- A shift by months ends in the month that is so many months later, on the same day or on the last
one of the month. -/
theorem addMonths?_eq_some_iff {d e : Date} {months : Int} :
    d.addMonths? months = some e ↔ e.monthNumber = d.monthNumber + months ∧
      e.day = min d.day (monthLength (isLeap e.year) e.month) := by
  unfold addMonths?
  dsimp only
  rw [ofCivil?_eq_some_iff, ← monthNumber, monthNumber_eq_iff]
  constructor
  · rintro ⟨year, month, day⟩
    rw [year, month]
    exact ⟨⟨rfl, rfl⟩, day⟩
  · rintro ⟨⟨year, month⟩, day⟩
    rw [year, month] at day
    exact ⟨year, month, day⟩

/-- Days are ordered by month and day. -/
theorem le_iff_monthNumber {d e : Date} :
    d ≤ e ↔ d.monthNumber < e.monthNumber ∨ d.monthNumber = e.monthNumber ∧ d.day ≤ e.day := by
  have months := d.month_mem
  have months' := e.month_mem
  rw [le_iff_civil]
  unfold monthNumber
  omega

/-- The months of the calendar's years have every day that a shift may end on. -/
theorem exists_addMonths?_iff {d : Date} {months : Int} :
    (∃ e, d.addMonths? months = some e) ↔
      12 * minYear ≤ d.monthNumber + months ∧ d.monthNumber + months < 12 * (maxYear + 1) := by
  constructor
  · rintro ⟨e, shifted⟩
    rw [← (addMonths?_eq_some_iff.1 shifted).1]
    have years := e.year_mem
    have months := e.month_mem
    unfold monthNumber
    omega
  · rintro ⟨first, last⟩
    generalize number : d.monthNumber + months = n at first last
    have days := d.day_mem
    have least := monthLength_pos (isLeap (n / 12)) ((n % 12).toNat + 1)
    refine ⟨⟨n / 12, (n % 12).toNat + 1,
      min d.day (monthLength (isLeap (n / 12)) ((n % 12).toNat + 1)), by omega, by omega,
      by omega⟩, ?_⟩
    rw [addMonths?_eq_some_iff, monthNumber_eq_iff, number]
    exact ⟨⟨rfl, rfl⟩, rfl⟩

/-- Years are counted back as long as there are years of the calendar. -/
theorem exists_yearsBack_iff {d : Date} {years : Int} (h : 0 ≤ years) :
    (∃ e, d.addMonths? (-(12 * years)) = some e) ↔ minYear ≤ d.year - years := by
  have year := d.year_mem.2
  have months := d.month_mem
  rw [exists_addMonths?_iff]
  unfold monthNumber
  omega

theorem addMonths?_mono {d e f : Date} {a b : Int} (he : d.addMonths? a = some e)
    (hf : d.addMonths? b = some f) (h : a ≤ b) : e ≤ f := by
  obtain ⟨month, day⟩ := addMonths?_eq_some_iff.1 he
  obtain ⟨month', day'⟩ := addMonths?_eq_some_iff.1 hf
  rw [le_iff_monthNumber]
  rcases Int.lt_or_eq_of_le h with fewer | rfl
  · left
    omega
  · rw [he] at hf
    rw [Option.some.inj hf]
    exact .inr ⟨rfl, Nat.le_refl _⟩

theorem exists_addMonths? {d e f : Date} {a b c : Int} (he : d.addMonths? a = some e)
    (hf : d.addMonths? b = some f) (h : a ≤ c) (h' : c ≤ b) : ∃ g, d.addMonths? c = some g := by
  have first := exists_addMonths?_iff.1 ⟨e, he⟩
  have last := exists_addMonths?_iff.1 ⟨f, hf⟩
  exact exists_addMonths?_iff.2 ⟨by omega, by omega⟩

end Fabricate.Calendar.Date
