import Fabricate.Proofs.Calendar.Shift

/-!
# Ages

Someone is as many years old as they had birthdays. A birthday is the same day of a later year;
where the year has no 29 February, the birthday of those born on one is 1 March (`birthday`).

The age is the difference of the years, less one as long as the birthday of the year is still to
come (`le_age_iff`). The day so many years before another one, cut at the end of its month, is the
last day of birth for this age (`le_addMonths?_iff`): the cut takes back what the birthday is put
off.
-/

namespace Fabricate.Calendar.Date

/-- The number of the day on which someone completes so many years. -/
def birthday (born : Date) (years : Int) : Int :=
  civilNumber (born.year + years) born.month born.day

/-- The years that someone has completed on a day; negative before the day of birth. -/
def age (born today : Date) : Int :=
  if born.month < today.month ∨ born.month = today.month ∧ born.day ≤ today.day then
    today.year - born.year
  else today.year - born.year - 1

/-- Someone is so many years old from the birthday on. -/
theorem le_age_iff {born today : Date} {years : Int} :
    years ≤ born.age today ↔ born.birthday years ≤ today.number := by
  rw [birthday, civilNumber_le_iff born.month_mem born.day_le_leap, age]
  split <;> omega

/-- Someone born on 29 February completes a year on 1 March. -/
example : let born : Date := ⟨2020, 2, 29, by decide, by decide, by decide⟩
    born.age ⟨2021, 2, 28, by decide, by decide, by decide⟩ = 0 ∧
      born.age ⟨2021, 3, 1, by decide, by decide, by decide⟩ = 1 := by
  decide

/-- The day so many years before another one is the last day of birth for this age. -/
theorem le_addMonths?_iff {born today last : Date} {years : Int}
    (h : today.addMonths? (-(12 * years)) = some last) :
    born ≤ last ↔ years ≤ born.age today := by
  obtain ⟨month, day⟩ := addMonths?_eq_some_iff.1 h
  have months := today.month_mem
  have months' := last.month_mem
  unfold monthNumber at month
  have year : last.year = today.year - years := by omega
  have same : last.month = today.month := by omega
  rw [le_iff_civil, le_age_iff, birthday, civilNumber_le_iff born.month_mem born.day_le_leap, year]
  -- Born in the month of the last day, one has a day of this month, so its cut does not matter.
  have cut : born.year = last.year → born.month = last.month →
      (born.day ≤ last.day ↔ born.day ≤ today.day) := by
    intro sameYear sameMonth
    have days := born.day_mem.2
    rw [sameYear, sameMonth] at days
    omega
  omega

/-- The days of birth for a range of ages start on the day after the last one for a greater age. -/
theorem exists_birthRange {today : Date} {minimum maximum : Int} (positive : 0 ≤ minimum)
    (order : minimum ≤ maximum) (inside : minYear ≤ today.year - (maximum + 1)) :
    ∃ last before first, today.addMonths? (-(12 * minimum)) = some last ∧
      today.addMonths? (-(12 * (maximum + 1))) = some before ∧ before.addDays? 1 = some first ∧
      first ≤ last ∧
      ∀ born, first ≤ born ∧ born ≤ last ↔ minimum ≤ born.age today ∧ born.age today ≤ maximum := by
  obtain ⟨last, back⟩ := (@exists_yearsBack_iff today minimum positive).2 (by omega)
  obtain ⟨before, further⟩ := (@exists_yearsBack_iff today (maximum + 1) (by omega)).2 inside
  -- The day before the range is in an earlier month than its last day.
  have apart : ¬ last ≤ before := by
    have := (addMonths?_eq_some_iff.1 back).1
    have := (addMonths?_eq_some_iff.1 further).1
    rw [le_iff_monthNumber]
    omega
  rw [le_iff_number] at apart
  obtain ⟨first, number⟩ := @exists_of_between before last (before.number + 1) (by omega) (by omega)
  refine ⟨last, before, first, back, further, addDays?_eq_some_iff.2 number, ?_, fun born => ?_⟩
  · rw [le_iff_number]
    omega
  · have older := @le_addMonths?_iff born today before (maximum + 1) further
    rw [le_iff_number] at older
    rw [le_addMonths?_iff back, le_iff_number]
    omega

end Fabricate.Calendar.Date
