import Fabricate.Proofs.Calendar.Age
import Fabricate.Proofs.Generator.DateDraw

/-!
# Dates of birth

A date of birth is drawn from the days on which someone of the given ages can have been born. The
last such day is the current one, the lower age back; the first one is the day after the last day of
birth for one more than the upper age (`birthRange_cases`). Both are cut at the end of a February
where birthdays on 29 February are put off to March, so no day is missed and none is too many: what
can be drawn are exactly the days of birth of these ages (`births_match_ages`).
-/

namespace Fabricate

open Fabricate.Random Calendar

namespace Generator

/-- The parameters ask for accepted ages, the lower one first. -/
structure AgeBounds (params : Params) (minimum maximum : Nat) : Prop where
  minimum_eq : ((params.int? "minimum_age").map Int64.toInt).getD 0 = minimum
  maximum_eq : ((params.int? "maximum_age").map Int64.toInt).getD 115 = maximum
  minimum_le : minimum ≤ 115
  maximum_le : maximum ≤ 200
  order : minimum ≤ maximum

theorem bounded_eq_pure {params : Params} {key : String} {default max : Int} {n : Nat}
    (given : ((params.int? key).map Int64.toInt).getD default = n) (small : n ≤ max) :
    bounded params key default 0 max = pure n :=
  bounded_of_mem given (Int.natCast_nonneg n) small

/-- The range of days of birth is that of the ages, unless it would start before the calendar. -/
theorem birthRange_cases {today : Date} {minimum maximum : Nat} (order : minimum ≤ maximum) :
    (today.year - (maximum + 1) < minYear ∧
        birthRange today minimum maximum = refuse ExpressionError.outOfRange.message) ∨
      minYear ≤ today.year - (maximum + 1) ∧
        ∃ first last, birthRange today minimum maximum = pure (first, last) ∧ first ≤ last ∧
          ∀ born : Date, first ≤ born ∧ born ≤ last ↔
            minimum ≤ born.age today ∧ born.age today ≤ maximum := by
  have years : (-(12 * minimum : Nat) : Int) = -(12 * (minimum : Int)) := by omega
  have more : (-(12 * (maximum + 1) : Nat) : Int) = -(12 * ((maximum : Int) + 1)) := by omega
  unfold birthRange
  rw [if_neg (Nat.not_lt.2 order), years, more]
  by_cases early : today.year - (maximum + 1) < minYear
  · have missing : today.addMonths? (-(12 * ((maximum : Int) + 1))) = none := by
      rw [Option.eq_none_iff_forall_ne_some]
      intro before found
      have := (@Date.exists_yearsBack_iff today (maximum + 1) (by omega)).1 ⟨before, found⟩
      omega
    rw [missing]
    cases today.addMonths? (-(12 * (minimum : Int))) with
    | none => exact .inl ⟨early, rfl⟩
    | some last => exact .inl ⟨early, rfl⟩
  · have inside := Int.not_lt.1 early
    obtain ⟨last, before, first, back, further, next, order, ages⟩ :=
      @Date.exists_birthRange today minimum maximum (by omega) (by omega) inside
    refine .inr ⟨inside, first, last, ?_, order, ages⟩
    rw [back, further]
    simp only [inCalendar, pure_bind, next]

/-- What can be drawn are exactly the days of birth of the given ages, and the range that it is
drawn from is never the wrong way round, unless a day that is needed lies before the calendar. -/
theorem births_match_ages (locale : Locale) (today : Date) (params : Params) (world : World)
    (minimum maximum : Nat) (h : AgeBounds params minimum maximum) :
    let outcome := fun s => (dateOfBirth.generate ⟨locale, today⟩ params world s).outcome
    (today.year - (maximum + 1) < minYear ∧
        ∀ s, outcome s = .refused (.constraint "date out of range")) ∨
      (∃ first last, birthRange today minimum maximum = pure (first, last) ∧ first ≤ last) ∧
        (∀ s, ∃ d, outcome s = .value (.date d)) ∧
        ∀ d : Date, (∃ s, outcome s = .value (.date d)) ↔
          minimum ≤ d.age today ∧ d.age today ≤ maximum := by
  intro outcome
  have lower := @bounded_eq_pure params "minimum_age" 0 115 minimum h.minimum_eq
    (Int.ofNat_le.2 h.minimum_le)
  have upper := @bounded_eq_pure params "maximum_age" 115 200 maximum h.maximum_eq
    (Int.ofNat_le.2 h.maximum_le)
  rcases @birthRange_cases today minimum maximum h.order with
    ⟨early, range⟩ | ⟨-, first, last, range, order, ages⟩
  · refine .inl ⟨early, fun s => outcome_of_answer_error ?_ world⟩
    rw [lower, pure_bind, upper, pure_bind, range]
    rfl
  · -- The generator draws between the first and the last day.
    have ends : ∀ s d, (drawDate first last).run.answer s = .ok d →
        outcome s = .value (.date d) := by
      intro s d drawn
      refine outcome_of_answer_ok ?_ world
      rw [lower, pure_bind, upper, pure_bind, range, pure_bind]
      exact answer_map drawn Datum.date
    refine .inr ⟨⟨first, last, range, order⟩, fun s => ?_, fun d => ⟨?_, ?_⟩⟩
    · obtain ⟨d, drawn, -⟩ := drawDate_mem order s
      exact ⟨d, ends s d drawn⟩
    · rintro ⟨s, given⟩
      obtain ⟨e, drawn, within⟩ := drawDate_mem order s
      rw [ends s e drawn] at given
      cases given
      exact (ages d).1 within
    · intro fits
      obtain ⟨first_le, le_last⟩ := (ages d).2 fits
      obtain ⟨s, drawn⟩ := exists_drawDate first_le le_last
      exact ⟨s, ends s d drawn⟩

/-- On 29 February 2024 someone born on 28 February 2006 is 18 years old, and someone born on the
next day is not yet. -/
theorem births_match_ages_leap_day :
    let today : Date := ⟨2024, 2, 29, by decide, by decide, by decide⟩
    let params : Params := [("minimum_age", .ofInt64 18), ("maximum_age", .ofInt64 30)]
    let outcome := fun s => (dateOfBirth.generate ⟨.enUS, today⟩ params ⟨[], false⟩ s).outcome
    AgeBounds params 18 30 ∧
      (∃ s, outcome s = .value (.date ⟨2006, 2, 28, by decide, by decide, by decide⟩)) ∧
      ¬ ∃ s, outcome s = .value (.date ⟨2006, 3, 1, by decide, by decide, by decide⟩) := by
  intro today params outcome
  have bounds : AgeBounds params 18 30 :=
    ⟨by decide, by decide, by decide, by decide, by decide⟩
  refine ⟨bounds, ?_⟩
  rcases births_match_ages .enUS today params ⟨[], false⟩ 18 30 bounds with
    ⟨early, -⟩ | ⟨-, -, exactly⟩
  · exact absurd early (by decide)
  · rw [exactly, exactly]
    decide

end Generator

end Fabricate
