import Fabricate.Generator.DateTime
import Fabricate.Proofs.Calendar.Shift
import Fabricate.Proofs.Generator.Produce

/-!
# Drawing dates and timestamps

What is drawn between two days is exactly the days between them, both included (`drawDate_mem`,
`exists_drawDate`), and a timestamp is drawn from their seconds, the first midnight and the last
second before midnight included (`drawTimestamp_mem`). The days between two days of the calendar are
days of the calendar, so a draw is refused only when its bounds are the wrong way round.
-/

namespace Fabricate

open Fabricate.Random

namespace Calendar

theorem Time.seconds_ofSeconds {n : Nat} (h : n < 86400) : (Time.ofSeconds n).seconds = n := by
  unfold Time.seconds Time.ofSeconds
  dsimp only
  omega

namespace Timestamp

/-- The first second of a day. -/
def opening (d : Date) : Timestamp := ⟨d, .ofSeconds 0⟩

/-- The last second of a day. -/
def closing (d : Date) : Timestamp := ⟨d, .ofSeconds 86399⟩

/-- A whole second of the days from one to another. -/
structure Within (first last : Date) (t : Timestamp) : Prop where
  lower : (opening first).unix ≤ t.unix
  upper : t.unix ≤ (closing last).unix
  whole : t.time.nanosecond = 0

theorem unix_opening (d : Date) : (opening d).unix = 86400 * (d.number - Date.epoch.number) := by
  unfold unix opening secondsPerDay
  rw [Time.seconds_ofSeconds (by decide)]
  exact Int.add_zero _

theorem unix_closing (d : Date) :
    (closing d).unix = 86400 * (d.number - Date.epoch.number) + 86399 := by
  unfold unix closing secondsPerDay
  rw [Time.seconds_ofSeconds (by decide)]
  rfl

/-- The seconds after the start of a day are counted on over the days that follow. -/
theorem exists_after? {first last : Date} {seconds : Nat}
    (h : (seconds : Int) ≤ 86400 * (last.number - first.number) + 86399) :
    ∃ t, after? first seconds = some t ∧ t.Within first last := by
  obtain ⟨d, number⟩ := @Date.exists_of_between first last (first.number + seconds / 86400)
    (by omega) (by omega)
  have found : first.addDays? (seconds / secondsPerDay) = some d :=
    Date.addDays?_eq_some_iff.2 number
  have rest : (seconds % secondsPerDay).toNat = seconds % 86400 := by
    unfold secondsPerDay
    omega
  have shown : (⟨d, .ofSeconds (seconds % 86400)⟩ : Timestamp).unix =
      86400 * (first.number - Date.epoch.number) + seconds := by
    unfold unix secondsPerDay
    rw [Time.seconds_ofSeconds (Nat.mod_lt _ (by decide)), number]
    omega
  refine ⟨⟨d, .ofSeconds (seconds % 86400)⟩, ?_, ?_, ?_, rfl⟩
  · rw [after?, found, rest]
    rfl
  · rw [unix_opening, shown]
    omega
  · rw [unix_closing, shown]
    omega

end Timestamp

end Calendar

namespace Generator

open Calendar

/-! ### Drawing in a range -/

theorem drawDate_of_lt {first last : Date} (h : last < first) :
    drawDate first last = refuse "start date must not be after end date" := by
  unfold drawDate
  rw [if_pos h]
  rfl

theorem drawDate_of_le {first last : Date} (h : first ≤ last) :
    drawDate first last =
      (liftM (between64 0 (last.number - first.number)) >>= fun days =>
        inCalendar (first.addDays? days)) := by
  unfold drawDate
  rw [if_neg (Date.not_lt.2 h)]

/-- A day that is drawn lies between the bounds, both included, and none is refused. -/
theorem drawDate_mem {first last : Date} (h : first ≤ last) (s : Stream) :
    ∃ d, (drawDate first last).run.answer s = .ok d ∧ first ≤ d ∧ d ≤ last := by
  rw [Date.le_iff_number] at h
  have near := first.number_mem
  have far := last.number_mem
  obtain ⟨lower, upper⟩ := @between64_mem 0 (last.number - first.number) (by omega) (by omega) s
  obtain ⟨d, number⟩ := @Date.exists_of_between first last
    (first.number + (between64 0 (last.number - first.number)).answer s) (by omega) (by omega)
  refine ⟨d, ?_, ?_, ?_⟩
  · rw [drawDate_of_le h]
    refine answer_bind (answer_lift _ s) fun t => ?_
    rw [Date.addDays?_eq_some_iff.2 number]
    rfl
  · rw [Date.le_iff_number]
    omega
  · rw [Date.le_iff_number]
    omega

/-- Every day between the bounds can be drawn. -/
theorem exists_drawDate {first last d : Date} (lower : first ≤ d) (upper : d ≤ last) :
    ∃ s, (drawDate first last).run.answer s = .ok d := by
  rw [Date.le_iff_number] at lower upper
  have near := first.number_mem
  have far := last.number_mem
  obtain ⟨s, drawn⟩ := @exists_between64 0 (last.number - first.number) (by omega)
    (d.number - first.number) (by omega) (by omega)
  have found : first.addDays? (d.number - first.number) = some d :=
    Date.addDays?_eq_some_iff.2 (by omega)
  refine ⟨s, ?_⟩
  rw [drawDate_of_le (Date.le_iff_number.2 (by omega))]
  refine answer_bind (answer_lift _ s) fun t => ?_
  rw [drawn, found]
  rfl

theorem drawTimestamp_of_lt {first last : Date} (h : last < first) :
    drawTimestamp first last = refuse "start date must not be after end date" := by
  unfold drawTimestamp
  rw [if_pos h]
  rfl

/-- A timestamp that is drawn is a second of the days between the bounds, and none is refused. -/
theorem drawTimestamp_mem {first last : Date} (h : first ≤ last) (s : Stream) :
    ∃ t, (drawTimestamp first last).run.answer s = .ok t ∧ t.Within first last := by
  have near := first.number_mem
  have far := last.number_mem
  have order := Date.le_iff_number.1 h
  have span : secondsPerDay * (last.number - first.number) + 86399 =
      86400 * (last.number - first.number) + 86399 := rfl
  obtain ⟨lower, upper⟩ :=
    @between64_mem 0 (secondsPerDay * (last.number - first.number) + 86399) (by omega) (by omega) s
  obtain ⟨t, found, within⟩ := @Timestamp.exists_after? first last
    ((between64 0 (secondsPerDay * (last.number - first.number) + 86399)).answer s).toNat (by omega)
  refine ⟨t, ?_, within⟩
  unfold drawTimestamp
  rw [if_neg (Date.not_lt.2 h)]
  refine answer_bind (answer_lift _ s) fun rest => ?_
  rw [found]
  rfl

end Generator

end Fabricate
