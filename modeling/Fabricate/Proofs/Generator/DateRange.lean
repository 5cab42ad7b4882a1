import Fabricate.Proofs.Calendar.Offset
import Fabricate.Proofs.Generator.DateDraw

/-!
# Dates and timestamps in a range

The bounds of a range are expressions, or the start of 1970 and the current day. A generator refuses
its parameters exactly when they are no range (`BadRange`), and otherwise gives something of the
range, whatever it draws (`dates_stay_in_range`): a day, a second of the days, or a text or number
made of one. All of them draw between two days and differ in what they make of it, so there is one
statement for bounds that are given (`answers_between`) and one for those since 1970
(`answers_since_epoch`).

Bounds that are offsets in one unit are ordered like their amounts, so such a range is refused only
if a bound itself is (`relative_dates_are_ordered`).
-/

namespace Fabricate

open Fabricate.Random Calendar

namespace Generator

/-- The expression of the first day: thirty years back where none is given. -/
def startText (params : Params) : String :=
  (params.text? "start_date").getD "-30y"

/-- The expression of the last day: the current one where none is given. -/
def endText (params : Params) : String :=
  (params.text? "end_date").getD "today"

/-- The days that the bounds denote. -/
structure Bounds (params : Params) (today first last : Date) : Prop where
  start : evaluate (startText params) today = .ok first
  stop : evaluate (endText params) today = .ok last

/-- The bounds are no range of days. -/
inductive BadRange (params : Params) (today : Date) : Prop
  /-- A bound is no expression. -/
  | unreadable {bound text : String} : bound = startText params ∨ bound = endText params →
      evaluate bound today = .error (.unreadable text) → BadRange params today
  /-- A bound leaves the calendar. -/
  | outOfRange {bound : String} : bound = startText params ∨ bound = endText params →
      evaluate bound today = .error .outOfRange → BadRange params today
  /-- The bounds are the wrong way round. -/
  | inverted {first last : Date} : Bounds params today first last → last < first →
      BadRange params today

/-! ### The range that is given -/

theorem badRange_of_error {params : Params} {today : Date} {bound : String}
    (given : bound = startText params ∨ bound = endText params) {e : ExpressionError}
    (h : evaluate bound today = .error e) : BadRange params today := by
  cases e with
  | unreadable text => exact .unreadable given h
  | outOfRange => exact .outOfRange given h

theorem Bounds.not_badRange {params : Params} {today first last : Date}
    (h : Bounds params today first last) (order : first ≤ last) : ¬ BadRange params today := by
  have denotes : ∀ bound e, bound = startText params ∨ bound = endText params →
      evaluate bound today ≠ .error e := by
    rintro bound e (rfl | rfl) fails
    · cases h.start.symm.trans fails
    · cases h.stop.symm.trans fails
  intro bad
  cases bad with
  | unreadable given fails => exact denotes _ _ given fails
  | outOfRange given fails => exact denotes _ _ given fails
  | inverted bounds inverted =>
      cases h.start.symm.trans bounds.start
      cases h.stop.symm.trans bounds.stop
      exact Date.not_lt.2 order inverted

theorem dateRange_of_start_error {params : Params} {today : Date} {e : ExpressionError}
    (h : evaluate (startText params) today = .error e) :
    dateRange params today = refuse e.message := by
  unfold dateRange
  rw [← startText, dateOf, h]
  rfl

theorem dateRange_of_stop_error {params : Params} {today first : Date} {e : ExpressionError}
    (start : evaluate (startText params) today = .ok first)
    (h : evaluate (endText params) today = .error e) :
    dateRange params today = refuse e.message := by
  unfold dateRange
  rw [← startText, ← endText, dateOf, dateOf, start, h]
  rfl

theorem dateRange_of_lt {params : Params} {today first last : Date}
    (h : Bounds params today first last) (inverted : last < first) :
    dateRange params today = refuse "start_date must not be after end_date" := by
  unfold dateRange
  rw [← startText, ← endText, dateOf, dateOf, h.start, h.stop]
  dsimp only
  rw [pure_bind, pure_bind, if_pos inverted]
  rfl

theorem dateRange_of_le {params : Params} {today first last : Date}
    (h : Bounds params today first last) (order : first ≤ last) :
    dateRange params today = pure (first, last) := by
  unfold dateRange
  rw [← startText, ← endText, dateOf, dateOf, h.start, h.stop]
  dsimp only
  rw [pure_bind, pure_bind, if_neg (Date.not_lt.2 order)]

theorem dateRange_cases (params : Params) (today : Date) :
    (BadRange params today ∧ ∃ reason, dateRange params today = refuse reason) ∨
      ∃ first last, Bounds params today first last ∧ first ≤ last ∧
        dateRange params today = pure (first, last) := by
  cases start : evaluate (startText params) today with
  | error e => exact .inl ⟨badRange_of_error (.inl rfl) start, _, dateRange_of_start_error start⟩
  | ok first =>
      cases stop : evaluate (endText params) today with
      | error e =>
          exact .inl ⟨badRange_of_error (.inr rfl) stop, _, dateRange_of_stop_error start stop⟩
      | ok last =>
          by_cases inverted : last < first
          · exact .inl ⟨.inverted ⟨start, stop⟩ inverted, _, dateRange_of_lt ⟨start, stop⟩ inverted⟩
          · have order := Date.not_lt.1 inverted
            exact .inr ⟨first, last, ⟨start, stop⟩, order, dateRange_of_le ⟨start, stop⟩ order⟩

/-! ### What is made of a draw -/

section Draws

variable {α : Type} {draw : Date → Date → Produce α} {good : Date → Date → α → Prop}
  (refused : ∀ {first last}, last < first →
    draw first last = refuse "start date must not be after end date")
  (drawn : ∀ {first last}, first ≤ last → ∀ s,
    ∃ a, (draw first last).run.answer s = .ok a ∧ good first last a)
  (make : α → Datum) {id provider : String} {specs : List ParamSpec} {locale : Locale}
  {today : Date} {params : Params} {world : World} {s : Stream}

include drawn in
/-- A generator that draws in the range of its parameters fails for bad ranges only. -/
theorem answers_between :
    Answers (BadRange params today)
      (fun v => ∃ first last a, Bounds params today first last ∧ v = make a ∧ good first last a)
      ((ofProduce id provider specs fun context params => do
        let (first, last) ← dateRange params context.today
        return make (← draw first last)).generate ⟨locale, today⟩ params world s).outcome := by
  rcases dateRange_cases params today with
    ⟨bad, reason, range⟩ | ⟨first, last, bounds, order, range⟩
  · rw [outcome_of_answer_error (e := .constraint reason)]
    · exact .of_refused bad
    · rw [range]
      rfl
  · obtain ⟨a, answered, fits⟩ := drawn order s
    rw [outcome_of_answer_ok (v := make a)]
    · exact .of_value (bounds.not_badRange order) ⟨first, last, a, bounds, rfl, fits⟩
    · rw [range, pure_bind]
      exact answer_map answered make

include refused drawn in
/-- A generator that draws between 1970 and the current day fails before 1970 only. -/
theorem answers_since_epoch :
    Answers (today < Date.epoch) (fun v => ∃ a, v = make a ∧ good .epoch today a)
      ((ofProduce id provider specs fun context _ => do
        return make (← draw .epoch context.today)).generate ⟨locale, today⟩ params world
          s).outcome := by
  by_cases early : today < Date.epoch
  · rw [outcome_of_answer_error (e := .constraint "start date must not be after end date")]
    · exact .of_refused early
    · rw [refused early]
      rfl
  · obtain ⟨a, answered, fits⟩ := drawn (Date.not_lt.1 early) s
    rw [outcome_of_answer_ok (v := make a)]
    · exact .of_value early ⟨a, rfl, fits⟩
    · exact answer_map answered make

end Draws

/-- A timestamp since 1970 fits a word. -/
theorem toInt_unix {today : Date} {t : Timestamp} (h : t.Within .epoch today) :
    0 ≤ t.unix ∧ (Int64.ofInt t.unix).toInt = t.unix := by
  have lower := h.lower
  have upper := h.upper
  have near := today.number_mem
  have start := Date.epoch.number_mem
  rw [Timestamp.unix_opening] at lower
  rw [Timestamp.unix_closing] at upper
  exact ⟨by omega, Int64.toInt_ofInt_of_le (by omega) (by omega)⟩

theorem ne_outOfRange_of_drawn {α : Type} {p : Produce α} {first last : Date} {s : Stream}
    (refused : last < first → p = refuse "start date must not be after end date")
    (drawn : first ≤ last → ∃ a, p.run.answer s = .ok a) :
    p.run.answer s ≠ .error (.constraint ExpressionError.outOfRange.message) := by
  intro fails
  by_cases inverted : last < first
  · rw [refused inverted, answer_refuse] at fails
    have other : "start date must not be after end date" ≠ ExpressionError.outOfRange.message := by
      decide
    exact other (ParamError.constraint.inj (Except.error.inj fails))
  · obtain ⟨a, answered⟩ := drawn (Date.not_lt.1 inverted)
    rw [answered] at fails
    cases fails

/-- Dates and timestamps stay in their range, and only bad ranges are refused: bounds that are no
expressions, leave the calendar or are the wrong way round, or a current day before 1970 where the
range starts there. A draw in a range never leaves the calendar. -/
theorem dates_stay_in_range (locale : Locale) (today : Date) (params : Params) (world : World)
    (s : Stream) :
    let outcome := fun g : Generator => (g.generate ⟨locale, today⟩ params world s).outcome
    Answers (BadRange params today)
        (fun v => ∃ first last d, Bounds params today first last ∧ v = .date d ∧
          first ≤ d ∧ d ≤ last)
        (outcome dateBetween) ∧
      Answers (BadRange params today)
        (fun v => ∃ first last t, Bounds params today first last ∧ v = .timestamp t ∧
          t.Within first last)
        (outcome dateTimeBetween) ∧
      Answers (today < .epoch) (fun v => ∃ d, v = .date d ∧ .epoch ≤ d ∧ d ≤ today)
        (outcome date) ∧
      Answers (today < .epoch) (fun v => ∃ t : Timestamp, v = .timestamp t ∧ t.Within .epoch today)
        (outcome dateTime) ∧
      Answers (today < .epoch)
        (fun v => ∃ t : Timestamp, v = .text (String.ofList t.text) ∧ t.Within .epoch today)
        (outcome iso8601) ∧
      Answers (today < .epoch)
        (fun v => ∃ n, ∃ t : Timestamp, v = .int n ∧ t.Within .epoch today ∧ n.toInt = t.unix ∧
          0 ≤ n.toInt ∧ n.toInt ≤ (Timestamp.closing today).unix)
        (outcome unixTime) ∧
      Answers (today < .epoch)
        (fun v => ∃ d : Date, v = .text (String.ofList (Decimal.ofInt d.year)) ∧
          .epoch ≤ d ∧ d ≤ today)
        (outcome year) ∧
      Answers (today < .epoch)
        (fun v => ∃ d : Date, v = .text (String.ofList (Decimal.padded 2 d.month)) ∧ .epoch ≤ d ∧
          d ≤ today)
        (outcome month) ∧
      ∀ first last : Date,
        (drawDate first last).run.answer s ≠
            .error (.constraint ExpressionError.outOfRange.message) ∧
          (drawTimestamp first last).run.answer s ≠
            .error (.constraint ExpressionError.outOfRange.message) := by
  intro outcome
  refine ⟨?_, ?_, ?_, ?_, ?_, ?_, ?_, ?_, fun first last => ⟨?_, ?_⟩⟩
  · exact answers_between drawDate_mem .date
  · exact answers_between drawTimestamp_mem .timestamp
  · exact answers_since_epoch drawDate_of_lt drawDate_mem .date
  · exact answers_since_epoch drawTimestamp_of_lt drawTimestamp_mem .timestamp
  · exact answers_since_epoch drawTimestamp_of_lt drawTimestamp_mem
      fun t => .text (String.ofList t.text)
  · refine (answers_since_epoch drawTimestamp_of_lt drawTimestamp_mem
      fun t => .int (Int64.ofInt t.unix)).imp ?_
    rintro v ⟨t, rfl, within⟩
    obtain ⟨least, word⟩ := toInt_unix within
    refine ⟨_, t, rfl, within, word, ?_⟩
    rw [word]
    exact ⟨least, within.upper⟩
  · exact answers_since_epoch drawDate_of_lt drawDate_mem
      fun d => .text (String.ofList (Decimal.ofInt d.year))
  · exact answers_since_epoch drawDate_of_lt drawDate_mem
      fun d => .text (String.ofList (Decimal.padded 2 d.month))
  · exact ne_outOfRange_of_drawn drawDate_of_lt fun order =>
      (drawDate_mem order s).imp fun d h => h.1
  · exact ne_outOfRange_of_drawn drawTimestamp_of_lt fun order =>
      (drawTimestamp_mem order s).imp fun t h => h.1

/-! ### Relative bounds -/

/-- What is said of a bound that denotes no date starts in other words than what is said of an
inverted range. -/
theorem head?_message_ne (e : ExpressionError) : e.message.toList.head? ≠ some 's' := by
  cases e with
  | outOfRange => decide
  | unreadable text =>
      have other : (ExpressionError.unreadable text).message.toList.head? = some 'i' :=
        Text.head?_toList_append (Text.head?_toList_append (by decide) _) _
      rw [other]
      decide

/-- With both bounds relative in one unit and the amounts in order, a date is given unless a bound
denotes none; the range is never inverted. -/
theorem outcome_of_relative {locale : Locale} {today : Date} {params : Params} {world : World}
    {s : Stream} {unit : OffsetUnit} {a b : Int} (ha : Writes (startText params) a unit)
    (hb : Writes (endText params) b unit) (order : a ≤ b) :
    (∃ d, (dateBetween.generate ⟨locale, today⟩ params world s).outcome = .value (.date d)) ∨
      ∃ e : ExpressionError, (evaluate (startText params) today = .error e ∨
          evaluate (endText params) today = .error e) ∧
        (dateBetween.generate ⟨locale, today⟩ params world s).outcome =
          .refused (.constraint e.message) := by
  have fails : ∀ e : ExpressionError, dateRange params today = refuse e.message →
      (dateBetween.generate ⟨locale, today⟩ params world s).outcome =
        .refused (.constraint e.message) := by
    intro e range
    refine outcome_of_answer_error ?_ world
    rw [range]
    rfl
  cases start : evaluate (startText params) today with
  | error e => exact .inr ⟨e, .inl rfl, fails e (dateRange_of_start_error start)⟩
  | ok first =>
      cases stop : evaluate (endText params) today with
      | error e => exact .inr ⟨e, .inr rfl, fails e (dateRange_of_stop_error start stop)⟩
      | ok last =>
          obtain ⟨inOrder, -⟩ := evaluate_mono ha hb order start stop
          obtain ⟨d, drawn, -⟩ := drawDate_mem inOrder s
          refine .inl ⟨d, outcome_of_answer_ok ?_ world⟩
          rw [dateRange_of_le ⟨start, stop⟩ inOrder, pure_bind]
          exact answer_map drawn Datum.date

/-- Relative dates are ordered like their amounts and have no gaps, weeks are days and years are
months, and a range between them is never rejected as inverted. -/
theorem relative_dates_are_ordered (today : Date) :
    (∀ (unit : OffsetUnit) (a b : Int) (text text' : String) (first last : Date),
        Writes text a unit → Writes text' b unit → a ≤ b →
        evaluate text today = .ok first → evaluate text' today = .ok last →
        first ≤ last ∧ ∀ mid c, Writes mid c unit → a ≤ c → c ≤ b →
          ∃ d, evaluate mid today = .ok d ∧ first ≤ d ∧ d ≤ last) ∧
      (∀ (n : Int) (text text' : String), Word.fitsSigned (7 * n) = true →
        Writes text n .week → Writes text' (7 * n) .day →
        evaluate text today = evaluate text' today) ∧
      (∀ (n : Int) (text text' : String), Word.fitsSigned (12 * n) = true →
        Writes text n .year → Writes text' (12 * n) .month →
        evaluate text today = evaluate text' today) ∧
      ∀ (locale : Locale) (params : Params) (world : World) (s : Stream) (unit : OffsetUnit)
        (a b : Int), Writes (startText params) a unit → Writes (endText params) b unit → a ≤ b →
        let outcome := (dateBetween.generate ⟨locale, today⟩ params world s).outcome
        outcome ≠ .refused (.constraint "start_date must not be after end_date") ∧
          outcome ≠ .refused (.constraint "start date must not be after end date") ∧
          ((∃ d, outcome = .value (.date d)) ∨
            ∃ e : ExpressionError, (evaluate (startText params) today = .error e ∨
                evaluate (endText params) today = .error e) ∧
              outcome = .refused (.constraint e.message)) := by
  refine ⟨?_, ?_, ?_, ?_⟩
  · intro unit a b text text' first last ha hb order start stop
    exact evaluate_mono ha hb order start stop
  · intro n text text' fits ha hb
    have days : (7 : Int) * n = 1 * (7 * n) := (Int.one_mul _).symm
    exact evaluate_congr ha hb days (congrArg today.addDays? days) fits
  · intro n text text' fits ha hb
    have months : (12 : Int) * n = 1 * (12 * n) := (Int.one_mul _).symm
    exact evaluate_congr ha hb months (congrArg today.addMonths? months) fits
  · intro locale params world s unit a b ha hb order outcome
    have ends : (∃ d, outcome = .value (.date d)) ∨ ∃ e : ExpressionError, _ ∧
        outcome = .refused (.constraint e.message) := outcome_of_relative ha hb order
    have other : ∀ reason : String, reason.toList.head? = some 's' →
        outcome ≠ .refused (.constraint reason) := by
      intro reason starts same
      rcases ends with ⟨d, given⟩ | ⟨e, -, given⟩
      · cases given.symm.trans same
      · rw [given] at same
        rw [← ParamError.constraint.inj (Outcome.refused.inj same)] at starts
        exact head?_message_ne e starts
    exact ⟨other _ (by decide), other _ (by decide), ends⟩

/-- A month back from 31 March is 29 February and a month on is 30 April, and the month between them
denotes a day between these. -/
theorem relative_dates_are_ordered_month_ends :
    let today : Date := ⟨2024, 3, 31, by decide, by decide, by decide⟩
    let first : Date := ⟨2024, 2, 29, by decide, by decide, by decide⟩
    let last : Date := ⟨2024, 4, 30, by decide, by decide, by decide⟩
    let params : Params := [("start_date", .string "-1m"), ("end_date", .string "+1M")]
    Writes "-1m" (-1) .month ∧ Writes "+1M" 1 .month ∧ Writes "0m" 0 .month ∧
      evaluate "-1m" today = .ok first ∧ evaluate "+1M" today = .ok last ∧ first ≤ last ∧
      (∃ d, evaluate "0m" today = .ok d ∧ first ≤ d ∧ d ≤ last) ∧
      ∀ s, (dateBetween.generate ⟨.enUS, today⟩ params ⟨[], false⟩ s).outcome ≠
        .refused (.constraint "start_date must not be after end_date") := by
  intro today first last params
  have back : Writes "-1m" (-1) .month := @Writes.unit ['-', '1'] 'm' (-1) .month (by decide) rfl
  have on : Writes "+1M" 1 .month := @Writes.unit ['+', '1'] 'M' 1 .month (by decide) rfl
  have here : Writes "0m" 0 .month := @Writes.unit ['0'] 'm' 0 .month (by decide) rfl
  have start : evaluate "-1m" today = .ok first :=
    back.evaluate_eq_ok_iff.2 ⟨by decide, by decide⟩
  have stop : evaluate "+1M" today = .ok last := on.evaluate_eq_ok_iff.2 ⟨by decide, by decide⟩
  obtain ⟨ordered, -, -, range⟩ := relative_dates_are_ordered today
  obtain ⟨order, between⟩ := ordered .month (-1) 1 _ _ first last back on (by decide) start stop
  refine ⟨back, on, here, start, stop, order, between _ 0 here (by decide) (by decide), ?_⟩
  intro s
  exact (range .enUS params ⟨[], false⟩ s .month (-1) 1 back on (by decide)).1

end Generator

end Fabricate
