import Fabricate.Generator.Number
import Fabricate.Calendar.Expression

/-!
# Date and time generators

A date is drawn evenly from the days between two bounds, both included, and a timestamp from all
seconds of those days. The bounds are given as expressions, or are the start of 1970 and the current
day. A date of birth is drawn from the days on which someone of the given ages can have been born.
-/

namespace Fabricate.Generator

open Fabricate.Random Calendar

/-- The date, or a refusal when the calendar does not have it. -/
def inCalendar (d : Option Date) : Produce Date :=
  match d with
  | some d => return d
  | none => refuse ExpressionError.outOfRange.message

/-- The date that an expression denotes. -/
def dateOf (expression : String) (today : Date) : Produce Date :=
  match evaluate expression today with
  | .ok d => return d
  | .error e => refuse e.message

/-- The bounds given by the parameters: thirty years back and the current day by default. -/
def dateRange (params : Params) (today : Date) : Produce (Date × Date) := do
  let first ← dateOf ((params.text? "start_date").getD "-30y") today
  let last ← dateOf ((params.text? "end_date").getD "today") today
  if last < first then refuse "start_date must not be after end_date"
  return (first, last)

/-- A day between two others, both included. -/
def drawDate (first last : Date) : Produce Date := do
  if last < first then refuse "start date must not be after end date"
  let days ← between64 0 (last.number - first.number)
  inCalendar (first.addDays? days)

/-- A second of the days between two others, both included. -/
def drawTimestamp (first last : Date) : Produce Timestamp := do
  if last < first then refuse "start date must not be after end date"
  let seconds ← between64 0 (secondsPerDay * (last.number - first.number) + 86399)
  match Timestamp.after? first seconds.toNat with
  | some t => return t
  | none => refuse ExpressionError.outOfRange.message

/-- The parameters of a range of dates. -/
def rangeSpecs : List ParamSpec :=
  [⟨"start_date", .string, false⟩, ⟨"end_date", .string, false⟩]

/-- A date since 1970. -/
def date : Generator :=
  .ofProduce "date" "date_time" [] fun context _ => do
    return .date (← drawDate .epoch context.today)

/-- A date between two bounds. -/
def dateBetween : Generator :=
  .ofProduce "date_between" "date_time" rangeSpecs fun context params => do
    let (first, last) ← dateRange params context.today
    return .date (← drawDate first last)

/-- The first and the last day on which someone can have been born who is at least and at most so
many years old on a day. -/
def birthRange (today : Date) (minimum maximum : Nat) : Produce (Date × Date) := do
  if maximum < minimum then refuse "date_of_birth: minimum_age must be <= maximum_age"
  let last ← inCalendar (today.addMonths? (-(12 * minimum : Nat)))
  let before ← inCalendar (today.addMonths? (-(12 * (maximum + 1) : Nat)))
  match before.addDays? 1 with
  | some first => return (first, last)
  | none => refuse ("date_of_birth: " ++ ExpressionError.outOfRange.message)

/-- A date of birth for a range of ages. -/
def dateOfBirth : Generator :=
  .ofProduce "date_of_birth" "date_time"
    [⟨"minimum_age", .int, false⟩, ⟨"maximum_age", .int, false⟩]
    fun context params => do
      let minimum ← bounded params "minimum_age" 0 0 115
      let maximum ← bounded params "maximum_age" 115 0 200
      let (first, last) ← birthRange context.today minimum maximum
      return .date (← drawDate first last)

/-- A timestamp since 1970, turned into a value. -/
def timestampSince1970 (id : String) (toDatum : Timestamp → Datum) : Generator :=
  .ofProduce id "date_time" [] fun context _ => do
    return toDatum (← drawTimestamp .epoch context.today)

/-- A timestamp between two bounds. -/
def dateTimeBetween : Generator :=
  .ofProduce "date_time_between" "date_time" rangeSpecs fun context params => do
    let (first, last) ← dateRange params context.today
    return .timestamp (← drawTimestamp first last)

/-- A timestamp since 1970. -/
def dateTime : Generator :=
  timestampSince1970 "date_time" .timestamp

/-- The text of a timestamp since 1970. -/
def iso8601 : Generator :=
  timestampSince1970 "iso8601" fun t => .text (String.ofList t.text)

/-- The seconds since the start of 1970. -/
def unixTime : Generator :=
  timestampSince1970 "unix_time" fun t => .int (Int64.ofInt t.unix)

/-- A time of day. -/
def time : Generator :=
  .ofProduce "time" "date_time" [] fun _ _ => do
    return .time (Time.ofSeconds (← below32 86400))

/-- A part of a date since 1970, as a text. -/
def datePart (id : String) (part : Date → List Char) : Generator :=
  .ofProduce id "date_time" [] fun context _ => do
    return .text (String.ofList (part (← drawDate .epoch context.today)))

/-- A year since 1970. -/
def year : Generator :=
  datePart "year" fun d => Decimal.ofInt d.year

/-- A month, in two digits. -/
def month : Generator :=
  datePart "month" fun d => Decimal.padded 2 d.month

end Fabricate.Generator
