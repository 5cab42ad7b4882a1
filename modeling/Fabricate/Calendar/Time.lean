import Fabricate.Calendar.Date

/-!
# Times and timestamps

A time of day has hours, minutes, seconds and nanoseconds. A second of nanoseconds too many stands
for a leap second, which shows as second 60.
-/

namespace Fabricate.Calendar

/-- A time of day. -/
structure Time where
  hour : Nat
  minute : Nat
  second : Nat
  nanosecond : Nat
  hour_lt : hour < 24
  minute_lt : minute < 60
  second_lt : second < 60
  nanosecond_lt : nanosecond < 2000000000
  deriving DecidableEq

namespace Time

/-- The time that many whole seconds after midnight, counted around the clock. -/
def ofSeconds (n : Nat) : Time where
  hour := n / 3600 % 24
  minute := n / 60 % 60
  second := n % 60
  nanosecond := 0
  hour_lt := Nat.mod_lt _ (by decide)
  minute_lt := Nat.mod_lt _ (by decide)
  second_lt := Nat.mod_lt _ (by decide)
  nanosecond_lt := by decide

/-- The number of whole seconds since midnight. -/
def seconds (t : Time) : Nat :=
  3600 * t.hour + 60 * t.minute + t.second

/-- The second shown, which is 60 in a leap second. -/
def shownSecond (t : Time) : Nat :=
  t.second + t.nanosecond / 1000000000

end Time

/-- A time on a day. -/
structure Timestamp where
  date : Date
  time : Time
  deriving DecidableEq

/-- The number of seconds of a day. -/
def secondsPerDay : Int := 86400

namespace Timestamp

/-- The number of seconds since the start of 1970. -/
def unix (t : Timestamp) : Int :=
  secondsPerDay * (t.date.number - Date.epoch.number) + t.time.seconds

/-- The timestamp that many seconds after the start of a day, if the calendar has it. -/
def after? (start : Date) (seconds : Nat) : Option Timestamp :=
  (start.addDays? (seconds / secondsPerDay)).map fun d =>
    ⟨d, Time.ofSeconds (seconds % secondsPerDay).toNat⟩

end Timestamp

end Fabricate.Calendar
