import Fabricate.Json.Basic

/-!
# Events for the log

While documents are made and written, the log is told what happens. An event has a level, the part
of the program that it comes from, a message and some values with their names. How events are
written down, and which of them, is up to the log.
-/

namespace Fabricate

open Json

/-- How much an event matters. -/
inductive LogLevel where
  | error
  | warn
  | info
  | debug
  deriving DecidableEq

/-- What the log is told. -/
structure LogEvent where
  level : LogLevel
  /-- The part of the program that the event comes from. -/
  target : String
  message : String
  values : List (String × Value)

/-- A number among the values of an event. -/
def LogEvent.number (n : Nat) : Value :=
  .ofUInt64 (UInt64.ofNat n)

/-- A result, and what the log is told on the way to it. -/
structure Logged (α : Type) where
  result : α
  events : List LogEvent

end Fabricate
