import Fabricate.CommandLine.Host
import Fabricate.CommandLine.LogFilter
import Fabricate.Json.Printer

/-!
# Lines of a log

A plain way to write events down, for machines that have no better one: a line for each event, with
its level, where it comes from, its message and its values. Of a filter only levels are understood;
the last one counts, and where there is none errors are written.
-/

namespace Fabricate

/-- The name of a level. -/
def LogLevel.name : LogLevel → String
  | .error => "ERROR"
  | .warn => "WARN"
  | .info => "INFO"
  | .debug => "DEBUG"

/-- The number of a level in a filter. -/
def LogLevel.number : LogLevel → Nat
  | .error => 1
  | .warn => 2
  | .info => 3
  | .debug => 4

/-- The line for an event. -/
def LogEvent.line (e : LogEvent) : String :=
  let values := e.values.map fun (name, v) => " " ++ name ++ "=" ++ v.render
  e.level.name ++ " " ++ e.target ++ ": " ++ e.message ++ String.join values ++ "\n"

namespace CommandLine

/-- The names of the levels, by their numbers. -/
def levelNames : List String :=
  ["off", "error", "warn", "info", "debug", "trace"]

/-- The number of the level that a directive names. -/
def levelNumber? (directive : List Char) : Option Nat :=
  (Decimal.nat? directive).or
    (levelNames.findIdx? fun name => name.toList = Text.asciiLower directive)

/-- The number of the level up to which events are written. -/
def LogStyle.threshold (style : LogStyle) : Nat :=
  let directives := (Text.splitAll ',' style.filter.toList).map Text.trim
  (directives.filterMap levelNumber?).getLast?.getD 1

/-- The line for an event, if it is written. -/
def LogStyle.line (style : LogStyle) (e : LogEvent) : String :=
  if e.level.number ≤ style.threshold then e.line else ""

end CommandLine

end Fabricate
