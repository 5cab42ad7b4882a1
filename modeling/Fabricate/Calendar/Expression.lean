import Fabricate.Calendar.Text

/-!
# Date expressions

A date is given as `today` or `now`, as a date, or as an offset from today: a signed number and a
unit, `d` for days, `w` for weeks, `m` for months and `y` for years, days when there is none. An
offset that does not fit a signed word, also once it is turned into days or months, is unreadable;
one that leaves the calendar is out of range.
-/

namespace Fabricate.Calendar

open Decimal

/-- Why an expression denotes no date. -/
inductive ExpressionError where
  | unreadable (text : String)
  | outOfRange
  deriving DecidableEq

/-- What a reader is told. -/
def ExpressionError.message : ExpressionError → String
  | .unreadable text => "invalid date expression '" ++ text ++ "'"
  | .outOfRange => "date out of range"

/-- The units of an offset. -/
inductive OffsetUnit where
  | day
  | week
  | month
  | year
  deriving DecidableEq

/-- The unit that a letter stands for. -/
def OffsetUnit.ofLetter? (c : Char) : Option OffsetUnit :=
  match c.toLower with
  | 'd' => some .day
  | 'w' => some .week
  | 'm' => some .month
  | 'y' => some .year
  | _ => none

/-- How many days or months one unit has. -/
def OffsetUnit.size : OffsetUnit → Int
  | .day => 1
  | .week => 7
  | .month => 1
  | .year => 12

/-- The day at an offset from another one. -/
def Date.shift? (d : Date) (unit : OffsetUnit) (amount : Int) : Option Date :=
  match unit with
  | .day | .week => d.addDays? (unit.size * amount)
  | .month | .year => d.addMonths? (unit.size * amount)

/-- An offset: its number and the letter of its unit, which is `d` when the text has none. -/
def splitUnit (cs : List Char) : List Char × Char :=
  match cs.getLast? with
  | some c => if c.isAlpha then (cs.dropLast, c) else (cs, 'd')
  | none => (cs, 'd')

/-- The date that an offset denotes. -/
def offset (cs : List Char) (today : Date) : Except ExpressionError Date :=
  let unreadable := ExpressionError.unreadable (String.ofList cs)
  let (body, letter) := splitUnit cs
  match (int? body).filter Word.fitsSigned, OffsetUnit.ofLetter? letter with
  | some amount, some unit =>
      if Word.fitsSigned (unit.size * amount) then
        match today.shift? unit amount with
        | some d => .ok d
        | none => .error .outOfRange
      else .error unreadable
  | _, _ => .error unreadable

/-- Whether the text is a name of the current day. -/
def namesToday (cs : List Char) : Bool :=
  Text.asciiLower cs = "today".toList || Text.asciiLower cs = "now".toList

/-- The date that an expression denotes on a given day. -/
def evaluate (expression : String) (today : Date) : Except ExpressionError Date :=
  let cs := Text.trim expression.toList
  if namesToday cs then .ok today
  else
    match readDate? false cs with
    | some d => .ok d
    | none => offset cs today

end Fabricate.Calendar
