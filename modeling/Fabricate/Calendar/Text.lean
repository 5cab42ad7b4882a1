import Fabricate.Calendar.Time
import Fabricate.Decimal.Integer
import Fabricate.Text.Blank

/-!
# The text of dates and times

Dates are written as year, month and day with dashes. The years 0 to 9999 have four digits; all
others have a sign and at least four. Reading takes one to four digits without a sign, any number of
them after one, months and days of one or two digits, and blanks before each number.
-/

namespace Fabricate.Calendar

open Decimal

/-- The text of a year. -/
def yearText (year : Int) : List Char :=
  if year < 0 then '-' :: padded 4 year.natAbs
  else if year ≤ 9999 then padded 4 year.natAbs
  else '+' :: padded 4 year.natAbs

/-- The text of a date. -/
def Date.text (d : Date) : List Char :=
  yearText d.year ++ '-' :: padded 2 d.month ++ '-' :: padded 2 d.day

/-- The text of a time. -/
def Time.text (t : Time) : List Char :=
  padded 2 t.hour ++ ':' :: padded 2 t.minute ++ ':' :: padded 2 t.shownSecond

/-- The text of a timestamp. -/
def Timestamp.text (t : Timestamp) : List Char :=
  t.date.text ++ 'T' :: t.time.text

/-- One to `width` digits at the start, and the rest. -/
def readDigits? (width : Nat) (cs : List Char) : Option (Nat × List Char) :=
  let ds := (cs.takeWhile Char.isDigit).take width
  if ds.isEmpty then none else some (natOf ds, cs.drop ds.length)

/-- A year at the start after blanks, and the rest. -/
def readYear? (cs : List Char) : Option (Int × List Char) :=
  match Text.trimStart cs with
  | '-' :: r => (readDigits? r.length r).map fun (n, left) => (-(n : Int), left)
  | '+' :: r => (readDigits? r.length r).map fun (n, left) => ((n : Int), left)
  | r => (readDigits? 4 r).map fun (n, left) => ((n : Int), left)

/-- The rest after a dash. Where `loose`, blanks may come before it. -/
def afterDash? (loose : Bool) (cs : List Char) : Option (List Char) :=
  match if loose then Text.trimStart cs else cs with
  | '-' :: r => some r
  | _ => none

/-- The date that the whole text denotes. Where `loose`, blanks may also come before the dashes and
at the end. -/
def readDate? (loose : Bool) (cs : List Char) : Option Date := do
  let (year, r) ← readYear? cs
  let r ← afterDash? loose r
  let (month, r) ← readDigits? 2 (Text.trimStart r)
  let r ← afterDash? loose r
  let (day, r) ← readDigits? 2 (Text.trimStart r)
  if (if loose then Text.trimStart r else r).isEmpty then Date.ofCivil? year month day else none

end Fabricate.Calendar
