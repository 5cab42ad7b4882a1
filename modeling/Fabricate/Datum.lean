import Fabricate.Calendar.Text
import Fabricate.Json.Printer

/-!
# Generated values

A generated value is placed into a document in one of two ways: alone it becomes a JSON value, next
to other text it is shown. Dates, times and timestamps are texts either way; a real that is no
number becomes null, and no generated value becomes an object.
-/

namespace Fabricate

open Calendar Json

/-- A generated value. -/
inductive Datum where
  | null
  | bool (b : Bool)
  | int (n : Int64)
  | float (x : Float)
  | text (s : String)
  | date (d : Date)
  | time (t : Time)
  | timestamp (t : Timestamp)
  | list (items : List Datum)

namespace Datum

mutual

/-- The text that is shown. The items of a list stand between commas. -/
def shown : Datum → List Char
  | null => []
  | bool b => (if b then "true" else "false").toList
  | int n => Decimal.ofInt n.toInt
  | float x => Decimal.Layout.plain.text x
  | text s => s.toList
  | date d => d.text
  | time t => t.text
  | timestamp t => t.text
  | list items => shownItems items

/-- The items with commas and blanks between them. -/
def shownItems : List Datum → List Char
  | [] => []
  | [v] => v.shown
  | v :: rest => v.shown ++ ',' :: ' ' :: shownItems rest

end

/-- The text that is shown, as a string. -/
def display (v : Datum) : String :=
  String.ofList v.shown

mutual

/-- The JSON value that fills a place alone. -/
def toJson : Datum → Value
  | null => .null
  | bool b => .bool b
  | int n => .ofInt64 n
  | float x => .ofFloat x
  | text s => .string s
  | date d => .string (String.ofList d.text)
  | time t => .string (String.ofList t.text)
  | timestamp t => .string (String.ofList t.text)
  | list items => .array (toJsonItems items)

/-- The JSON values of the items. -/
def toJsonItems : List Datum → List Value
  | [] => []
  | v :: rest => v.toJson :: toJsonItems rest

end

end Datum

end Fabricate
