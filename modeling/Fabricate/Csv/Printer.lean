import Fabricate.Csv.Table

/-!
# Writing tables

Fields stand between commas and every record ends its line. A field that holds a comma, a quote or
an end of line is put between quotes, with its own quotes doubled. A record must not look like an
empty line, so one that would is written as an empty field between quotes.
-/

namespace Fabricate.Csv

/-- Whether a field must stand between quotes. -/
def needsQuotes (field : List Char) : Bool :=
  field.any fun c => c = ',' || c = '"' || c = '\r' || c = '\n'

/-- The characters of a field with every quote doubled. -/
def doubled : List Char → List Char
  | [] => []
  | '"' :: cs => '"' :: '"' :: doubled cs
  | c :: cs => c :: doubled cs

/-- A field as it is written. -/
def fieldText (field : List Char) : List Char :=
  if needsQuotes field then '"' :: doubled field ++ ['"'] else field

/-- A record as it is written. -/
def recordText (fields : List String) : List Char :=
  let line := [','].intercalate (fields.map fun f => fieldText f.toList)
  (if line.isEmpty then ['"', '"'] else line) ++ ['\n']

/-- A table as it is written, header first. -/
def Table.text (t : Table) : List Char :=
  recordText t.header ++ t.rows.flatMap recordText

/-- The text of the table of some documents. -/
def ofDocuments (documents : List Json.Value) : String :=
  String.ofList (Table.ofDocuments documents).text

end Fabricate.Csv
