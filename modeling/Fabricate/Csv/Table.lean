import Fabricate.Json.Printer

/-!
# Tables of documents

A document becomes one row. Its cells are the values reached through objects that are not empty,
each under the dotted path to it; a document that is no object has one cell, under `value`. The
columns of a table are those of its rows in the order in which they first occur, and where a row has
several cells under one name the last of them counts.
-/

namespace Fabricate.Csv

open Json

/-- The cells of one document in order: the name of the column and the text. -/
abbrev Cells := List (String × String)

/-- The text of a cell: nothing for null, a text as it is, and JSON text for everything else. -/
def cellText : Value → String
  | .null => ""
  | .string s => s
  | v => v.render

mutual

/-- The cells of a value under the name of a column. -/
def cells (column : String) : Value → Cells
  | .object (field :: fields) => fieldCells (column ++ ".") (field :: fields)
  | v => [(column, cellText v)]

/-- The cells of fields whose columns begin with the same text. -/
def fieldCells (start : String) : List (String × Value) → Cells
  | [] => []
  | (name, v) :: rest => cells (start ++ name) v ++ fieldCells start rest

end

/-- The column of a document that is no object. -/
def valueColumn : String := "value"

/-- The cells of a document. -/
def documentCells : Value → Cells
  | .object fields => fieldCells "" fields
  | v => [(valueColumn, cellText v)]

/-- The names of columns without repetitions, in the order in which they first occur. -/
def columns (rows : List Cells) : List String :=
  (rows.flatMap fun row => row.map Prod.fst).eraseDups

/-- The text under a column: that of the last cell of that name, or nothing. -/
def under (row : Cells) (column : String) : String :=
  ((row.reverse.find? fun (name, _) => name = column).map Prod.snd).getD ""

/-- A table: the names of its columns and its rows. -/
structure Table where
  header : List String
  rows : List (List String)
  deriving DecidableEq

/-- The table of some documents, one row for each. -/
def Table.ofDocuments (documents : List Value) : Table :=
  let rows := documents.map documentCells
  let header := columns rows
  ⟨header, rows.map fun row => header.map (under row)⟩

end Fabricate.Csv
