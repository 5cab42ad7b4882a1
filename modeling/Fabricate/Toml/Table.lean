import Fabricate.Fields

/-!
# TOML tables

A document is a table whose entries are given one after the other, by headers and by assignments. A
key may be given once. A table may be given by parts in two ways, through the headers of the tables
inside it and through dotted keys, and its origin says how it came about: a header may still define
a table that was only implied, and a dotted key may still reach into one that dotted keys made. What
was written between braces is closed.
-/

namespace Fabricate.Toml

/-- How a table came about. -/
inductive Origin where
  /-- It was written between braces. -/
  | inline
  /-- A header named it, or it is the document. -/
  | defined
  /-- The header of a table inside it named it on the way. -/
  | implied
  /-- A dotted key named it on the way. -/
  | dotted
  deriving DecidableEq

/-- A TOML value. -/
inductive Value where
  | string (s : String)
  | integer (n : Int64)
  | real (x : Float)
  | boolean (b : Bool)
  /-- A date, a time or both. -/
  | moment (text : String)
  | array (items : List Value)
  | table (origin : Origin) (entries : List (String × Value))
  /-- The tables of headers in double brackets. -/
  | tables (rows : List (List (String × Value)))

instance : Inhabited Value := ⟨.boolean false⟩

/-- The entries of a table. -/
abbrev Entries := Fields Value

/-- A change of a table, given its origin and its entries; it may be refused. -/
abbrev Change := Origin → Entries → Option Entries

/-- Changes the table at the end of a path, making the tables on the way that are missing. In a row
of tables the last one is meant. Dotted keys do not reach into a table that a header defined. -/
def changeAt (dotted : Bool) (change : Change) : List String → Change
  | [], origin, entries => change origin entries
  | key :: path, _, entries =>
      match Fields.get? entries key with
      | none =>
          let origin := if dotted then Origin.dotted else .implied
          (changeAt dotted change path origin []).map fun sub =>
            Fields.put entries key (.table origin sub)
      | some (.table origin sub) =>
          if origin = .inline ∨ (dotted ∧ origin = .defined) then none
          else
            (changeAt dotted change path origin sub).map fun sub =>
              Fields.put entries key (.table origin sub)
      | some (.tables rows) =>
          match rows.getLast? with
          | none => none
          | some row =>
              (changeAt dotted change path .defined row).map fun row =>
                Fields.put entries key (.tables (rows.dropLast ++ [row]))
      | some _ => none

/-- Puts a value under a new key. Behind dots the table must be one that dotted keys made, and
without dots it must not be one. -/
def putNew (behindDots : Bool) (key : String) (v : Value) : Change := fun origin entries =>
  if (origin = .dotted) ≠ (behindDots = true) ∨ Fields.has entries key = true then none
  else some (Fields.put entries key v)

/-- Gives a value to the key at the end of a dotted path. -/
def assign (dots : List String) (key : String) (v : Value) : Change :=
  changeAt true (putNew (!dots.isEmpty) key v) dots

/-- Defines the table of a header, which may have been implied before. -/
def define (key : String) : Change := fun _ entries =>
  match Fields.get? entries key with
  | none => some (Fields.put entries key (.table .defined []))
  | some (.table .implied sub) => some (Fields.put entries key (.table .defined sub))
  | some _ => none

/-- Adds a table to the row of a header in double brackets. -/
def addRow (key : String) : Change := fun _ entries =>
  match Fields.get? entries key with
  | none => some (Fields.put entries key (.tables [[]]))
  | some (.tables rows) => some (Fields.put entries key (.tables (rows ++ [[]])))
  | some _ => none

/-- One statement of a document. Keys are given as the path before the last dot and the rest. -/
inductive Statement where
  | assignment (dots : List String) (key : String) (v : Value)
  | header (path : List String) (key : String)
  | rowHeader (path : List String) (key : String)

/-- A document so far: its entries and the path of the table that assignments go to. -/
structure Document where
  entries : Entries
  current : List String

/-- The document after one more statement, unless the statement is refused. -/
def Document.add (d : Document) : Statement → Option Document
  | .assignment dots key v =>
      (changeAt false (assign dots key v) d.current .defined d.entries).map fun entries =>
        { d with entries := entries }
  | .header path key =>
      (changeAt false (define key) path .defined d.entries).map fun entries =>
        ⟨entries, path ++ [key]⟩
  | .rowHeader path key =>
      (changeAt false (addRow key) path .defined d.entries).map fun entries =>
        ⟨entries, path ++ [key]⟩

end Fabricate.Toml
