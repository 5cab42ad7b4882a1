import Fabricate.Random.Stream

/-!
# Choices from tables

Most made-up texts are a choice from a table, or a form chosen from a table whose marks become
digits.
-/

namespace Fabricate.Generator.Table

open Fabricate.Random

/-- One of the texts of a table. -/
def pickText (table : Array String) : Draw String := do
  return (← pick? table).getD ""

/-- A number from `low` up to but not including `high`. -/
def below (low high : Nat) : Draw Nat := do
  return low + (← below32 (high - low))

/-- What one character of a form becomes: `#` a digit, `^` a digit but zero. -/
def drawFormChar (c : Char) : Draw Char := do
  if c = '^' then return Char.ofNat (48 + (← below 1 10))
  else if c = '#' then return Char.ofNat (48 + (← below 0 10))
  else return c

/-- The form with its marks filled from left to right. -/
def fillForm : List Char → Draw (List Char)
  | [] => return []
  | c :: r => do
      let d ← drawFormChar c
      let rest ← fillForm r
      return d :: rest

/-- A form of a table, filled. -/
def fillPicked (table : Array String) : Draw String := do
  let form ← pickText table
  return String.ofList (← fillForm form.toList)

end Fabricate.Generator.Table
