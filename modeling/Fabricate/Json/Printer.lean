import Fabricate.Json.Basic
import Fabricate.Decimal.Layout

/-!
# JSON text

A value has one compact text, without blanks, and one laid out over lines with two blanks a level.
Both write a string in the same way: a quote, a backslash and the control characters are escaped
and every other character stands for itself.
-/

namespace Fabricate.Json

open Fabricate.Decimal

/-- Doubles in JSON: positional for exponents from -5 to 15, with `.0` after an integral value,
and of two equally near decimals the one with an even last digit. -/
def realLayout : Layout where
  positional e := -5 ≤ e && e ≤ 15
  keepsPoint := true
  tie := .even
  notANumber := "null"
  infinity := "null"

/-- The small hexadecimal digit of a number below sixteen. -/
def hexDigit (n : Nat) : Char :=
  if n < 10 then Char.ofNat (48 + n) else Char.ofNat (87 + n)

/-- How one character is written between quotes. -/
def escapedChar (c : Char) : List Char :=
  if c = '"' then ['\\', '"']
  else if c = '\\' then ['\\', '\\']
  else if c.toNat < 0x20 then
    if c.toNat = 8 then ['\\', 'b']
    else if c.toNat = 9 then ['\\', 't']
    else if c.toNat = 10 then ['\\', 'n']
    else if c.toNat = 12 then ['\\', 'f']
    else if c.toNat = 13 then ['\\', 'r']
    else ['\\', 'u', '0', '0', hexDigit (c.toNat / 16), hexDigit (c.toNat % 16)]
  else [c]

/-- A string between quotes. -/
def quotedText (s : String) : List Char :=
  '"' :: (s.toList.flatMap escapedChar ++ ['"'])

/-- The text of a number. -/
def Number.text : Number → List Char
  | .integer n => ofInt n.val
  | .real x => if x.isFinite then realLayout.text x else "null".toList

mutual

/-- The text of a value without blanks. -/
def Value.compact : Value → List Char
  | .null => "null".toList
  | .bool b => (if b then "true" else "false").toList
  | .number n => n.text
  | .string s => quotedText s
  | .array items => '[' :: (Value.compactItems items ++ [']'])
  | .object fields => '\x7b' :: (Value.compactFields fields ++ ['\x7d'])

/-- The items with commas between them. -/
def Value.compactItems : List Value → List Char
  | [] => []
  | [v] => v.compact
  | v :: rest => v.compact ++ ',' :: Value.compactItems rest

/-- The fields with commas between them. -/
def Value.compactFields : List (String × Value) → List Char
  | [] => []
  | [(name, v)] => quotedText name ++ ':' :: v.compact
  | (name, v) :: rest => quotedText name ++ ':' :: (v.compact ++ ',' :: Value.compactFields rest)

end

/-- A line break and the blanks of a level. -/
def newLine (level : Nat) : List Char :=
  '\n' :: List.replicate (2 * level) ' '

mutual

/-- The text of a value over lines, whose inner lines start at the given level plus one. -/
def Value.prettyAt (level : Nat) : Value → List Char
  | .array [] => ['[', ']']
  | .array items => '[' :: (Value.prettyItems (level + 1) items ++ newLine level ++ [']'])
  | .object [] => ['\x7b', '\x7d']
  | .object fields =>
      '\x7b' :: (Value.prettyFields (level + 1) fields ++ newLine level ++ ['\x7d'])
  | .null => "null".toList
  | .bool b => (if b then "true" else "false").toList
  | .number n => n.text
  | .string s => quotedText s

/-- The items, each on its own line. -/
def Value.prettyItems (level : Nat) : List Value → List Char
  | [] => []
  | [v] => newLine level ++ v.prettyAt level
  | v :: rest => newLine level ++ v.prettyAt level ++ ',' :: Value.prettyItems level rest

/-- The fields, each on its own line. -/
def Value.prettyFields (level : Nat) : List (String × Value) → List Char
  | [] => []
  | [(name, v)] => newLine level ++ quotedText name ++ ':' :: ' ' :: v.prettyAt level
  | (name, v) :: rest =>
      newLine level ++ quotedText name ++ ':' :: ' ' :: (v.prettyAt level) ++
        ',' :: Value.prettyFields level rest

end

/-- The text of a value without blanks. -/
def Value.render (v : Value) : String :=
  String.ofList v.compact

/-- The text of a value over lines. -/
def Value.renderPretty (v : Value) : String :=
  String.ofList (v.prettyAt 0)

end Fabricate.Json
