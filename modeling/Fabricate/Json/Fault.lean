import Fabricate.Json.Number
import Fabricate.Text.Blank

/-!
# What is said of faults

A text that ends too early is reported with the place of its end: the line, and the number of bytes
in that line.
-/

namespace Fabricate.Json

/-- A place in a text: its line, counted from one, and the bytes before it in that line. -/
structure Place where
  line : Nat
  column : Nat
  deriving DecidableEq

/-- The place at the end of a text. -/
def Place.endOf (text : String) : Place :=
  let cs := text.toList
  ⟨cs.count '\n' + 1, Text.byteLength (cs.reverse.takeWhile (· ≠ '\n'))⟩

/-- The name of a construct. -/
def Construct.name : Construct → String
  | value => "a value"
  | array => "a list"
  | object => "an object"
  | string => "a string"

/-- What is said of a fault in a text that ends at the given place. -/
def Fault.message (f : Fault) (stop : Place) : String :=
  match f with
  | .ended inside =>
      "EOF while parsing " ++ inside.name ++ " at line " ++
        String.ofList (Decimal.ofNat stop.line) ++ " column " ++
        String.ofList (Decimal.ofNat stop.column)
  | .malformed => "the text is malformed"
  | .mistyped => "a value has the wrong type"

end Fabricate.Json
