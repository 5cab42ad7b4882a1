import Fabricate.Generator.Basic

/-!
# Text generators

Patterns whose marks become digits and letters, a choice among given texts, and identifiers.
-/

namespace Fabricate.Generator

open Fabricate.Random

/-- The letters of the alphabet, small ones first. -/
def letters : Array Char :=
  "abcdefghijklmnopqrstuvwxyzABCDEFGHIJKLMNOPQRSTUVWXYZ".toList.toArray

/-- A letter. -/
def drawLetter : Draw Char := do
  return letters.getD (← below32 letters.size) 'a'

/-- The digit of a number below ten. -/
def digitOf (n : Nat) : Char :=
  Char.ofNat (48 + n)

/-- What one character of a pattern becomes: `#` a digit, `%` a digit but zero, `?` a letter; only
digits or only letters are made where the other is switched off. -/
def drawMark (withDigits withLetters : Bool) (c : Char) : Draw Char := do
  if c = '#' ∧ withDigits = true then return digitOf (← below32 10)
  else if c = '%' ∧ withDigits = true then return digitOf (1 + (← below32 9))
  else if c = '?' ∧ withLetters = true then drawLetter
  else return c

/-- A pattern with its marks filled from left to right. -/
def fillMarks (withDigits withLetters : Bool) : List Char → Draw (List Char)
  | [] => return []
  | c :: r => do
      let d ← drawMark withDigits withLetters c
      let rest ← fillMarks withDigits withLetters r
      return d :: rest

/-- A filled pattern, given as a text. -/
def pattern (id standard : String) (withDigits withLetters : Bool) : Generator :=
  .ofProduce id "text" [⟨"text", .string, false⟩] fun _ params => do
    let marks := (params.text? "text").getD standard
    return .text (String.ofList (← fillMarks withDigits withLetters marks.toList))

/-- A letter. -/
def randomLetter : Generator :=
  .ofProduce "random_letter" "text" [] fun _ _ => do
    return .text (String.singleton (← drawLetter))

/-- The texts to choose from: the trimmed pieces between bars that are not empty. -/
def choices (text : String) : List String :=
  (((Text.splitAll '|' text.toList).map Text.trim).filter fun piece => !piece.isEmpty).map
    String.ofList

/-- One of the texts given. -/
def randomElement : Generator :=
  .ofProduce "random_element" "text" [⟨"elements", .string, true⟩] fun _ params => do
    match ← pick? (choices ((params.text? "elements").getD "")).toArray with
    | some s => return .text s
    | none => refuse "random_element: elements must not be empty"

/-- A social security number, which starts with no zero. -/
def ssn : Generator :=
  .ofProduce "ssn" "person" [] fun _ _ => do
    return .text (String.ofList (← fillMarks true false "%##-##-####".toList))

/-- The bytes of a word, the lowest first. -/
def bytesOf (w : UInt32) : List Nat :=
  [w.toNat % 256, w.toNat / 256 % 256, w.toNat / 65536 % 256, w.toNat / 16777216]

/-- Two small hexadecimal digits. -/
def byteText (n : Nat) : List Char :=
  [Json.hexDigit (n / 16), Json.hexDigit (n % 16)]

/-- The bytes of a random identifier: the seventh says version four and the ninth the variant. -/
def markVersion (bytes : List Nat) : List Nat :=
  let bytes := bytes.modify 6 fun b => b % 16 + 64
  bytes.modify 8 fun b => b % 64 + 128

/-- The bytes in hexadecimal, in groups of four, two, two, two and six. -/
def groupedText (bytes : List Nat) : List Char :=
  let group (first size : Nat) := ((bytes.drop first).take size).flatMap byteText
  group 0 4 ++ '-' :: group 4 2 ++ '-' :: group 6 2 ++ '-' :: group 8 2 ++ '-' :: group 10 6

/-- A random identifier. -/
def uuid4 : Generator :=
  .ofProduce "uuid4" "identifier" [] fun _ _ => do
    let words ← repeated next32 4
    return .text (String.ofList (groupedText (markVersion (words.flatMap bytesOf))))

end Fabricate.Generator
