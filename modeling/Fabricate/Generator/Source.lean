import Fabricate.Generator.Basic

/-!
# Sources of made-up text

Names, addresses, companies and prose come from a catalog of data that is no part of the library. A
source is what the generators rely on of it: a way to draw each kind of text in each locale, and for
the kinds that are asked for by length one that is handed the bounds. A text that is drawn depends
on nothing else, and a sentence is not empty; of what the texts say nothing is assumed.
-/

namespace Fabricate

open Fabricate.Random

/-- A sentence: a text of at least one character. -/
structure Generator.Sentence where
  text : List Char
  ne_nil : text ≠ []

/-- The kinds of text that are asked for without bounds. -/
inductive TextKind where
  | name
  | firstName
  | lastName
  | title
  | nameSuffix
  | freeEmail
  | safeEmail
  | userName
  | ipv4
  | ipv6
  | macAddress
  | userAgent
  | domainSuffix
  | city
  | state
  | stateAbbreviation
  | country
  | countryCode
  | street
  | buildingNumber
  | zipCode
  | postCode
  | company
  | companySuffix
  | catchPhrase
  | business
  | industry
  | job
  | word
  | phoneNumber
  | cellNumber
  | hexColor
  | rgbColor
  | creditCardNumber
  | currencyCode
  | currencyName
  | fileName
  | fileExtension
  | filePath

/-- How texts are drawn. Where there are bounds, the first one belongs to the range and the second
one does not. -/
structure TextSource where
  text : TextKind → Locale → Draw String
  /-- A password of a number of characters within the bounds. -/
  password : Nat → Nat → Locale → Draw String
  /-- A sentence of a number of words within the bounds. -/
  sentence : Nat → Nat → Locale → Draw Generator.Sentence
  /-- A paragraph of a number of sentences within the bounds. -/
  paragraph : Nat → Nat → Locale → Draw String

/-- A generator of texts without parameters, which may depend on the locale. -/
def Generator.textGenerator (id provider : String) (draw : Locale → Draw String) : Generator :=
  .ofProduce id provider [] fun context _ => do
    return .text (← draw context.locale)

end Fabricate
