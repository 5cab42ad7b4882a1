import Fabricate.Generator.Lorem
import Fabricate.Generator.Person
import Fabricate.Generator.Table.Choice
import Fabricate.Generator.Table.Names
import Fabricate.Generator.Table.Places
import Fabricate.Generator.Table.Things
import Fabricate.Generator.Table.Words

/-!
# A source of texts from tables

A small catalog for the command line: most texts are a choice from a table, or a form chosen from
one whose marks become digits, and not all of them follow the locale.
-/

namespace Fabricate.Generator.Table

open Fabricate.Random

/-- Two texts of tables with a blank between them. -/
def drawPair (first second : Array String) : Draw String := do
  let a ← pickText first
  return a ++ " " ++ (← pickText second)

/-- A user named after a person and a number. -/
def drawUser : Draw String := do
  let label := hostLabel (← pickText lastNamesEnUS)
  return label ++ String.ofList (Decimal.ofNat (← below 1 100))

/-- A mail address at one of the hosts. -/
def drawMail (hosts : Array String) : Draw String := do
  let user ← drawUser
  return user ++ "@" ++ (← pickText hosts)

/-- A number below `n`, as the remainder of a word. -/
def drawRest (n : Nat) : Draw Nat := do
  return (← next32).toNat % n

/-- The capital hexadecimal digits of a number. -/
def capitalHex (n : Nat) : List Char :=
  (Nat.toDigits 16 n).map Char.toUpper

/-- The capital hexadecimal digits of a number, two at least. -/
def capitalHexPair (n : Nat) : List Char :=
  List.replicate (2 - (capitalHex n).length) '0' ++ capitalHex n

/-- An address of numbers drawn below a bound and written between separators. -/
def drawAddress (count bound : Nat) (separator : Char) (write : Nat → List Char) :
    Draw String := do
  let parts ← repeated (drawRest bound) count
  return String.ofList (List.intercalate [separator] (parts.map write))

/-- A colour as six hexadecimal digits. -/
def drawHexColor : Draw String := do
  let digits ← repeated (below 0 16) 6
  return String.ofList ('#' :: (digits.flatMap (Nat.toDigits 16)).map Char.toUpper)

/-- A colour as three numbers. -/
def drawRgbColor : Draw String := do
  let parts ← repeated (below 0 256) 3
  return "rgb(" ++ String.ofList (List.intercalate [',', ' '] (parts.map Decimal.ofNat)) ++ ")"

/-- The number of a credit card. -/
def drawCard : Draw String := do
  return String.ofList (← fillForm "4###############".toList)

/-- A file named after a product. -/
def drawFile : Draw String := do
  let name ← pickText products
  return name ++ "." ++ (← pickText fileExtensions)

/-- A file in a folder. -/
def drawPath : Draw String := do
  let folder ← pickText products
  return "/" ++ folder ++ "/" ++ (← drawFile)

/-- A text of that kind. -/
def drawText (l : Locale) : TextKind → Draw String
  | .name => drawPair (firstNames l) (lastNames l)
  | .firstName => pickText (firstNames l)
  | .lastName => pickText (lastNames l)
  | .title => pickText titles
  | .nameSuffix => pickText nameSuffixes
  | .freeEmail => drawMail mailHosts
  | .safeEmail => drawMail safeHosts
  | .userName => drawUser
  | .ipv4 => drawAddress 4 256 '.' Decimal.ofNat
  | .ipv6 => drawAddress 8 65536 ':' capitalHex
  | .macAddress => drawAddress 6 256 ':' capitalHexPair
  | .userAgent => pickText agents
  | .domainSuffix => pickText domainSuffixes
  | .city => pickText (cities l)
  | .state => pickText (states l)
  | .stateAbbreviation => pickText stateAbbreviations
  | .country => pickText (countries l)
  | .countryCode => pickText countryCodes
  | .street => drawPair (lastNames l) streetKinds
  | .buildingNumber => fillPicked buildingForms
  | .zipCode => fillPicked zipForms
  | .postCode => fillPicked postcodeForms
  | .company => drawPair (lastNames l) companySuffixes
  | .companySuffix => pickText companySuffixes
  | .catchPhrase => drawPair slogans products
  | .business => drawPair activities products
  | .industry => pickText industries
  | .job => drawPair ranks occupations
  | .word => pickText words
  | .phoneNumber => fillPicked phoneForms
  | .cellNumber => fillPicked cellForms
  | .hexColor => drawHexColor
  | .rgbColor => drawRgbColor
  | .creditCardNumber => drawCard
  | .currencyCode => pickText currencyCodes
  | .currencyName => pickText currencyNames
  | .fileName => drawFile
  | .fileExtension => pickText fileExtensions
  | .filePath => drawPath

/-- A password of letters and digits. -/
def drawPassword (low high : Nat) : Draw String := do
  let n ← below low high
  return String.join (← repeated (pickText passwordChars) n)

/-- A sentence of words with blanks between them and a dot at the end. -/
def drawSentence (low high : Nat) : Draw Sentence := do
  let n ← below low high
  let words ← repeated (pickText words) n
  return ⟨joined [' '] (words.map String.toList) ++ ['.'],
    List.append_ne_nil_of_right_ne_nil _ (List.cons_ne_nil _ _)⟩

/-- A paragraph with each sentence on a line of its own. -/
def drawParagraph (low high : Nat) : Draw String := do
  let n ← below low high
  return String.ofList (joined ['\n'] ((← repeated (drawSentence 4 10) n).map Sentence.text))

end Fabricate.Generator.Table

namespace Fabricate.TextSource

open Generator

/-- The source of texts from tables. -/
def tabled : TextSource where
  text kind l := Table.drawText l kind
  password low high _ := Table.drawPassword low high
  sentence low high _ := Table.drawSentence low high
  paragraph low high _ := Table.drawParagraph low high

end Fabricate.TextSource
