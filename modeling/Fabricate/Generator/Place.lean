import Fabricate.Generator.Number
import Fabricate.Generator.Source

/-!
# Addresses, companies and things
-/

namespace Fabricate.Generator

open Fabricate.Random

variable (source : TextSource)

/-- The number of a building and its street. -/
def drawStreetAddress (l : Locale) : Draw String := do
  let number ← source.text .buildingNumber l
  return number ++ " " ++ (← source.text .street l)

/-- A whole address on one line. -/
def drawFullAddress (l : Locale) : Draw String := do
  let street ← drawStreetAddress source l
  let city ← source.text .city l
  let state ← source.text .stateAbbreviation l
  let zip ← source.text .zipCode l
  return street ++ ", " ++ city ++ ", " ++ state ++ " " ++ zip

/-- Addresses and their parts. -/
def address : List Generator :=
  [textGenerator "city" "address" (source.text .city),
    textGenerator "state" "address" (source.text .state),
    textGenerator "state_abbr" "address" (source.text .stateAbbreviation),
    textGenerator "country" "address" (source.text .country),
    textGenerator "country_code" "address" (source.text .countryCode),
    textGenerator "street_name" "address" (source.text .street),
    textGenerator "building_number" "address" (source.text .buildingNumber),
    textGenerator "zipcode" "address" (source.text .zipCode),
    textGenerator "postcode" "address" (source.text .postCode),
    textGenerator "street_address" "address" (drawStreetAddress source),
    textGenerator "address" "address" (drawFullAddress source)]

/-- Companies, their slogans and the work in them. -/
def company : List Generator :=
  [textGenerator "company" "company" (source.text .company),
    textGenerator "company_suffix" "company" (source.text .companySuffix),
    textGenerator "catch_phrase" "company" (source.text .catchPhrase),
    textGenerator "bs" "company" (source.text .business),
    textGenerator "industry" "company" (source.text .industry),
    textGenerator "job" "company" (source.text .job)]

/-- Telephone numbers. -/
def phone : List Generator :=
  [textGenerator "phone_number" "phone" (source.text .phoneNumber),
    textGenerator "cell_number" "phone" (source.text .cellNumber)]

/-- Names of colours, the same in every locale. -/
def colorNames : Array String :=
  #["AliceBlue", "Aqua", "Beige", "Black", "Blue", "Brown", "Coral", "Crimson", "Cyan",
    "DarkGreen", "Gold", "Gray", "Green", "Indigo", "Ivory", "Khaki", "Lavender", "Lime",
    "Magenta", "Maroon", "Navy", "Olive", "Orange", "Orchid", "Pink", "Plum", "Purple", "Red",
    "Salmon", "Silver", "SkyBlue", "Tan", "Teal", "Tomato", "Turquoise", "Violet", "White",
    "Yellow"]

/-- The name of a colour. It is no text of the source. -/
def colorName : Generator :=
  textGenerator "color_name" "color" fun _ => do
    return (← pick? colorNames).getD "Black"

/-- Colours. -/
def color : List Generator :=
  [colorName,
    textGenerator "hex_color" "color" (source.text .hexColor),
    textGenerator "rgb_color" "color" (source.text .rgbColor)]

/-- Cards and currencies. -/
def finance : List Generator :=
  [textGenerator "credit_card_number" "finance" (source.text .creditCardNumber),
    textGenerator "currency_code" "finance" (source.text .currencyCode),
    textGenerator "currency_name" "finance" (source.text .currencyName)]

/-- Files. -/
def filesystem : List Generator :=
  [textGenerator "file_name" "filesystem" (source.text .fileName),
    textGenerator "file_extension" "filesystem" (source.text .fileExtension),
    textGenerator "file_path" "filesystem" (source.text .filePath)]

end Fabricate.Generator
