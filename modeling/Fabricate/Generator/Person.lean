import Fabricate.Generator.Number
import Fabricate.Generator.Source

/-!
# Persons, hosts and addresses on networks
-/

namespace Fabricate.Generator

open Fabricate.Random

variable (source : TextSource)

/-- A name, a first name and a last name, and what stands around them. -/
def person : List Generator :=
  [textGenerator "name" "person" (source.text .name),
    textGenerator "first_name" "person" (source.text .firstName),
    textGenerator "last_name" "person" (source.text .lastName),
    textGenerator "prefix" "person" (source.text .title),
    textGenerator "suffix" "person" (source.text .nameSuffix)]

/-- The ASCII letters and digits of a text, the letters small; `example` when there are none. -/
def hostLabel (s : String) : String :=
  let cs := (s.toList.filter Char.isAlphanum).map Char.toLower
  if cs.isEmpty then "example" else String.ofList cs

/-- A host named after a person. The label is made of an American name in every locale, and the
ending is one of the locale. -/
def drawHost (l : Locale) : Draw String := do
  let label := hostLabel (← source.text .lastName .enUS)
  return label ++ "." ++ (← source.text .domainSuffix l)

/-- The address of a page at a host. -/
def drawUrl (l : Locale) : Draw String := do
  return "https://www." ++ (← drawHost source l) ++ "/"

/-- A password of a number of characters. -/
def password : Generator :=
  .ofProduce "password" "internet" [⟨"length", .int, false⟩] fun context params => do
    let length ← bounded params "length" 12 4 128
    return .text (← source.password length (length + 1) context.locale)

/-- Users, hosts and addresses on networks. -/
def internet : List Generator :=
  [textGenerator "email" "internet" (source.text .freeEmail),
    textGenerator "free_email" "internet" (source.text .freeEmail),
    textGenerator "safe_email" "internet" (source.text .safeEmail),
    textGenerator "user_name" "internet" (source.text .userName),
    password source,
    textGenerator "ipv4" "internet" (source.text .ipv4),
    textGenerator "ipv6" "internet" (source.text .ipv6),
    textGenerator "mac_address" "internet" (source.text .macAddress),
    textGenerator "user_agent" "internet" (source.text .userAgent),
    textGenerator "domain_name" "internet" (drawHost source),
    textGenerator "url" "internet" (drawUrl source)]

end Fabricate.Generator
