import Fabricate.Text.Blank

/-!
# Locales

The locales in which values can be made. A tag is read up to case and up to the choice between a
dash and an underscore; `en` alone is American English.
-/

namespace Fabricate

/-- A supported locale. -/
inductive Locale where
  | enUS
  | frFR
  | ptBR
  | jaJP
  | zhCN
  | zhTW
  | arSA
  deriving DecidableEq

namespace Locale

/-- All locales, in the order in which they are listed. -/
def all : List Locale := [enUS, frFR, ptBR, jaJP, zhCN, zhTW, arSA]

/-- The canonical tag. -/
def tag : Locale → String
  | enUS => "en_US"
  | frFR => "fr_FR"
  | ptBR => "pt_BR"
  | jaJP => "ja_JP"
  | zhCN => "zh_CN"
  | zhTW => "zh_TW"
  | arSA => "ar_SA"

/-- The tag in small letters, with underscores for dashes and without blanks around it. -/
def plainTag (tag : String) : List Char :=
  Text.asciiLower ((Text.trim tag.toList).map fun c => if c = '-' then '_' else c)

/-- The locale that a tag names. -/
def parse? (tag : String) : Option Locale :=
  let plain := plainTag tag
  if plain = "en".toList then some enUS
  else all.find? fun l => Text.asciiLower l.tag.toList = plain

end Locale

end Fabricate
