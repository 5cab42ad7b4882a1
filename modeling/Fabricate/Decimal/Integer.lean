import Fabricate.Word

/-!
# Decimal integers

The text of an integer is a sign for the negative ones and its decimal digits. Reading accepts more
than writing produces: a plus sign and leading zeros. Digits are the ten ASCII ones.
-/

namespace Fabricate.Decimal

/-- A text of one or more decimal digits. -/
def isDigits (cs : List Char) : Bool :=
  !cs.isEmpty && cs.all Char.isDigit

/-- The decimal digits of a natural number. -/
def ofNat (n : Nat) : List Char :=
  Nat.toDigits 10 n

/-- The number that a row of digits denotes, leading zeros included. -/
def natOf (cs : List Char) : Nat :=
  Nat.ofDigitChars 10 cs 0

/-- The text of an integer. -/
def ofInt : Int → List Char
  | .ofNat n => ofNat n
  | .negSucc n => '-' :: ofNat (n + 1)

/-- Whether a sign says minus, and the text after the sign, if any. -/
def splitSign : List Char → Bool × List Char
  | '-' :: r => (true, r)
  | '+' :: r => (false, r)
  | cs => (false, cs)

/-- The number of a non-empty row of digits. -/
def nat? (cs : List Char) : Option Nat :=
  if isDigits cs then some (natOf cs) else none

/-- The integer of an optional sign and a non-empty row of digits. -/
def int? (cs : List Char) : Option Int :=
  let (negative, digits) := splitSign cs
  (nat? digits).map fun n => if negative then -(n : Int) else n

/-- The unsigned word of an optional plus sign and a non-empty row of digits, if it fits. -/
def word? (cs : List Char) : Option UInt64 :=
  let digits := if cs.head? = some '+' then cs.tail else cs
  (nat? digits).bind Word.unsigned?

/-- The digits, with zeros in front up to the given width. -/
def padded (width n : Nat) : List Char :=
  let ds := ofNat n
  List.replicate (width - ds.length) '0' ++ ds

end Fabricate.Decimal
