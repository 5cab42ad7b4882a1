import Fabricate.Decimal.Integer
import Fabricate.Decimal.Shortest

/-!
# Layouts of a real number

A layout says how the shortest decimal of a double is written: for which exponents in positional
notation, whether an integral value keeps a point, which of two equally near decimals is taken, and
what stands for the values that are no numbers. But for such ties the digits are the same in every
layout.
-/

namespace Fabricate.Decimal

/-- The decisions of one written form of doubles. The exponent of `d.ddd * 10 ^ e` is `e`. -/
structure Layout where
  /-- Exponents written in positional notation; the others are written after the mark `e`. -/
  positional : Int → Bool
  /-- Whether `.0` follows an integral value in positional notation. -/
  keepsPoint : Bool
  tie : Tie
  notANumber : String
  infinity : String

/-- The sign, the digits and a point after the first `point` of them, with zeros where the point
lies outside the digits. -/
def positionalText (keepsPoint : Bool) (digits : List Char) (point : Int) : List Char :=
  let n := digits.length
  if point ≤ 0 then '0' :: '.' :: (List.replicate (-point).toNat '0' ++ digits)
  else if point < n then digits.take point.toNat ++ '.' :: digits.drop point.toNat
  else
    digits ++ List.replicate (point.toNat - n) '0' ++ (if keepsPoint then ['.', '0'] else [])

/-- One digit, a point before the others if there are any, and the exponent with its sign. -/
def exponentText (digits : List Char) (e : Int) : List Char :=
  let mark := if e < 0 then ['e', '-'] else ['e', '+']
  let exponent := mark ++ ofNat e.natAbs
  match digits with
  | d :: r :: rs => d :: '.' :: (r :: rs ++ exponent)
  | ds => ds ++ exponent

/-- The text of a positive decimal. -/
def Layout.ofScaled (l : Layout) (s : Scaled) : List Char :=
  let digits := ofNat s.digits
  let point := s.power + digits.length
  if l.positional (point - 1) then positionalText l.keepsPoint digits point
  else exponentText digits (point - 1)

/-- The text of a double. -/
def Layout.text (l : Layout) (x : Float) : List Char :=
  let bits := x.toBits
  let negative := bits.toNat / 9223372036854775808 = 1
  let field := bits.toNat / 4503599627370496 % 2048
  let fraction := bits.toNat % 4503599627370496
  if field = 2047 ∧ fraction ≠ 0 then l.notANumber.toList
  else
    (if negative then ['-'] else []) ++
      (if field = 2047 then l.infinity.toList
      else if field = 0 ∧ fraction = 0 then '0' :: (if l.keepsPoint then ['.', '0'] else [])
      else l.ofScaled ((Binary.ofBits bits).shortest l.tie))

/-- Text shown to a reader: never an exponent, and no point after an integral value. -/
def Layout.plain : Layout where
  positional _ := true
  keepsPoint := false
  tie := .greater
  notANumber := "NaN"
  infinity := "inf"

end Fabricate.Decimal
