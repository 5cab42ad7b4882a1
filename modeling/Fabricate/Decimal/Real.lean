import Fabricate.Decimal.Integer

/-!
# Decimal reals

A decimal literal is an optional sign and digits with at most one point among them, at least one
digit in all. It denotes the double nearest to its exact value, infinity when that is out of range.
The other written forms, with an exponent or by the names of infinity and of the value that is no
number, are read only where no literal is asked for.
-/

namespace Fabricate.Decimal

/-- Digits with a point among them, cut at the point; none for anything else. -/
def pointed? (cs : List Char) : Option (List Char × List Char) :=
  match cs.dropWhile Char.isDigit with
  | '.' :: fraction =>
      let whole := cs.takeWhile Char.isDigit
      if fraction.all Char.isDigit && !(whole.isEmpty && fraction.isEmpty) then
        some (whole, fraction)
      else none
  | _ => none

/-- The power of ten beyond which nothing but zero is in the range of a double. -/
def farPower : Nat := 400

/-- The double nearest to `digits * 10 ^ power`, with a sign. Powers far out of range are not worked
out. -/
def signedReal (negative : Bool) (digits : Nat) (power : Int) : Float :=
  let x :=
    if digits = 0 ∨ power < -(farPower + digits.log2 : Nat) then 0.0
    else if farPower < power then 1.0 / 0.0
    else Float.ofScientific digits (power < 0) power.natAbs
  if negative then -x else x

/-- The double of an optional sign and digits with or without a point. -/
def literal? (cs : List Char) : Option Float :=
  let (negative, digits) := splitSign cs
  if isDigits digits then some (signedReal negative (natOf digits) 0)
  else
    (pointed? digits).map fun (whole, fraction) =>
      signedReal negative (natOf (whole ++ fraction)) (-fraction.length)

/-- The digits before the letter of an exponent and the exponent after it; without a letter, all
the characters and zero. -/
def splitExponent? (cs : List Char) : Option (List Char × Int) :=
  match cs.dropWhile fun c => c != 'e' && c != 'E' with
  | [] => some (cs, 0)
  | _ :: exponent => (int? exponent).map (cs.takeWhile fun c => c != 'e' && c != 'E', ·)

/-- The double of any written form: a literal with or without an exponent, `inf`, `infinity` or
`nan`. -/
def real? (cs : List Char) : Option Float :=
  let (negative, unsigned) := splitSign cs
  let name := unsigned.map Char.toLower
  let special? : Option Float :=
    if name = "inf".toList || name = "infinity".toList then some (1.0 / 0.0)
    else if name = "nan".toList then some (0.0 / 0.0)
    else none
  match special? with
  | some x => some (if negative then -x else x)
  | none => do
      let (digits, exponent) ← splitExponent? unsigned
      if isDigits digits then return signedReal negative (natOf digits) exponent
      let (whole, fraction) ← pointed? digits
      return signedReal negative (natOf (whole ++ fraction)) (exponent - fraction.length)

end Fabricate.Decimal
