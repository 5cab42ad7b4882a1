import Fabricate.Json.Basic
import Fabricate.Decimal.Integer

/-!
# JSON numbers

The written form of a number is cut out first, as the longest run of the characters that numbers are
made of, and then read: a minus sign, digits without a needless zero in front, a fraction and an
exponent.

A real number is read in two steps that both round: its digits as a 64-bit significand, dropping
those that no longer fit, and then one multiplication or division by a power of ten. A number out of
range is refused, one that is too small becomes zero.
-/

namespace Fabricate.Json

open Fabricate.Decimal

/-- What a text may end inside of. -/
inductive Construct where
  | value
  | array
  | object
  | string
  deriving DecidableEq

/-- Why a text is not the JSON that was asked for. -/
inductive Fault where
  /-- The text ends before the value does. -/
  | ended (inside : Construct)
  /-- The text breaks the grammar, nests too deeply or holds a number out of range. -/
  | malformed
  /-- The value has not the type that was asked for. -/
  | mistyped
  deriving DecidableEq

/-- The characters that the written form of a number is made of. -/
def isNumberChar (c : Char) : Bool :=
  c.isDigit || c = '-' || c = '+' || c = '.' || c = 'e' || c = 'E'

/-- The parts of a number: its sign, the digits before and after the point, and its exponent. -/
structure NumberParts where
  negative : Bool
  whole : List Char
  fraction : Option (List Char)
  exponent : Option Int

/-- The leading digits and the rest; without any, the form has ended too early or is malformed. -/
def someDigits (cs : List Char) : Except Fault (List Char × List Char) :=
  match cs.takeWhile Char.isDigit, cs.dropWhile Char.isDigit with
  | [], [] => .error (.ended .value)
  | [], _ :: _ => .error .malformed
  | ds, r => .ok (ds, r)

/-- The digits after a point, if there is one. -/
def fractionPart : List Char → Except Fault (Option (List Char) × List Char)
  | '.' :: r => (someDigits r).map fun (ds, left) => (some ds, left)
  | cs => .ok (none, cs)

/-- The exponent, if there is one, after which nothing may follow. -/
def exponentPart : List Char → Except Fault (Option Int)
  | [] => .ok none
  | c :: r =>
      if c = 'e' || c = 'E' then
        let (negative, digits) := splitSign r
        match someDigits digits with
        | .error fault => .error fault
        | .ok (ds, []) => .ok (some (if negative then -(natOf ds : Int) else natOf ds))
        | .ok (_, _ :: _) => .error .malformed
      else .error .malformed

/-- The parts of a number, read off its whole written form. -/
def numberParts (form : List Char) : Except Fault NumberParts := do
  let (negative, unsigned) := if form.head? = some '-' then (true, form.tail) else (false, form)
  let (whole, r) ← someDigits unsigned
  if whole.head? = some '0' && whole.length ≠ 1 then throw .malformed
  let (fraction, r) ← fractionPart r
  let exponent ← exponentPart r
  return ⟨negative, whole, fraction, exponent⟩

/-- The significand with the digits appended as long as it fits an unsigned word, and the
number of digits left over. -/
def appendDigits (significand : Nat) : List Char → Nat × Nat
  | [] => (significand, 0)
  | d :: r =>
      let next := significand * 10 + (d.toNat - 48)
      if Word.fitsUnsigned next then appendDigits next r else (significand, r.length + 1)

/-- Ten to a power, as a double. -/
def powerOfTen (e : Nat) : Float :=
  Float.ofScientific 1 false e

/-- The double divided by a power of ten, in steps of at most `10 ^ 308`. -/
def dividedByTen (x : Float) (e : Nat) : Float :=
  if e ≤ 308 then x / powerOfTen e
  else if x == 0 then x
  else dividedByTen (x / powerOfTen 308) (e - 308)
termination_by e

/-- The double of a significand and a power of ten; none when it is out of range. -/
def realOf? (significand : Nat) (power : Int) : Option Float :=
  let x := (UInt64.ofNat significand).toFloat
  if power < 0 then some (dividedByTen x power.natAbs)
  else if power ≤ 308 then
    let y := x * powerOfTen power.toNat
    if y.isFinite then some y else none
  else if x == 0 then some x
  else none

/-- The number with those parts. Minus zero is a real, and so is every integer that fits neither
kind of word. -/
def NumberParts.value? (p : NumberParts) : Option Number :=
  let (whole, dropped) := appendDigits 0 p.whole
  let fraction := p.fraction.getD []
  let (significand, unread) := appendDigits whole fraction
  let power : Int := dropped - (fraction.length - unread : Int) + p.exponent.getD 0
  let real := (realOf? significand power).map fun x => Number.real (if p.negative then -x else x)
  if p.fraction.isNone && p.exponent.isNone && dropped == 0 && !(p.negative && whole == 0) then
    ((Integer.ofInt? (if p.negative then -(whole : Int) else whole)).map Number.integer).or real
  else real

/-- The number with that written form. -/
def Number.read (form : List Char) : Except Fault Number := do
  match (← numberParts form).value? with
  | some n => return n
  | none => throw .malformed

end Fabricate.Json
