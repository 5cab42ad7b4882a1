/-!
# The shortest decimal of a double

A finite double is `significand * 2 ^ exponent`. Among the decimals `digits * 10 ^ power` that lie
in the interval of reals rounding to it, `shortest` takes one with the fewest digits and, of those,
the nearest; which of two equally near ones is a matter of the written form. The search walks the
grids of the powers of ten from the coarsest down; on each grid only the two neighbours of the
double need a look, since a grid that meets the interval meets it in one of them. Everything is
exact arithmetic on natural numbers.
-/

namespace Fabricate.Decimal

/-- The absolute value `significand * 2 ^ exponent` of a finite double and its rounding interval:
`even` tells whether the ends of the interval round to the double, and `narrowBelow` whether the gap
below the double is half the gap above it. -/
structure Binary where
  significand : Nat
  exponent : Int
  even : Bool
  narrowBelow : Bool
  deriving DecidableEq

/-- Which of two neighbours is taken when both are equally near. -/
inductive Tie where
  | greater
  /-- The neighbour whose last digit is even. -/
  | even
  deriving DecidableEq

/-- Whether a tie goes to the lesser neighbour. -/
def Tie.takesLesser (t : Tie) (lesser : Nat) : Bool :=
  match t with
  | greater => false
  | even => lesser % 2 == 0

/-- The decimal `digits * 10 ^ power`. -/
structure Scaled where
  digits : Nat
  power : Int
  deriving DecidableEq

/-- The absolute value of a finite double, read off its bits. -/
def Binary.ofBits (bits : UInt64) : Binary :=
  let fraction := bits.toNat % 4503599627370496
  let field := bits.toNat / 4503599627370496 % 2048
  let even := fraction % 2 == 0
  if field = 0 then ⟨fraction, -1074, even, false⟩
  else ⟨fraction + 4503599627370496, Int.ofNat field - 1075, even, fraction == 0 && field != 1⟩

/-- A quarter of the unit in the last place, as a quotient of naturals, in units of `10 ^ power`.
The double and the ends of its interval are whole multiples of it. -/
def Binary.quarter (b : Binary) (power : Int) : Nat × Nat :=
  (Nat.pow 2 b.exponent.toNat * Nat.pow 10 (-power).toNat,
    4 * Nat.pow 2 (-b.exponent).toNat * Nat.pow 10 power.toNat)

/-- Whether `digits * 10 ^ power` rounds to the double. -/
def Binary.contains (b : Binary) (s : Scaled) : Bool :=
  let (num, den) := b.quarter s.power
  let low := (4 * b.significand - (if b.narrowBelow then 1 else 2)) * num
  let high := (4 * b.significand + 2) * num
  let here := s.digits * den
  if b.even then low ≤ here && here ≤ high else low < here && here < high

/-- The multiple of `10 ^ power` that rounds to the double and is nearest to it, if one does. -/
def Binary.onGrid? (b : Binary) (tie : Tie) (power : Int) : Option Nat :=
  let (num, den) := b.quarter power
  let value := 4 * b.significand * num
  let below := value / den
  let belowFits := below != 0 && b.contains ⟨below, power⟩
  let aboveFits := b.contains ⟨below + 1, power⟩
  let belowNearer :=
    2 * (value % den) < den || (2 * (value % den) == den && tie.takesLesser below)
  if belowFits && aboveFits then some (if belowNearer then below else below + 1)
  else if belowFits then some below
  else if aboveFits then some (below + 1)
  else none

/-- The hit on the coarsest of the grids `10 ^ power`, `10 ^ (power - 1)` and so on. -/
def Binary.search (b : Binary) (tie : Tie) (power : Int) : Nat → Scaled
  | 0 => ⟨(b.onGrid? tie power).getD 0, power⟩
  | steps + 1 =>
      match b.onGrid? tie power with
      | some digits => ⟨digits, power⟩
      | none => b.search tie (power - 1) steps

/-- The least `k` with `num / den < 10 ^ k`, for a positive quotient. -/
def magnitude (num den : Nat) : Int :=
  if den ≤ num then (Nat.toDigits 10 (num / den)).length
  else
    let k := (Nat.toDigits 10 (den / num)).length
    if den ≤ num * Nat.pow 10 (k - 1) then 2 - (k : Int) else 1 - (k : Int)

/-- The same decimal without the zeros at the end of its digits, at most the given number. -/
def Scaled.stripped (s : Scaled) : Nat → Scaled
  | 0 => s
  | zeros + 1 =>
      if s.digits ≠ 0 ∧ s.digits % 10 = 0 then
        Scaled.stripped ⟨s.digits / 10, s.power + 1⟩ zeros
      else s

/-- The shortest decimal that rounds to the double, and the nearest of those. Seventeen digits
always suffice. -/
def Binary.shortest (b : Binary) (tie : Tie) : Scaled :=
  let (num, den) := b.quarter 0
  (b.search tie (magnitude (4 * b.significand * num) den) 18).stripped 18

end Fabricate.Decimal
