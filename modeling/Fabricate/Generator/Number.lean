import Fabricate.Generator.Basic

/-!
# Number generators

Integers on a grid, digits, numbers with a given number of digits, reals with given digits before
and after the point, truth values with a given chance, and coordinates.
-/

namespace Fabricate.Generator

open Fabricate.Random

/-- The text of an integer. -/
def intText (n : Int) : String :=
  String.ofList (Decimal.ofInt n)

/-- The integer under a key, or a default, if it lies between the bounds. -/
def bounded (params : Params) (key : String) (default min max : Int) : Produce Nat :=
  let n := ((params.int? key).map Int64.toInt).getD default
  if min ≤ n ∧ n ≤ max then return n.toNat
  else refuse (key ++ " must be between " ++ intText min ++ " and " ++ intText max)

/-- The number of steps from `min` up to `max` at most, as far as it fits a signed word. -/
def stepCount (min max step : Int) : Int :=
  Word.nearestSigned ((max - min) / step)

/-- The integer that many steps above `min`. -/
def stepped (min step : Int) (steps : Int) : Int :=
  Word.nearestSigned (min + Word.nearestSigned (steps * step))

/-- An integer between two bounds, both included, a whole number of steps above the lower one. -/
def intRange (id minKey maxKey : String) : Generator :=
  .ofProduce id "number" [⟨minKey, .int, false⟩, ⟨maxKey, .int, false⟩, ⟨"step", .int, false⟩]
    fun _ params => do
      let min := ((params.int? minKey).map Int64.toInt).getD 0
      let max := ((params.int? maxKey).map Int64.toInt).getD 9999
      let step := ((params.int? "step").map Int64.toInt).getD 1
      if max < min then refuse (id ++ ": " ++ minKey ++ " must be <= " ++ maxKey)
      if step ≤ 0 then refuse (id ++ ": step must be positive")
      let steps ← between64 0 (stepCount min max step)
      return .int (Int64.ofInt (stepped min step steps))

/-- A decimal digit. -/
def randomDigit : Generator :=
  .ofProduce "random_digit" "number" [] fun _ _ => do
    return .int (Int64.ofNat (← below64 10))

/-- The number of digits given, or else one drawn from one to nine. -/
def drawDigits (params : Params) : Produce Nat := do
  if (params.int? "digits").isSome then bounded params "digits" 0 1 18
  else return (← below32 9) + 1

/-- A number of at most the given digits, exactly as many where the length is fixed. -/
def randomNumber : Generator :=
  .ofProduce "random_number" "number" [⟨"digits", .int, false⟩, ⟨"fix_len", .bool, false⟩]
    fun _ params => do
      let digits ← drawDigits params
      let lower := if (params.bool? "fix_len").getD false then Nat.pow 10 (digits - 1) else 0
      return .int (Int64.ofInt (← between64 lower (Nat.pow 10 digits - 1)))

/-- The real rounded to a number of decimals. -/
def roundedTo (decimals : Nat) (x : Float) : Float :=
  let scale := Float.ofNat (Nat.pow 10 decimals)
  (x * scale).round / scale

/-- A real between the bounds given, or else of the given number of digits and either sign. -/
def drawReal (id : String) (params : Params) (magnitude : Float) (positive : Bool) :
    Produce Float := do
  match params.float? "min_value", params.float? "max_value" with
  | none, none =>
      let x ← realBetween 0 magnitude
      if positive then return x
      return if (← happens 0.5) then -x else x
  | min, max =>
      let low := min.getD (if positive then 0 else -magnitude)
      let high := max.getD magnitude
      if low > high then refuse (id ++ ": min_value must be <= max_value")
      if !(high - low).isFinite then refuse (id ++ ": min_value..max_value span is too wide")
      realBetween low high

/-- A real with a number of digits before and after the point, or between two bounds. -/
def realNumber (id : String) : Generator :=
  .ofProduce id "number"
    [⟨"left_digits", .int, false⟩, ⟨"right_digits", .int, false⟩, ⟨"positive", .bool, false⟩,
      ⟨"min_value", .float, false⟩, ⟨"max_value", .float, false⟩]
    fun _ params => do
      let left ← bounded params "left_digits" 3 0 15
      let right ← bounded params "right_digits" 2 0 15
      let positive := (params.bool? "positive").getD false
      let x ← drawReal id params (Float.ofNat (Nat.pow 10 left)) positive
      return .float (roundedTo right x)

/-- A truth value that is true in the given percentage of the draws. -/
def chance (id key : String) : Generator :=
  .ofProduce id "number" [⟨key, .int, false⟩] fun _ params => do
    let percent ← bounded params key 50 0 100
    return .bool (← happens (Float.ofNat percent / 100))

/-- An angle of at most the given size, to six decimals. -/
def coordinate (id : String) (limit : Float) : Generator :=
  .ofProduce id "geo" [] fun _ _ => do
    let x ← realBetween (-limit) limit
    return .float (roundedTo 6 x)

end Fabricate.Generator
