import Fabricate.Fields
import Fabricate.Word

/-!
# JSON values

Objects keep the order of their fields. A number is an integer that fits a signed or an unsigned
64-bit word, or a double; the two never mix, so `1` and `1.0` are different values.
-/

namespace Fabricate.Json

/-- An integer between the least signed and the greatest unsigned 64-bit word. -/
structure Integer where
  val : Int
  least_le : -9223372036854775808 ≤ val
  lt_bound : val < 18446744073709551616
  deriving DecidableEq

/-- The integer as a word-sized one, if it fits. -/
def Integer.ofInt? (n : Int) : Option Integer :=
  if h : -9223372036854775808 ≤ n ∧ n < 18446744073709551616 then some ⟨n, h.1, h.2⟩ else none

/-- Every signed 64-bit word fits. -/
def Integer.ofInt64 (n : Int64) : Integer where
  val := n.toInt
  least_le := by have := n.le_toInt; omega
  lt_bound := by have := n.toInt_lt; omega

/-- Every unsigned 64-bit word fits. -/
def Integer.ofUInt64 (n : UInt64) : Integer where
  val := n.toNat
  least_le := by omega
  lt_bound := by have := n.toNat_lt; omega

/-- A number: an integer or a double. -/
inductive Number where
  | integer (n : Integer)
  | real (x : Float)

/-- A JSON value. -/
inductive Value where
  | null
  | bool (b : Bool)
  | number (n : Number)
  | string (s : String)
  | array (items : List Value)
  | object (fields : List (String × Value))

instance : Inhabited Value := ⟨.null⟩

/-- The number of a signed word. -/
def Value.ofInt64 (n : Int64) : Value :=
  .number (.integer (.ofInt64 n))

/-- The number of an unsigned word. -/
def Value.ofUInt64 (n : UInt64) : Value :=
  .number (.integer (.ofUInt64 n))

/-- The number of a double; a value that is no number becomes null. -/
def Value.ofFloat (x : Float) : Value :=
  if x.isFinite then .number (.real x) else .null

/-- The integer as a signed word, if the value is one. -/
def Value.int64? : Value → Option Int64
  | .number (.integer n) => Word.signed? n.val
  | _ => none

/-- The integer as an unsigned word, if the value is one. -/
def Value.uint64? : Value → Option UInt64
  | .number (.integer n) => if 0 ≤ n.val then some (UInt64.ofNat n.val.toNat) else none
  | _ => none

/-- The double nearest to a number. -/
def Number.toFloat : Number → Float
  | .integer n =>
      if n.val < 0 then (Int64.ofInt n.val).toFloat else (UInt64.ofNat n.val.toNat).toFloat
  | .real x => x

/-- The double nearest to a number, if the value is one. -/
def Value.float? : Value → Option Float
  | .number n => some n.toFloat
  | _ => none

/-- The truth value, if the value is one. -/
def Value.bool? : Value → Option Bool
  | .bool b => some b
  | _ => none

/-- The text, if the value is one. -/
def Value.string? : Value → Option String
  | .string s => some s
  | _ => none

mutual

/-- The number of containers around the innermost value. -/
def Value.depth : Value → Nat
  | .array items => Value.depths items + 1
  | .object fields => Value.fieldDepths fields + 1
  | _ => 0

/-- The greatest depth of the items. -/
def Value.depths : List Value → Nat
  | [] => 0
  | v :: rest => max v.depth (Value.depths rest)

/-- The greatest depth of the field values. -/
def Value.fieldDepths : List (String × Value) → Nat
  | [] => 0
  | (_, v) :: rest => max v.depth (Value.fieldDepths rest)

end

end Fabricate.Json
