import Fabricate.Failure

/-!
# The number of elements of an array

The parameter `count` of an array placeholder says how many elements it stands for, one when it is
missing. It is taken out of the parameters before they reach the generator.
-/

namespace Fabricate.Template

open Json

/-- The parameter that says how many elements an array has. -/
def countKey : String := "count"

/-- Why a number of elements is refused. -/
inductive CountError where
  | invalid (value : String)
  | tooLarge (count max : Nat)
  deriving DecidableEq

/-- What is wrong with an array that is too large. -/
def tooLargeReason (count max : Nat) : String :=
  "array count " ++ String.ofList (Decimal.ofNat count) ++ " exceeds the maximum of " ++
    String.ofList (Decimal.ofNat max)

namespace CountError

/-- What a reader is told. -/
def message : CountError → String
  | invalid value => (ParamError.invalidCount value).message
  | tooLarge count max => tooLargeReason count max

/-- The failure of an array at a place. -/
def failure (e : CountError) (path : FieldPath) (generator : String) : Failure :=
  match e with
  | invalid value => .parameter path.label (some generator) (.invalidCount value)
  | tooLarge count max => .badStructure path.label (tooLargeReason count max)

/-- The code of the issue about it. -/
def code : CountError → IssueCode
  | invalid _ => .invalidArrayCount
  | tooLarge .. => .templateStructure

end CountError

/-- The text of a value that is no count: a text as it is, all else as JSON. -/
def countText : Value → String
  | .string s => s
  | v => v.render

/-- The number of elements that a value stands for. -/
def countOf (v : Value) (max : Nat) : Except CountError Nat :=
  match v.int64? with
  | some n =>
      if 0 < n.toInt then
        if n.toInt.toNat ≤ max then .ok n.toInt.toNat else .error (.tooLarge n.toInt.toNat max)
      else .error (.invalid (countText v))
  | none => .error (.invalid (countText v))

/-- The number of elements and the parameters that are left for the generator, which are those
without `count` also when it is refused. -/
def takeCount (params : Params) (max : Nat) : Except CountError Nat × Params :=
  match Fields.take params countKey with
  | none => (.ok 1, params)
  | some (v, rest) => (countOf v max, rest)

end Fabricate.Template
