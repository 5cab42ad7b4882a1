import Fabricate.Param.Coerce

/-!
# Declared parameters

A generator declares the keys it takes and their kinds. `refusal?` names undeclared keys, values of
another kind and missing required keys, the first offence in order. What is not refused
is read by the getter of the declared kind, which then finds a value exactly for the keys present.
-/

namespace Fabricate

/-- The kinds of a parameter. A text takes numbers and truth values too, and a real takes
integers. -/
inductive ParamKind where
  | bool
  | int
  | float
  | string
  deriving DecidableEq

/-- One declared parameter. -/
structure ParamSpec where
  key : String
  kind : ParamKind
  required : Bool
  deriving DecidableEq

namespace ParamKind

/-- The name of the kind. -/
def name : ParamKind → String
  | .bool => "bool"
  | .int => "int"
  | .float => "float"
  | .string => "string"

/-- Whether a value has the kind. -/
def admits (kind : ParamKind) (v : Json.Value) : Bool :=
  match kind, v with
  | .bool, .bool _ => true
  | .int, v => v.int64?.isSome
  | .float, .number _ => true
  | .string, .string _ => true
  | .string, .number _ => true
  | .string, .bool _ => true
  | _, _ => false

end ParamKind

namespace Params

open Json

/-- The signed word under a key. -/
def int? (params : Params) (key : String) : Option Int64 :=
  (params.get? key).bind Value.int64?

/-- The double under a key. -/
def float? (params : Params) (key : String) : Option Float :=
  (params.get? key).bind Value.float?

/-- The truth value under a key. -/
def bool? (params : Params) (key : String) : Option Bool :=
  (params.get? key).bind Value.bool?

/-- The text of a value that is no container. -/
def scalarText? : Value → Option String
  | .string s => some s
  | .number n => some (String.ofList n.text)
  | .bool b => some (if b then "true" else "false")
  | _ => none

/-- The text under a key; numbers and truth values are written out. -/
def text? (params : Params) (key : String) : Option String :=
  (params.get? key).bind scalarText?

/-- The first parameter that is not declared or has another kind. -/
def firstOffence? (generator : String) (specs : List ParamSpec) : Params → Option ParamError
  | [] => none
  | (key, v) :: rest =>
      match specs.find? (·.key = key) with
      | none => some (.unknownKey generator key)
      | some spec =>
          if spec.kind.admits v then firstOffence? generator specs rest
          else some (.invalidValue generator key)

/-- The first required key that is missing. -/
def firstMissing? (generator : String) (params : Params) (specs : List ParamSpec) :
    Option ParamError :=
  (specs.find? fun spec => spec.required && !params.has spec.key).map
    fun spec => .missingRequired generator spec.key

/-- Why the generator refuses the parameters, if it does. -/
def refusal? (params : Params) (specs : List ParamSpec) (generator : String) : Option ParamError :=
  (firstOffence? generator specs params).or (firstMissing? generator params specs)

end Params

end Fabricate
