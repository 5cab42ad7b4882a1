/-!
# Parameter errors

Why the parameters of a placeholder are refused. The wording is kept apart from the cause.
-/

namespace Fabricate

/-- Why parameters are refused. -/
inductive ParamError where
  | emptyKey (raw : String)
  | missingSeparator (raw : String)
  | unknownKey (generator key : String)
  | invalidValue (generator key : String)
  | missingRequired (generator key : String)
  | invalidCount (value : String)
  /-- A generator refuses values that have the right kind. -/
  | constraint (reason : String)
  deriving DecidableEq

/-- What a reader is told. -/
def ParamError.message : ParamError → String
  | .emptyKey raw => "parameter '" ++ raw ++ "' has an empty key"
  | .missingSeparator raw => "parameter '" ++ raw ++ "' is not a key=value pair"
  | .unknownKey generator key => generator ++ ": unknown parameter '" ++ key ++ "'"
  | .invalidValue generator key => generator ++ ": invalid value for parameter '" ++ key ++ "'"
  | .missingRequired generator key =>
      generator ++ ": missing required parameter '" ++ key ++ "'"
  | .invalidCount value => "array count must be a positive integer, got '" ++ value ++ "'"
  | .constraint reason => reason

end Fabricate
