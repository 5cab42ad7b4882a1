import Fabricate.Param.Error
import Fabricate.Json.Printer
import Fabricate.Decimal.Real
import Fabricate.Text.Blank

/-!
# Typed parameters

A raw parameter is a key and a value around the first equals sign, both trimmed. The value's text
decides its type: within quotes it is a text whatever it holds; else a truth value; else an integer,
if it fits a signed word; else a real; else the text itself.
-/

namespace Fabricate

/-- The parameters of a placeholder, in order. -/
abbrev Params := Fields Json.Value

namespace Param

open Json Decimal

/-- What stands between two quotes of the given kind at the ends of the text. -/
def unquotedBy? (quote : Char) : List Char → Option (List Char)
  | [] => none
  | c :: r => if c = quote ∧ r.getLast? = some quote then some r.dropLast else none

/-- What stands within one pair of double or single quotes. -/
def unquoted? (cs : List Char) : Option (List Char) :=
  (unquotedBy? '"' cs).or (unquotedBy? '\'' cs)

/-- The truth value that a text spells, in any case of its letters. -/
def truth? (cs : List Char) : Option Bool :=
  if Text.asciiLower cs = "true".toList then some true
  else if Text.asciiLower cs = "false".toList then some false
  else none

/-- The signed word that a text denotes. -/
def signedWord? (cs : List Char) : Option Int64 :=
  (int? cs).bind Word.signed?

/-- The finite double that a text denotes as a literal without exponent. -/
def finite? (cs : List Char) : Option Float :=
  (literal? cs).filter Float.isFinite

/-- The value that a trimmed text stands for. -/
def coerceValue (cs : List Char) : Value :=
  match unquoted? cs with
  | some inner => .string (String.ofList inner)
  | none =>
      match truth? cs with
      | some b => .bool b
      | none =>
          match signedWord? cs with
          | some n => .ofInt64 n
          | none =>
              match finite? cs with
              | some x => .number (.real x)
              | none => .string (String.ofList cs)

/-- The key and the value of one raw parameter. -/
def coerce (raw : String) : Except ParamError (String × Value) :=
  match Text.splitFirst? '=' raw.toList with
  | none => .error (.missingSeparator raw)
  | some (key, value) =>
      if (Text.trim key).isEmpty then .error (.emptyKey raw)
      else .ok (String.ofList (Text.trim key), coerceValue (Text.trim value))

/-- Puts the raw parameters after those already read, up to the first that is refused. -/
def coerceInto (params : Params) : List String → Except ParamError Params
  | [] => .ok params
  | raw :: rest =>
      match coerce raw with
      | .error e => .error e
      | .ok (key, value) => coerceInto (params.put key value) rest

/-- The parameters that a row of raw ones gives. A key given again keeps its place and takes the
last value. -/
def coerceAll (raws : List String) : Except ParamError Params :=
  coerceInto [] raws

end Param

end Fabricate
