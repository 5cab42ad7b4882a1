import Fabricate.Engine
import Fabricate.Json.Parser

/-!
# Requests

A request is a JSON object with a template and with no fields but those of a request. Every other
object, and every array, is taken for a template that is requested with the defaults. `read` and
`Request.toJson` belong together: a request that is written out is read as itself.
-/

namespace Fabricate

open Json

/-- The form in which documents are given out. -/
inductive OutputFormat where
  | json
  | csv
  deriving DecidableEq

/-- The name of a format. -/
def OutputFormat.name : OutputFormat → String
  | json => "json"
  | csv => "csv"

/-- The format of a name. -/
def OutputFormat.ofName? (name : String) : Option OutputFormat :=
  [json, csv].find? (·.name = name)

/-- A request for documents. -/
structure Request where
  template : Value
  count : UInt64
  locale : Option String
  seed : Option UInt64
  format : OutputFormat

/-- Why a text is no request. -/
inductive RequestError where
  /-- The text, whose end is at the given place, does not hold the JSON asked for. -/
  | fault (f : Fault) (stop : Place)
  /-- It is neither a request nor a template. -/
  | notTemplate
  deriving DecidableEq

/-- What is said of a text that is no request. -/
def RequestError.message : RequestError → String
  | fault f stop => "json error: " ++ f.message stop
  | notTemplate => "invalid request: template must be a JSON object or array"

namespace Request

/-- The request of a template with the defaults. -/
def ofTemplate (template : Value) (count : UInt64) : Request :=
  ⟨template, count, none, none, .json⟩

/-- The fields that a request may have. -/
def keys : List String := ["template", "count", "locale", "seed", "format"]

/-- Whether fields are those of a request. -/
def isRequest (fields : Fields Value) : Bool :=
  fields.has "template" && fields.names.all keys.contains

/-- The value of a field read by its type, or the default where there is no such field. -/
def field {α : Type} (fields : Fields Value) (name : String) (read : Value → Option α)
    (default : α) : Except Fault α :=
  match fields.get? name with
  | none => .ok default
  | some v =>
      match read v with
      | some a => .ok a
      | none => .error .mistyped

/-- A value that may be null. -/
def nullable {α : Type} (read : Value → Option α) : Value → Option (Option α)
  | .null => some none
  | v => (read v).map some

/-- A format is written as its name, or as an object whose only field has that name and is null. -/
def format? : Value → Option OutputFormat
  | .string name => OutputFormat.ofName? name
  | .object [(name, .null)] => OutputFormat.ofName? name
  | _ => none

/-- The request of its fields. -/
def ofFields (fields : Fields Value) : Except Fault Request := do
  let template ← field fields "template" some .null
  let count ← field fields "count" Value.uint64? 1
  let locale ← field fields "locale" (nullable Value.string?) none
  let seed ← field fields "seed" (nullable Value.uint64?) none
  let format ← field fields "format" format? .json
  return ⟨template, count, locale, seed, format⟩

/-- The request that the value of a text is; a bare template is requested `count` times. -/
def ofJson (v : Value) (stop : Place) (count : UInt64) : Except RequestError Request :=
  match v with
  | .object fields =>
      if isRequest fields then (ofFields fields).mapError (.fault · stop)
      else .ok (ofTemplate v count)
  | .array _ => .ok (ofTemplate v count)
  | _ => .error .notTemplate

/-- The request that a text holds; a bare template is requested `count` times. -/
def read (text : String) (count : UInt64) : Except RequestError Request :=
  match parse text with
  | .ok v => ofJson v (.endOf text) count
  | .error f => .error (.fault f (.endOf text))

/-- The request as JSON. -/
def toJson (r : Request) : Value :=
  .object
    [("template", r.template),
      ("count", .ofUInt64 r.count),
      ("locale", optionalText r.locale),
      ("seed", optionalSeed r.seed),
      ("format", .string r.format.name)]

/-- What the engine is asked for. -/
def job (r : Request) : Job :=
  ⟨r.template, r.count.toNat, r.locale, r.seed⟩

end Request

end Fabricate
