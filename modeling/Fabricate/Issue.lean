import Fabricate.FieldPath
import Fabricate.Param.Coerce
import Fabricate.Template.Placeholder

/-!
# Issues and reports

An issue says what is wrong at one place of a template. A report collects the issues of a template,
those that make it invalid and those that only warn, and the placeholders found in it. Reports of
parts of a template are joined by `append`, entry by entry in order.
-/

namespace Fabricate

open Json

/-- The kinds of issues. -/
inductive IssueCode where
  | generatorNotFound
  | parameterError
  | invalidArrayCount
  | templateStructure
  | noPlaceholders
  | unsupportedLocale
  | nestedReference
  | largeArray
  deriving DecidableEq

/-- The code a program reads. -/
def IssueCode.name : IssueCode → String
  | .generatorNotFound => "generator_not_found"
  | .parameterError => "parameter_error"
  | .invalidArrayCount => "invalid_array_count"
  | .templateStructure => "template_structure"
  | .noPlaceholders => "no_placeholders"
  | .unsupportedLocale => "unsupported_locale"
  | .nestedReference => "nested_reference"
  | .largeArray => "large_array"

/-- What is wrong at one place. -/
structure Issue where
  path : String
  generator : Option String
  message : String
  suggestions : List String
  code : IssueCode
  deriving DecidableEq

/-- An issue without suggestions. -/
def Issue.about (path : FieldPath) (code : IssueCode) (generator : Option String)
    (message : String) : Issue :=
  ⟨path.label, generator, message, [], code⟩

/-- The text of a value that may be missing. -/
def optionalText : Option String → Value
  | none => .null
  | some s => .string s

/-- The issue as JSON. -/
def Issue.toJson (i : Issue) : Value :=
  .object
    [("field_path", .string i.path),
      ("offending_generator_name", optionalText i.generator),
      ("message", .string i.message),
      ("suggestions", .array (i.suggestions.map .string)),
      ("code", .string i.code.name)]

/-- The name of a shape. -/
def Template.Shape.name : Template.Shape → String
  | .scalar => "scalar"
  | .parameterized => "parameterized"
  | .array => "array"

/-- A placeholder found in a template, with its typed parameters and, for an accepted array, the
number of its elements. -/
structure DetectedField where
  path : String
  generator : String
  shape : Template.Shape
  params : Params
  arrayCount : Option Int64

/-- The field as JSON, without parameters or number of elements where there are none. -/
def DetectedField.toJson (f : DetectedField) : Value :=
  .object <|
    [("field_path", .string f.path),
      ("generator", .string f.generator),
      ("kind", .string f.shape.name)] ++
    (if f.params.isEmpty then [] else [("parameters", .object f.params)]) ++
    (match f.arrayCount with
    | none => []
    | some n => [("array_count", .ofInt64 n)])

/-- The errors, the warnings and the placeholders of a template. -/
structure Report where
  errors : List Issue
  warnings : List Issue
  fields : List DetectedField

namespace Report

/-- The report of nothing. -/
def empty : Report := ⟨[], [], []⟩

/-- The entries of one report after those of another. -/
def append (a b : Report) : Report :=
  ⟨a.errors ++ b.errors, a.warnings ++ b.warnings, a.fields ++ b.fields⟩

instance : Append Report := ⟨append⟩

/-- Adds an error at the end. -/
def addError (r : Report) (i : Issue) : Report :=
  { r with errors := r.errors ++ [i] }

/-- Adds a warning at the end. -/
def addWarning (r : Report) (i : Issue) : Report :=
  { r with warnings := r.warnings ++ [i] }

/-- Adds a placeholder at the end. -/
def addField (r : Report) (f : DetectedField) : Report :=
  { r with fields := r.fields ++ [f] }

/-- Whether there are no errors. -/
def isOk (r : Report) : Bool :=
  r.errors.isEmpty

/-- The report as JSON. -/
def toJson (r : Report) : Value :=
  .object
    [("valid", .bool r.isOk),
      ("errors", .array (r.errors.map Issue.toJson)),
      ("warnings", .array (r.warnings.map Issue.toJson)),
      ("detected_fields", .array (r.fields.map DetectedField.toJson))]

end Report

end Fabricate
