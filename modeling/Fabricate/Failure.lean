import Fabricate.Issue
import Fabricate.Json.Fault

/-!
# Failures

Why generation gave no documents. Failures that the template or the request causes carry one issue;
the others carry none, and what a caller is told of an internal one is the same text for all of
them.
-/

namespace Fabricate

open Json

/-- Why generation failed. -/
inductive Failure where
  | generatorNotFound (path name : String) (suggestions : List String)
  | parameter (path : String) (generator : Option String) (error : ParamError)
  /-- The template or the batch has not the form it must have. -/
  | badStructure (path reason : String)
  | unsupportedLocale (tag : String)
  /-- A generator failed or crashed. -/
  | internal (path generator reason : String)
  | cancelled
  | io (reason : String)
  /-- A text whose end is at the given place is not the JSON asked for. -/
  | json (fault : Fault) (stop : Place)
  /-- The table could not be written. -/
  | csv (reason : String)
  deriving DecidableEq

/-- The classes of failures that a caller tells apart. -/
inductive FailureKind where
  | generatorNotFound
  | parameterError
  | templateStructureError
  | unsupportedLocale
  | cancelled
  | internalError
  deriving DecidableEq

namespace FailureKind

/-- The code a program reads. -/
def name : FailureKind → String
  | generatorNotFound => "generator_not_found"
  | parameterError => "parameter_error"
  | templateStructureError => "template_structure_error"
  | unsupportedLocale => "unsupported_locale"
  | cancelled => "cancelled"
  | internalError => "internal_error"

/-- What the class is called in the log. -/
def logName : FailureKind → String
  | generatorNotFound => "GeneratorNotFound"
  | parameterError => "ParameterError"
  | templateStructureError => "TemplateStructureError"
  | unsupportedLocale => "UnsupportedLocale"
  | cancelled => "Cancelled"
  | internalError => "InternalError"

/-- Whether the template or the request is to blame. -/
def blamesCaller : FailureKind → Bool
  | cancelled | internalError => false
  | _ => true

end FailureKind

/-- What a caller is told of a failure: its class, a message and the issue behind it. -/
structure ErrorBody where
  kind : FailureKind
  message : String
  issues : List Issue
  deriving DecidableEq

/-- The body as JSON. -/
def ErrorBody.toJson (b : ErrorBody) : Value :=
  .object
    [("kind", .string b.kind.name),
      ("message", .string b.message),
      ("issues", .array (b.issues.map Issue.toJson))]

namespace Failure

/-- What the log says of the failure. -/
def message : Failure → String
  | generatorNotFound path name _ => "generator '" ++ name ++ "' not found at '" ++ path ++ "'"
  | parameter path _ error => "parameter error at '" ++ path ++ "': " ++ error.message
  | badStructure path reason => "template structure error at '" ++ path ++ "': " ++ reason
  | unsupportedLocale tag => "unsupported locale '" ++ tag ++ "'"
  | internal path generator reason =>
      "generator '" ++ generator ++ "' failed at '" ++ path ++ "': " ++ reason
  | cancelled => "generation cancelled"
  | io reason => "io error: " ++ reason
  | json fault stop => "json error: " ++ fault.message stop
  | csv reason => "csv error: " ++ reason

/-- The class of the failure. -/
def kind : Failure → FailureKind
  | generatorNotFound .. => .generatorNotFound
  | parameter .. => .parameterError
  | badStructure .. => .templateStructureError
  | unsupportedLocale _ => .unsupportedLocale
  | cancelled => .cancelled
  | internal .. | io _ | json .. | csv _ => .internalError

/-- Whether the template or the request is to blame. -/
def blamesCaller (f : Failure) : Bool :=
  f.kind.blamesCaller

/-- The issue behind a failure that the caller is to blame for. -/
def issue? : Failure → Option Issue
  | generatorNotFound path name suggestions =>
      some
        ⟨path, some name, "generator '" ++ name ++ "' not found", suggestions, .generatorNotFound⟩
  | parameter path generator error => some ⟨path, generator, error.message, [], .parameterError⟩
  | badStructure path reason => some ⟨path, none, reason, [], .templateStructure⟩
  | unsupportedLocale tag =>
      some ⟨"locale", none, "unsupported locale '" ++ tag ++ "'", [], .unsupportedLocale⟩
  | _ => none

/-- What a caller is told in place of the reason of an internal failure. -/
def internalMessage : String := "internal generator failure"

/-- What a caller is told. -/
def body (f : Failure) : ErrorBody where
  kind := f.kind
  message := if f.kind = .internalError then internalMessage else f.message
  issues := f.issue?.toList

end Failure

end Fabricate
