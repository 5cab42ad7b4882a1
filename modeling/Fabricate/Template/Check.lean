import Fabricate.Template.Walk

/-!
# Checking a template

A template is checked without calling a generator. Every text adds to a report what is wrong with it
and what it holds: an array that is not alone, and for each placeholder an unknown name, parameters
that cannot be read, a number of elements that is refused and parameters that its generator refuses.
Nothing stops the check, so all problems of a template are found at once.

A dotted name that is known and an array that is large are warned about. A template without
placeholders is an error.
-/

namespace Fabricate.Template

open Json

/-- What a name adds: an error when it is unknown, a warning when it is dotted. -/
def checkName (s : Setting) (path : FieldPath) (name : String) (r : Report) : Report :=
  match s.registry.resolve? name with
  | none =>
      let issue :=
        Issue.about path .generatorNotFound (some name) ("generator '" ++ name ++ "' not found")
      r.addError { issue with suggestions := s.registry.suggest name s.options.suggestionLimit }
  | some g =>
      if name.contains '.' then
        r.addWarning <| Issue.about path .nestedReference (some name)
          ("nested reference '" ++ name ++ "' resolved to generator '" ++ g.id ++ "'")
      else r

/-- What a number of elements adds: an error when it is refused, a warning when it is large. -/
def checkCount (s : Setting) (path : FieldPath) (name : String) (r : Report) :
    Except CountError Nat → Report
  | .error e => r.addError (Issue.about path e.code (some name) e.message)
  | .ok count =>
      if s.options.arrayWarnThreshold < count then
        r.addWarning <| Issue.about path .largeArray (some name)
          ("array count " ++ String.ofList (Decimal.ofNat count) ++
            " is large and may slow generation")
      else r

/-- What the declared parameters of the generator add, if it is known. -/
def checkDeclared (s : Setting) (path : FieldPath) (name : String) (params : Params) (r : Report) :
    Report :=
  match s.registry.resolve? name with
  | none => r
  | some g =>
      match params.refusal? g.specs g.id with
      | none => r
      | some e => r.addError (Issue.about path .parameterError (some name) e.message)

/-- The entry of a placeholder. -/
def detected (path : FieldPath) (p : Placeholder) (params : Params) (count : Option Nat) :
    DetectedField :=
  ⟨path.label, p.name, p.shape, params, count.map fun n => Int64.ofNat n⟩

/-- What one placeholder adds. -/
def checkPlaceholder (s : Setting) (path : FieldPath) (r : Report) (p : Placeholder) : Report :=
  let r := checkName s path p.name r
  match Param.coerceAll p.params with
  | .error e =>
      (r.addError (Issue.about path .parameterError (some p.name) e.message)).addField
        (detected path p [] none)
  | .ok params =>
      if p.isArray then
        let (count, params) := takeCount params s.options.maxArrayCount
        (checkDeclared s path p.name params (checkCount s path p.name r count)).addField
          (detected path p params count.toOption)
      else (checkDeclared s path p.name params r).addField (detected path p params none)

/-- What an array adds that is not alone in its text. -/
def checkMixed (path : FieldPath) (ps : List Piece) (r : Report) : Report :=
  match standalone? ps, (placeholders ps).find? Placeholder.isArray with
  | none, some p => r.addError (Issue.about path .templateStructure (some p.name) mixedReason)
  | _, _ => r

/-- What one text adds. -/
def checkText (s : Setting) (path : FieldPath) (text : String) (r : Report) : Report :=
  let ps := pieces text.toList
  (placeholders ps).foldl (checkPlaceholder s path) (checkMixed path ps r)

mutual

/-- What a value of a template adds. -/
def visit (s : Setting) (path : FieldPath) (v : Value) (r : Report) : Report :=
  match v with
  | .object fields => visitFields s path fields r
  | .array items => visitItems s path 0 items r
  | .string text => checkText s path text r
  | .null => r
  | .bool _ => r
  | .number _ => r

/-- What the items from the given position on add. -/
def visitItems (s : Setting) (path : FieldPath) (first : Nat) (vs : List Value) (r : Report) :
    Report :=
  match vs with
  | [] => r
  | v :: rest => visitItems s path (first + 1) rest (visit s (path.index first) v r)

/-- What the fields add. -/
def visitFields (s : Setting) (path : FieldPath) (fields : List (String × Value)) (r : Report) :
    Report :=
  match fields with
  | [] => r
  | (name, v) :: rest => visitFields s path rest (visit s (path.key name) v r)

end

/-- The error of a template without placeholders. -/
def noPlaceholders : Issue :=
  Issue.about .root .noPlaceholders none "no placeholders found in template"

/-- The report of a template. -/
def check (s : Setting) (template : Value) : Report :=
  let r := visit s .root template .empty
  if r.fields.isEmpty then r.addError noPlaceholders else r

end Fabricate.Template
