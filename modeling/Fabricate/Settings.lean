import Fabricate.Calendar.Text
import Fabricate.Locale
import Fabricate.Options
import Fabricate.Toml.Reader

/-!
# Settings

The options of the engine and what is logged. Settings are read from a TOML document in which
everything may be missing, then changed by variables of the environment, and accepted only if the
locale is supported and no limit is zero. Keys that are not known are ignored.
-/

namespace Fabricate

/-- What is logged and where to. -/
structure LogSettings where
  level : String
  /-- Whether a line of the log is a JSON object. -/
  json : Bool
  /-- The file that the log is appended to. -/
  file : Option String
  deriving DecidableEq

/-- The settings of the program. -/
structure Settings where
  engine : Options
  logging : LogSettings
  deriving DecidableEq

/-- Why settings are refused. -/
inductive SettingsError where
  /-- The text is no TOML, or a value in it has the wrong type. -/
  | malformed
  | notPositive (name value : String)
  | notBoolean (name value : String)
  | unsupportedLocale (tag : String)
  | zeroLimit (key : String)
  deriving DecidableEq

/-- What is said of settings that are refused. -/
def SettingsError.message : SettingsError → String
  | malformed => "toml parse error: the text is malformed or a value has the wrong type"
  | notPositive name value =>
      "invalid configuration: " ++ name ++ " must be a positive integer, got '" ++ value ++ "'"
  | notBoolean name value =>
      "invalid configuration: " ++ name ++ " must be a boolean, got '" ++ value ++ "'"
  | unsupportedLocale tag =>
      "invalid configuration: unsupported default_locale '" ++ tag ++ "'"
  | zeroLimit key => "invalid configuration: " ++ key ++ " must be at least 1"

namespace LogSettings

/-- What is logged where nothing else is said. -/
def standard : LogSettings := ⟨"warn", false, none⟩

end LogSettings

namespace Settings

/-- The settings where nothing else is said, for a machine that runs the given number of workers. -/
def standard (workers : Nat) : Settings :=
  ⟨Options.standard workers, LogSettings.standard⟩

/-! ### Reading a document -/

/-- The fields that a value gives to a record: a table gives them by name, an array in their order,
and a date or a time gives none of them. -/
def recordFields? (names : List String) : Toml.Value → Option Toml.Entries
  | .table _ entries => some entries
  | .array items => some (names.zip items)
  | .tables rows => some (names.zip (rows.map fun row => .table .defined row))
  | .moment _ => some []
  | _ => none

/-- The value of a field read by its type, or the default where there is no such field. -/
def field? {α : Type} (entries : Toml.Entries) (name : String) (read : Toml.Value → Option α)
    (default : α) : Option α :=
  match Fields.get? entries name with
  | none => some default
  | some v => read v

/-- A text. -/
def text? : Toml.Value → Option String
  | .string s => some s
  | _ => none

/-- A truth value. -/
def flag? : Toml.Value → Option Bool
  | .boolean b => some b
  | _ => none

/-- A number that is not negative. -/
def limit? : Toml.Value → Option Nat
  | .integer n => if 0 ≤ n.toInt then some n.toInt.toNat else none
  | _ => none

/-- A day, given as a text. -/
def day? : Toml.Value → Option Calendar.Date
  | .string s => Calendar.readDate? true s.toList
  | _ => none

/-- The options that a value describes; what it leaves out is taken from the given ones. -/
def options? (o : Options) (v : Toml.Value) : Option Options := do
  let entries ← recordFields?
    ["default_locale", "max_count", "max_array_count", "array_warn_threshold", "concurrency",
      "suggestion_limit", "reference_date"] v
  let defaultLocale ← field? entries "default_locale" text? o.defaultLocale
  let maxCount ← field? entries "max_count" limit? o.maxCount
  let maxArrayCount ← field? entries "max_array_count" limit? o.maxArrayCount
  let arrayWarnThreshold ← field? entries "array_warn_threshold" limit? o.arrayWarnThreshold
  let concurrency ← field? entries "concurrency" limit? o.concurrency
  let suggestionLimit ← field? entries "suggestion_limit" limit? o.suggestionLimit
  let referenceDate ← field? entries "reference_date" (fun v => (day? v).map some) o.referenceDate
  return {
    defaultLocale := defaultLocale
    maxCount := maxCount
    maxArrayCount := maxArrayCount
    arrayWarnThreshold := arrayWarnThreshold
    concurrency := concurrency
    suggestionLimit := suggestionLimit
    referenceDate := referenceDate }

/-- The log settings that a value describes; what it leaves out is taken from the given ones. -/
def logSettings? (l : LogSettings) (v : Toml.Value) : Option LogSettings := do
  let entries ← recordFields? ["level", "json", "file"] v
  let level ← field? entries "level" text? l.level
  let json ← field? entries "json" flag? l.json
  let file ← field? entries "file" (fun v => (text? v).map some) l.file
  return ⟨level, json, file⟩

/-- The settings that a TOML document describes; what it leaves out is taken from the given ones. -/
def read (s : Settings) (text : String) : Except SettingsError Settings :=
  let settings? : Option Settings := do
    let entries ← Toml.parse text
    let engine ← field? entries "engine" (options? s.engine) s.engine
    let logging ← field? entries "logging" (logSettings? s.logging) s.logging
    return ⟨engine, logging⟩
  match settings? with
  | some settings => .ok settings
  | none => .error .malformed

/-! ### Variables of the environment -/

/-- The limit that a variable gives, or the default where it is not set. -/
def limitOf (environment? : String → Option String) (name : String) (default : Nat) :
    Except SettingsError Nat :=
  match environment? name with
  | none => .ok default
  | some value =>
      match Decimal.word? (Text.trim value.toList) with
      | some n => .ok n.toNat
      | none => .error (.notPositive name value)

/-- The words for a truth value. -/
def truthOf? (cs : List Char) : Option Bool :=
  let word := String.ofList (Text.asciiLower (Text.trim cs))
  if ["1", "true", "yes", "on"].contains word then some true
  else if ["0", "false", "no", "off"].contains word then some false
  else none

/-- The truth value that a variable gives, or the default where it is not set. -/
def truthOf (environment? : String → Option String) (name : String) (default : Bool) :
    Except SettingsError Bool :=
  match environment? name with
  | none => .ok default
  | some value =>
      match truthOf? value.toList with
      | some b => .ok b
      | none => .error (.notBoolean name value)

/-- The settings with the changes that the variables ask for. -/
def applyVariables (s : Settings) (environment? : String → Option String) :
    Except SettingsError Settings := do
  let defaultLocale := (environment? "PHONEY_DEFAULT_LOCALE").getD s.engine.defaultLocale
  let maxCount ← limitOf environment? "PHONEY_MAX_COUNT" s.engine.maxCount
  let maxArrayCount ← limitOf environment? "PHONEY_MAX_ARRAY_COUNT" s.engine.maxArrayCount
  let concurrency ← limitOf environment? "PHONEY_CONCURRENCY" s.engine.concurrency
  let level := (environment? "PHONEY_LOG_LEVEL").getD s.logging.level
  let json ← truthOf environment? "PHONEY_LOG_JSON" s.logging.json
  return {
    engine := { s.engine with
      defaultLocale := defaultLocale
      maxCount := maxCount
      maxArrayCount := maxArrayCount
      concurrency := concurrency }
    logging := { s.logging with level := level, json := json } }

/-! ### Acceptance -/

/-- The limits that must not be zero. -/
def limits (s : Settings) : List (String × Nat) :=
  [("max_count", s.engine.maxCount), ("max_array_count", s.engine.maxArrayCount),
    ("concurrency", s.engine.concurrency)]

/-- Why the settings cannot be used, if they cannot. -/
def refusal? (s : Settings) : Option SettingsError :=
  if (Locale.parse? s.engine.defaultLocale).isNone then
    some (.unsupportedLocale s.engine.defaultLocale)
  else (s.limits.find? fun (_, n) => n = 0).map fun (key, _) => .zeroLimit key

/-- The settings that a document, if there is one, and the variables give. -/
def load (s : Settings) (document : Option String) (environment? : String → Option String) :
    Except SettingsError Settings := do
  let s ← match document with
    | none => .ok s
    | some text => s.read text
  let s ← s.applyVariables environment?
  match s.refusal? with
  | none => return s
  | some e => throw e

/-! ### Writing a document -/

/-- A line that gives a key its value. -/
def line (key : String) (value : List Char) : List Char :=
  key.toList ++ " = ".toList ++ value ++ ['\n']

/-- The lines of a key that may have no value. -/
def optionalLine (key : String) (value : Option (List Char)) : List Char :=
  match value with
  | none => []
  | some value => line key value

/-- The settings as a TOML document. -/
def text (s : Settings) : String :=
  String.ofList <|
    "[engine]\n".toList ++
    line "default_locale" (Toml.quotedText s.engine.defaultLocale) ++
    line "max_count" (Decimal.ofNat s.engine.maxCount) ++
    line "max_array_count" (Decimal.ofNat s.engine.maxArrayCount) ++
    line "array_warn_threshold" (Decimal.ofNat s.engine.arrayWarnThreshold) ++
    line "concurrency" (Decimal.ofNat s.engine.concurrency) ++
    line "suggestion_limit" (Decimal.ofNat s.engine.suggestionLimit) ++
    optionalLine "reference_date"
      (s.engine.referenceDate.map fun d => Toml.quotedText (String.ofList d.text)) ++
    "\n[logging]\n".toList ++
    line "level" (Toml.quotedText s.logging.level) ++
    line "json" (if s.logging.json then "true" else "false").toList ++
    optionalLine "file" (s.logging.file.map Toml.quotedText)

end Settings

end Fabricate
