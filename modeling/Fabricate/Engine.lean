import Fabricate.Batch
import Fabricate.Template.Check

/-!
# The engine

The engine answers requests under its options: it reads the locale, fills the batch and says what
was done, to the caller and to the log. An unsupported locale is reported before anything else is
looked at.
-/

namespace Fabricate

open Json

/-- A request for documents. -/
structure Job where
  template : Value
  count : Nat
  locale : Option String
  seed : Option UInt64

/-- What the machine lends to a request: the current day, a source of chance, and the schedule of
the workers. -/
structure Surroundings where
  today : Calendar.Date
  chance : Nat → UInt64
  schedule : List Nat

/-- The answer to a request. -/
structure Response where
  documents : List Value
  requestedCount : Nat
  locale : Locale
  seed : Option UInt64
  elapsedMs : Nat
  usage : Usage

/-- The engine: its generators and its options. -/
structure Engine where
  registry : Registry
  options : Options

namespace Engine

/-- The day that relative dates count from. -/
def referenceDate (e : Engine) (today : Calendar.Date) : Calendar.Date :=
  e.options.referenceDate.getD today

/-- What a walk may use in a locale. -/
def setting (e : Engine) (locale : Locale) (today : Calendar.Date) : Template.Setting :=
  ⟨e.registry, e.options, ⟨locale, e.referenceDate today⟩⟩

/-- The locale of a request. -/
def locale (e : Engine) (requested : Option String) : Except Failure Locale :=
  let tag := requested.getD e.options.defaultLocale
  match Locale.parse? tag with
  | some l => .ok l
  | none => .error (.unsupportedLocale tag)

/-- An event of the engine. -/
def event (level : LogLevel) (message : String) (values : List (String × Value)) : LogEvent :=
  ⟨level, "phoney_generate::engine", message, values⟩

/-- What the log is told when the work on a request begins. -/
def begun (job : Job) (l : Locale) : LogEvent :=
  event .info "generate request" <|
    [("count", LogEvent.number job.count), ("locale", .string l.tag)] ++
      job.seed.toList.map fun seed => ("seed", .ofUInt64 seed)

/-- What the log is told of the output for a request. -/
def ended : Except Failure Batch.Output → LogEvent
  | .ok output =>
      event .info "generate request finished"
        [("generated", LogEvent.number output.documents.length)]
  | .error failure =>
      event .warn "generate request failed"
        [("kind", .string failure.kind.logName), ("error", .string failure.message)]

/-- Answers a request for documents, with what the log is told. Of a locale that is not supported
it is told nothing here. -/
def perform (e : Engine) (job : Job) (near : Surroundings) (world : World) :
    Logged (Except Failure Response × World) :=
  match e.locale job.locale with
  | .error failure => ⟨(.error failure, world), []⟩
  | .ok l =>
      let batch := Batch.perform (e.setting l near.today) true job.template job.count
        ⟨job.seed, near.chance⟩ near.schedule world
      let (output, world) := batch.result
      { result := (output.map fun o => ⟨o.documents, job.count, l, job.seed, 0, o.usage⟩, world)
        events := begun job l :: batch.events ++ [ended output] }

/-- Answers a request for documents. -/
def generate (e : Engine) (job : Job) (near : Surroundings) (world : World) :
    Except Failure Response × World :=
  (e.perform job near world).result

/-- Answers a request to check a template. Neither locale nor day matter to it. -/
def check (e : Engine) (template : Value) : Report :=
  Template.check (e.setting .enUS .epoch) template

/-- What the log is told of a check. -/
def checked (report : Report) : LogEvent :=
  event .info "template validated"
    [("valid", .bool report.isOk),
      ("errors", LogEvent.number report.errors.length),
      ("warnings", LogEvent.number report.warnings.length),
      ("fields", LogEvent.number report.fields.length)]

end Engine

/-- The calls as JSON. -/
def Usage.toJson (usage : Usage) : Value :=
  .object (usage.map fun (id, calls) => (id, .ofUInt64 (UInt64.ofNat calls)))

/-- The seed as JSON. -/
def optionalSeed : Option UInt64 → Value
  | none => .null
  | some seed => .ofUInt64 seed

/-- The response as JSON. -/
def Response.toJson (r : Response) : Value :=
  .object
    [("documents", .array r.documents),
      ("errors", .null),
      ("requested_count", .ofUInt64 (UInt64.ofNat r.requestedCount)),
      ("generated_count", .ofUInt64 (UInt64.ofNat r.documents.length)),
      ("locale", .string r.locale.tag),
      ("seed", optionalSeed r.seed),
      ("execution_time_ms", .ofUInt64 (UInt64.ofNat r.elapsedMs)),
      ("generator_usage", r.usage.toJson)]

end Fabricate
