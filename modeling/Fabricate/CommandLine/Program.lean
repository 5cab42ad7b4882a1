import Fabricate.CommandLine.Command
import Fabricate.CommandLine.Failure
import Fabricate.CommandLine.LogFilter
import Fabricate.CommandLine.Samples
import Fabricate.Csv.Printer
import Fabricate.Generator.Standard

/-!
# The program

Every command on any host. Settings and log come first, except for the command that writes a
settings file: it must work where the settings are broken. Documents are written only when all of
them are there, so a command that fails has written no documents. What the standard output shows
besides is the report of a check, and the log where it is kept there.
-/

namespace Fabricate.CommandLine

open Json

variable {m : Type → Type} [Monad m]

/-- A command on a host, which may fail. -/
abbrev Work (m : Type → Type) := ExceptT CommandError m

namespace Work

/-- An action of the host that cannot fail. -/
def perform {α : Type} (action : m α) : Work m α :=
  ExceptT.lift action

/-- An action of the host that may fail. -/
def attempt {α ε : Type} (failure : ε → CommandError) (action : m (Except ε α)) : Work m α := do
  match ← perform action with
  | .ok a => return a
  | .error e => throw (failure e)

/-- An answer that was found without the host. -/
def settle {α ε : Type} (failure : ε → CommandError) : Except ε α → Work m α
  | .ok a => return a
  | .error e => throw (failure e)

end Work

open Work

/-- The failure to read or write a settings file. -/
def configFault (fault : FileFault) : CommandError :=
  .config (.file fault)

/-- The variables of the environment that settings depend on. -/
def settingVariables : List String :=
  ["PHONEY_DEFAULT_LOCALE", "PHONEY_MAX_COUNT", "PHONEY_MAX_ARRAY_COUNT", "PHONEY_CONCURRENCY",
    "PHONEY_LOG_LEVEL", "PHONEY_LOG_JSON"]

/-- The values of some variables. -/
def valuesOf (host : Host m) : List String → m (List (String × Option String))
  | [] => return []
  | name :: names => do
      let value ← host.environment? name
      let rest ← valuesOf host names
      return (name, value) :: rest

/-- The text of the settings file: the one that is named, or else the usual one if it is there. -/
def settingsDocument (host : Host m) (named : Option String) : Work m (Option String) := do
  match named with
  | some path => return some (← attempt configFault (host.read path))
  | none =>
      if ← perform (host.hasPath settingsPath) then
        return some (← attempt configFault (host.read settingsPath))
      else return none

/-- The settings for a command. -/
def loadSettings (host : Host m) (g : Globals) : Work m Settings := do
  let document ← settingsDocument host g.config
  let values ← perform (valuesOf host settingVariables)
  let workers ← perform host.workers
  let lookup := fun name => ((values.find? fun (n, _) => n = name).bind Prod.snd : Option String)
  let s ← settle (fun e => .config (.settings e))
    ((Settings.standard workers).load document lookup)
  let level := g.logLevel.getD s.logging.level
  let json := g.logJson || s.logging.json
  return { s with logging := { s.logging with level := level, json := json } }

/-- The variable of the environment whose filter goes before that of the settings. -/
def logVariable : String := "RUST_LOG"

/-- The filter of the settings, if it is one. -/
def ownFilter (level : String) : Except FilterFault String := do
  checkFilter level
  return level

/-- The filter of the log: that of the environment, if there is one, and that of the settings if
that one is none. -/
def settleFilter (wanted : Option String) (level : String) : Except FilterFault String :=
  match wanted with
  | none => ownFilter level
  | some filter =>
      match checkFilter filter with
      | .ok () => .ok filter
      | .error .misaligned => .error .misaligned
      | .error _ => ownFilter level

/-- Opens the log: its filter must be one, and its file must take more text. -/
def prepareLog (host : Host m) (l : LogSettings) : Work m Unit := do
  let wanted ← perform (host.environment? logVariable)
  let filter ← settle (fun fault => .logging (.badFilter fault)) (settleFilter wanted l.level)
  attempt (fun fault => .logging (.file fault))
    (host.openLog ⟨filter, l.json, l.file.isNone⟩ l.file)

/-! ### What the log is told -/

/-- An event of the program. -/
def event (level : LogLevel) (message : String) (values : List (String × Value)) : LogEvent :=
  ⟨level, "phoney", message, values⟩

/-- What is told of a command that failed. -/
def commandFailed (e : CommandError) : LogEvent :=
  event .error "command failed" [("error", .string e.message)]

/-- What is told when the documents took longer than they may. -/
def timedOut (limit : UInt64) : LogEvent :=
  event .warn "generation timed out" [("timeout_ms", .ofUInt64 limit)]

/-- What is told of a text that was put in place of a file. -/
def outputWritten (path text : String) : LogEvent :=
  event .info "output written"
    [("path", .string path), ("bytes", LogEvent.number (Text.byteLength text.toList))]

/-- What is told when all documents are written. -/
def generateFinished (r : Response) : LogEvent :=
  event .info "generate finished"
    [("generated", LogEvent.number r.documents.length),
      ("execution_time_ms", LogEvent.number r.elapsedMs)]

/-- Tells the log of events one after another. -/
def tellAll (host : Host m) : List LogEvent → m Unit
  | [] => return
  | e :: events => do
      host.tell e
      tellAll host events

/-! ### Commands -/

/-- The text of a request. -/
def readInput (host : Host m) (source : String) : Work m String :=
  attempt .file (if source = "-" then host.input else host.read source)

/-- Writes a text to a file, or to the standard output where none is named. -/
def deliver (host : Host m) (out : Option String) (text : String) : Work m Unit :=
  match out with
  | some path => do
      attempt .file (host.replace path text)
      perform (host.tell (outputWritten path text))
  | none => perform (host.write text)

/-- Writes a JSON value to the standard output. -/
def printJson (host : Host m) (v : Value) : Work m Unit :=
  deliver host none (v.renderPretty ++ "\n")

/-- The request with the overrides put in place of its fields. -/
def Overrides.apply (o : Overrides) (r : Request) : Request where
  template := r.template
  count := o.count.getD r.count
  locale := o.locale.or r.locale
  seed := o.seed.or r.seed
  format := o.format.getD r.format

/-- The documents of a response in the wanted format. -/
def rendered (format : OutputFormat) (r : Response) : String :=
  match format with
  | .json => r.toJson.renderPretty ++ "\n"
  | .csv => Csv.ofDocuments r.documents

/-- The engine of some settings, with the texts of a source. -/
def engineOf (source : TextSource) (s : Settings) : Engine :=
  ⟨Registry.standard source, s.engine⟩

variable (source : TextSource)

/-- Answers a request, and says how long that took. -/
def respond (host : Host m) (s : Settings) (r : Request) (timeoutMs : Option UInt64) :
    Work m Response := do
  let today ← perform host.today
  let chance ← perform host.chance
  let start ← perform host.clock
  let work := (engineOf source s).perform r.job ⟨today, chance, []⟩ ⟨[], false⟩
  perform (tellAll host work.events)
  let elapsed := (← perform host.clock) - start
  match timeoutMs with
  | some limit =>
      if limit.toNat < elapsed then
        perform (host.tell (timedOut limit))
        throw (.timeout limit)
  | none => pure ()
  let response ← settle .generation work.result.1
  return { response with elapsedMs := elapsed }

/-- Generates documents and writes them out. -/
def generate (host : Host m) (s : Settings) (args : GenerateArgs) : Work m Unit := do
  let payload ← readInput host args.template
  let request ← settle .request (Request.read payload 1)
  let request := args.overrides.apply request
  let response ← respond source host s request args.timeoutMs
  deliver host args.out (rendered request.format response)
  perform (host.tell (generateFinished response))

/-- Checks a template and writes the report. -/
def validate (host : Host m) (s : Settings) (template : String) : Work m Unit := do
  let payload ← readInput host template
  let request ← settle .request (Request.read payload 1)
  let report := (engineOf source s).check request.template
  perform (host.tell (Engine.checked report))
  printJson host report.toJson
  if !report.isOk then throw .invalidTemplate

/-- Lists the generators, or those of one provider. -/
def listGenerators (host : Host m) (s : Settings) (provider : Option String) : Work m Unit :=
  let wanted := fun (e : Registry.Entry) =>
    provider.all fun p => Text.eqIgnoringAsciiCase e.provider p
  let entries := (engineOf source s).registry.catalog.filter wanted
  printJson host (.array (entries.map Registry.Entry.toJson))

/-- Prints the sample requests, or the one of a name. -/
def printExamples (host : Host m) (name : Option String) : Work m Unit :=
  match name with
  | none => printJson host (.array (Sample.all.map Sample.toJson))
  | some name =>
      match Sample.find? name with
      | some sample => printJson host sample.request.toJson
      | none => throw (.unknownExample name)

/-- Writes a settings file with the standard settings. -/
def initConfig (host : Host m) (path : String) (force : Bool) : Work m Unit := do
  if (← perform (host.hasPath path)) && !force then throw (.config (.occupied path))
  let workers ← perform host.workers
  attempt configFault (host.replace path (Settings.standard workers).text)
  perform (host.write ("wrote " ++ path ++ "\n"))

/-- Does what a command says under the given settings. -/
def obey (host : Host m) (s : Settings) : Command → Work m Unit
  | .generate args => generate source host s args
  | .validate template => validate source host s template
  | .generators provider => listGenerators source host s provider
  | .examples name => printExamples host name
  | .initConfig path force => initConfig host path force

/-- Carries out an invocation. -/
def execute (host : Host m) (i : Invocation) : Work m Unit :=
  match i.command with
  | .initConfig path force => initConfig host path force
  | command => do
      let s ← loadSettings host i.globals
      prepareLog host s.logging
      obey source host s command

/-- What is said of arguments that do not fit. -/
def misuseText : String :=
  "error: the arguments do not fit\n\nFor more information, try '--help'.\n"

/-- Runs the program with the texts of a source and the given arguments; the exit status. -/
def run (host : Host m) (arguments : List String) : m Nat := do
  match ask arguments with
  | .tell text =>
      host.write text
      return 0
  | .misuse =>
      host.complain misuseText
      return 2
  | .run invocation =>
      match ← (execute source host invocation).run with
      | .ok () => return 0
      | .error e =>
          host.tell (commandFailed e)
          host.complain e.report
          return e.exitCode

end Fabricate.CommandLine
