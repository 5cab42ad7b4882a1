import Fabricate.CommandLine.Arguments
import Fabricate.Decimal.Integer
import Fabricate.Request

/-!
# Commands

What the program can be asked to do, and how the arguments say it. Some options may stand with any
command and with any of the words that name it; the one that stands last counts.
-/

namespace Fabricate.CommandLine

/-- The options that every command takes. -/
structure Globals where
  /-- The settings file. -/
  config : Option String
  logLevel : Option String
  logJson : Bool
  deriving DecidableEq

/-- What to put in place of the fields of a request. -/
structure Overrides where
  count : Option UInt64
  locale : Option String
  seed : Option UInt64
  format : Option OutputFormat
  deriving DecidableEq

/-- The arguments of the command that generates. -/
structure GenerateArgs where
  /-- The file with the request; a dash stands for the standard input. -/
  template : String
  overrides : Overrides
  /-- The file for the documents; the standard output when missing. -/
  out : Option String
  timeoutMs : Option UInt64
  deriving DecidableEq

/-- A command. -/
inductive Command where
  | generate (args : GenerateArgs)
  | validate (template : String)
  | generators (provider : Option String)
  | examples (name : Option String)
  /-- Writes a settings file. -/
  | initConfig (path : String) (force : Bool)
  deriving DecidableEq

/-- A command with the options that every command takes. -/
structure Invocation where
  globals : Globals
  command : Command
  deriving DecidableEq

/-- What the arguments ask for. -/
inductive Asked where
  | run (invocation : Invocation)
  | tell (text : String)
  | misuse
  deriving DecidableEq

/-! ### Descriptions -/

/-- Whether a value is a path at all. -/
def isPath (value : String) : Bool :=
  !value.isEmpty

/-- Whether a value is an unsigned word. -/
def isWord (value : String) : Bool :=
  (Decimal.word? value.toList).isSome

/-- An option whose value may be any text. -/
def textOption (name value help : String) : OptionSpec :=
  ⟨name, some value, fun _ => true, help⟩

/-- An option whose value is a path. -/
def pathOption (name value help : String) : OptionSpec :=
  ⟨name, some value, isPath, help⟩

/-- An option whose value is a number. -/
def numberOption (name value help : String) : OptionSpec :=
  ⟨name, some value, isWord, help⟩

/-- An option without a value. -/
def flagOption (name help : String) : OptionSpec :=
  ⟨name, none, fun _ => true, help⟩

/-- The options that may stand with every command. -/
def globalOptions : List OptionSpec :=
  [pathOption "config" "PATH" "Settings file (defaults to ./phoney.toml when present)",
    textOption "log-level" "LEVEL" "Log filter, overriding the settings file",
    flagOption "log-json" "Emit JSON logs"]

/-- Two rows of options as one. Of those at the same place in their rows, the one whose name comes
first stands first. -/
def interleaved : List OptionSpec → List OptionSpec → List OptionSpec
  | [], others => others
  | own, [] => own
  | o :: own, p :: others =>
      (if o.name ≤ p.name then [o, p] else [p, o]) ++ interleaved own others

/-- A command without subcommands. -/
def plainSpec (about : String) (options : List OptionSpec) (operands : List OperandSpec) :
    CommandSpec :=
  ⟨about, interleaved options globalOptions, operands, []⟩

/-- The arguments of `generate`. -/
def generateSpec : CommandSpec :=
  plainSpec "Generate documents from a template"
    [numberOption "count" "COUNT" "",
      textOption "locale" "LOCALE" "",
      numberOption "seed" "SEED" "",
      ⟨"format", some "FORMAT", fun v => (OutputFormat.ofName? v).isSome,
        "[possible values: json, csv]"⟩,
      pathOption "out" "OUT" "Write output to a file instead of stdout",
      numberOption "timeout-ms" "MS" "Cancel the batch after this many milliseconds"]
    [⟨"TEMPLATE", true, "Template or request file; `-` reads stdin"⟩]

/-- The arguments of `validate`. -/
def validateSpec : CommandSpec :=
  plainSpec "Check a template without generating data" [] [⟨"TEMPLATE", true, ""⟩]

/-- The arguments of `generators`. -/
def generatorsSpec : CommandSpec :=
  plainSpec "List available generators"
    [textOption "provider" "PROVIDER" "Only list generators from this provider"] []

/-- The arguments of `examples`. -/
def examplesSpec : CommandSpec :=
  plainSpec "Print built-in sample requests" []
    [⟨"NAME", false, "Print only this sample's request"⟩]

/-- The arguments of `config init`. -/
def initSpec : CommandSpec :=
  plainSpec "Write a settings file with default values"
    [pathOption "path" "PATH" "[default: phoney.toml]", flagOption "force" ""] []

/-- What is said of the subcommand that shows help. -/
def helpEntry : String × String :=
  ("help", "Print this message or the help of the given subcommand(s)")

/-- The arguments of `config`. -/
def configSpec : CommandSpec :=
  ⟨"", globalOptions, [], [("init", initSpec.about), helpEntry]⟩

/-- The arguments of the program. -/
def programSpec : CommandSpec :=
  ⟨"Fill JSON templates with fake data", globalOptions, [],
    [("generate", generateSpec.about), ("validate", validateSpec.about),
      ("generators", generatorsSpec.about), ("examples", examplesSpec.about),
      ("config", configSpec.about), helpEntry]⟩

/-- The name and the number of the program's version. -/
def versionText : String := "phoney 0.1.0\n"

/-! ### Reading -/

/-- The options for every command among some arguments, in place of those read before. -/
def Globals.update (g : Globals) (a : Arguments) : Globals where
  config := (a.option? "config").or g.config
  logLevel := (a.option? "log-level").or g.logLevel
  logJson := a.has "log-json" || g.logJson

/-- The unsigned word that an option gives. -/
def Arguments.word? (a : Arguments) (name : String) : Option UInt64 :=
  (a.option? name).bind fun value => Decimal.word? value.toList

/-- The command of the arguments of `generate`. -/
def generateCommand (a : Arguments) : Command :=
  .generate
    { template := a.operands.headD ""
      overrides :=
        { count := a.word? "count"
          locale := a.option? "locale"
          seed := a.word? "seed"
          format := (a.option? "format").bind OutputFormat.ofName? }
      out := a.option? "out"
      timeoutMs := a.word? "timeout-ms" }

/-- The settings file where no other is named. -/
def settingsPath : String := "phoney.toml"

/-- The command of the arguments of `config init`. -/
def initCommand (a : Arguments) : Command :=
  .initConfig ((a.option? "path").getD settingsPath) (a.has "force")

/-- A command without subcommands: its name, its arguments and what it makes of them. -/
def leaves : List (List String × CommandSpec × (Arguments → Command)) :=
  [(["generate"], generateSpec, generateCommand),
    (["validate"], validateSpec, fun a => .validate (a.operands.headD "")),
    (["generators"], generatorsSpec, fun a => .generators (a.option? "provider")),
    (["examples"], examplesSpec, fun a => .examples a.operands.head?),
    (["config", "init"], initSpec, initCommand)]

/-- The description that belongs to a row of words. -/
def specOf? : List String → Option CommandSpec
  | [] => some programSpec
  | ["config"] => some configSpec
  | words => (leaves.find? fun (name, _, _) => name = words).map fun (_, spec, _) => spec

/-- The help of the subcommand that shows help, which is called by the given words. -/
def helpOnHelp (words : String) : String :=
  helpEntry.snd ++ "\n\nUsage: " ++ words ++ " [COMMAND]...\n" ++
    helpRows "Arguments" [("[COMMAND]...", "Print help for the subcommand(s)")]

/-- The help of the command that some words name. -/
def helpOf (words : List String) : Asked :=
  let called := " ".intercalate ("phoney" :: words)
  match specOf? words with
  | some spec => .tell (spec.helpText called words.isEmpty)
  | none =>
      if words = ["help"] || words = ["config", "help"] then .tell (helpOnHelp called)
      else .misuse

/-- What a reading that ended early asks for. -/
def ofStop (words : List String) : Stop → Asked
  | .help => helpOf words
  | .version => .tell versionText
  | .misuse => .misuse

/-- The command that some words name, once its arguments are read. -/
def askLeaf (words : List String) (g : Globals) (arguments : List String) : Asked :=
  match leaves.find? fun (name, _, _) => name = words with
  | none => .misuse
  | some (_, spec, command) =>
      match scan spec false .empty arguments with
      | .error stop => ofStop words stop
      | .ok (a, _) =>
          if a.complete spec then .run ⟨g.update a, command a⟩ else .misuse

/-- Reads the arguments after `config`. -/
def askConfig (g : Globals) (arguments : List String) : Asked :=
  match scan configSpec false .empty arguments with
  | .error stop => ofStop ["config"] stop
  | .ok (_, "help" :: words) => helpOf ("config" :: words)
  | .ok (a, word :: rest) => askLeaf ["config", word] (g.update a) rest
  | .ok (_, []) => .misuse

/-- What the arguments of the program ask for. -/
def ask (arguments : List String) : Asked :=
  match scan programSpec true .empty arguments with
  | .error stop => ofStop [] stop
  | .ok (_, "help" :: words) => helpOf words
  | .ok (a, "config" :: rest) => askConfig (Globals.update ⟨none, none, false⟩ a) rest
  | .ok (a, word :: rest) => askLeaf [word] (Globals.update ⟨none, none, false⟩ a) rest
  | .ok (_, []) => .misuse

end Fabricate.CommandLine
