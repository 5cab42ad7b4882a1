/-!
# Arguments

The arguments of a command are read from left to right. What starts with two dashes is an option,
whose value follows it after an equals sign or as the next argument; a single dash starts one of the
short options; everything else is an operand, and after two dashes alone everything is. The first
argument that does not fit ends the reading. A command with subcommands takes no operands of its
own: the first operand names the subcommand, and the rest is for that one to read.

The options and operands of a command are data, so its help is written from the same description
that its arguments are read by.
-/

namespace Fabricate.CommandLine

/-- An option that is written out. -/
structure OptionSpec where
  name : String
  /-- What the value is called; an option without one takes no value. -/
  value : Option String
  /-- Which values are accepted. -/
  admits : String → Bool
  help : String

/-- An operand. -/
structure OperandSpec where
  name : String
  required : Bool
  help : String

/-- The arguments that a command takes. -/
structure CommandSpec where
  about : String
  options : List OptionSpec
  operands : List OperandSpec
  /-- The names of the subcommands, each with what it is about. -/
  subcommands : List (String × String)

/-- What was read so far: the options, the last one first, and the operands. -/
structure Arguments where
  options : List (String × String)
  operands : List String

/-- Why reading ends early. -/
inductive Stop where
  | help
  | version
  /-- The arguments do not fit the command. -/
  | misuse
  deriving DecidableEq

namespace Arguments

/-- No arguments. -/
def empty : Arguments := ⟨[], []⟩

/-- The value of an option. -/
def option? (a : Arguments) (name : String) : Option String :=
  (a.options.find? fun (n, _) => n = name).map Prod.snd

/-- Whether an option was given. -/
def has (a : Arguments) (name : String) : Bool :=
  (a.option? name).isSome

end Arguments

/-- The name of a long option and the value after its equals sign. -/
def longOption (cs : List Char) : String × Option String :=
  let name := String.ofList (cs.takeWhile (· ≠ '='))
  match cs.dropWhile (· ≠ '=') with
  | [] => (name, none)
  | _ :: value => (name, some (String.ofList value))

/-- Whether an argument can be the value of the option before it. -/
def isValue (argument : String) : Bool :=
  argument.toList.head? ≠ some '-' || argument = "-"

/-- Gives an option a value, unless it has one or the value is not accepted. -/
def Arguments.putOption (a : Arguments) (spec : OptionSpec) (value : String) :
    Except Stop Arguments :=
  if a.has spec.name || !spec.admits value then .error .misuse
  else .ok { a with options := (spec.name, value) :: a.options }

/-- Adds an operand, unless there are enough. -/
def Arguments.putOperand (a : Arguments) (spec : CommandSpec) (operand : String) :
    Except Stop Arguments :=
  if a.operands.length < spec.operands.length then
    .ok { a with operands := a.operands ++ [operand] }
  else .error .misuse

/-- Adds operands after two dashes alone. -/
def Arguments.putOperands (a : Arguments) (spec : CommandSpec) : List String → Except Stop Arguments
  | [] => .ok a
  | operand :: rest =>
      match a.putOperand spec operand with
      | .ok a => a.putOperands spec rest
      | .error stop => .error stop

/-- Why a short option ends the reading. Only the outermost command has a version. -/
def shortOption (isOutermost : Bool) (letters : List Char) : Stop :=
  if letters.head? = some 'h' then .help
  else if isOutermost && letters.head? = some 'V' then .version
  else .misuse

/-- What an option that is written out does: it ends the reading, or it is one of the command's. -/
def findOption (spec : CommandSpec) (isOutermost : Bool) (name : String) (hasValue : Bool) :
    Except Stop OptionSpec :=
  match spec.options.find? (·.name = name) with
  | some option => .ok option
  | none =>
      if hasValue then .error .misuse
      else if name = "help" then .error .help
      else if isOutermost && name = "version" then .error .version
      else .error .misuse

/-- Reads arguments up to the name of a subcommand or to the end; also what was not read. -/
def scan (spec : CommandSpec) (isOutermost : Bool) (a : Arguments) :
    List String → Except Stop (Arguments × List String)
  | [] => .ok (a, [])
  | argument :: rest =>
      match argument.toList with
      | ['-', '-'] =>
          if spec.subcommands.isEmpty then (a.putOperands spec rest).map fun a => (a, [])
          else .error .misuse
      | '-' :: '-' :: cs =>
          let (name, attached) := longOption cs
          match findOption spec isOutermost name attached.isSome with
          | .error stop => .error stop
          | .ok option =>
              match option.value, attached, rest with
              | none, none, rest =>
                  match a.putOption option "" with
                  | .ok a => scan spec isOutermost a rest
                  | .error stop => .error stop
              | some _, some value, rest =>
                  match a.putOption option value with
                  | .ok a => scan spec isOutermost a rest
                  | .error stop => .error stop
              | some _, none, value :: rest =>
                  if isValue value then
                    match a.putOption option value with
                    | .ok a => scan spec isOutermost a rest
                    | .error stop => .error stop
                  else .error .misuse
              | _, _, _ => .error .misuse
      | '-' :: c :: cs => .error (shortOption isOutermost (c :: cs))
      | _ =>
          if spec.subcommands.isEmpty then
            match a.putOperand spec argument with
            | .ok a => scan spec isOutermost a rest
            | .error stop => .error stop
          else .ok (a, argument :: rest)

/-- Whether all operands that must be there are. -/
def Arguments.complete (a : Arguments) (spec : CommandSpec) : Bool :=
  (spec.operands.filter (·.required)).length ≤ a.operands.length

/-! ### Help -/

/-- A row of help: the term, blanks up to the given width, and what is said of it. -/
def helpRow (width : Nat) (term help : String) : String :=
  "  " ++ term ++ "".pushn ' ' (width - term.length) ++ "  " ++ help ++ "\n"

/-- Rows of help under a heading, in one column. -/
def helpRows (heading : String) (rows : List (String × String)) : String :=
  if rows.isEmpty then ""
  else
    let width := (rows.map fun (term, _) => term.length).foldl max 0
    "\n" ++ heading ++ ":\n" ++ String.join (rows.map fun (term, help) => helpRow width term help)

/-- An operand as it stands in the help. -/
def OperandSpec.term (o : OperandSpec) : String :=
  if o.required then "<" ++ o.name ++ ">" else "[" ++ o.name ++ "]"

/-- An option as it stands in the help. -/
def OptionSpec.term (o : OptionSpec) : String :=
  "    --" ++ o.name ++ (match o.value with | none => "" | some v => " <" ++ v ++ ">")

/-- The help of a command, which is called by the given words. -/
def CommandSpec.helpText (spec : CommandSpec) (words : String) (isOutermost : Bool) : String :=
  let usage := words ++ " [OPTIONS]" ++
    String.join (spec.operands.map fun o => " " ++ o.term) ++
    (if spec.subcommands.isEmpty then "" else " <COMMAND>")
  let about := if spec.about.isEmpty then "" else spec.about ++ "\n\n"
  about ++ "Usage: " ++ usage ++ "\n" ++
    helpRows "Commands" spec.subcommands ++
    helpRows "Arguments" (spec.operands.map fun o => (o.term, o.help)) ++
    helpRows "Options"
      (spec.options.map (fun o => (o.term, o.help)) ++ [("-h, --help", "Print help")] ++
        (if isOutermost then [("-V, --version", "Print version")] else []))

end Fabricate.CommandLine
