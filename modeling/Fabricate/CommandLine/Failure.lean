import Fabricate.CommandLine.Host
import Fabricate.CommandLine.LogFilter
import Fabricate.Request
import Fabricate.Settings

/-!
# Failures of commands

Why a command failed, what is said of it and the exit status that tells who is to blame: two for the
caller, one for everything else. A failure of the engine is told as its body, every other one as one
line.
-/

namespace Fabricate.CommandLine

/-- Why there are no settings. -/
inductive ConfigError where
  | file (fault : FileFault)
  | settings (error : SettingsError)
  /-- A settings file is not overwritten unless that is forced. -/
  | occupied (path : String)
  deriving DecidableEq

/-- What is said when there are no settings. -/
def ConfigError.message : ConfigError → String
  | file fault => "io error: " ++ fault.message
  | settings error => error.message
  | occupied path =>
      "invalid configuration: " ++ path ++ " already exists (use --force to overwrite)"

/-- Why nothing can be logged. -/
inductive LogError where
  | file (fault : FileFault)
  | badFilter (fault : FilterFault)
  deriving DecidableEq

/-- What is said when nothing can be logged. -/
def LogError.message : LogError → String
  | file fault => "io error: " ++ fault.message
  | badFilter fault => "invalid log filter: " ++ fault.message

/-- Why a command failed. -/
inductive CommandError where
  | config (error : ConfigError)
  | logging (error : LogError)
  | file (fault : FileFault)
  | request (error : RequestError)
  | generation (failure : Fabricate.Failure)
  | invalidTemplate
  /-- The documents took longer than they may. -/
  | timeout (milliseconds : UInt64)
  | unknownExample (name : String)
  deriving DecidableEq

namespace CommandError

/-- What is said of the failure. -/
def message : CommandError → String
  | config error => "configuration error: " ++ error.message
  | logging error => "logging error: " ++ error.message
  | file fault => "io error: " ++ fault.message
  | request error => "invalid request: " ++ error.message
  | generation failure => failure.message
  | invalidTemplate => "template is invalid"
  | timeout ms =>
      "generation timed out after " ++ String.ofList (Decimal.ofNat ms.toNat) ++ " ms"
  | unknownExample name => "unknown example '" ++ name ++ "'"

/-- Whether the caller is to blame. -/
def blamesCaller : CommandError → Bool
  | generation failure => failure.blamesCaller
  | config _ | request _ | invalidTemplate | unknownExample _ => true
  | logging _ | file _ | timeout _ => false

/-- The exit status. A log filter whose parts cannot be cut out stops the program at once, with a
status of its own. -/
def exitCode (e : CommandError) : Nat :=
  if e = .logging (.badFilter .misaligned) then 101
  else if e.blamesCaller then 2
  else 1

/-- The body of a failure of the engine. -/
def body? : CommandError → Option ErrorBody
  | generation failure => some failure.body
  | timeout ms => some ⟨.cancelled, message (.timeout ms), []⟩
  | _ => none

/-- The text for the standard error output. -/
def report (e : CommandError) : String :=
  match e.body? with
  | some body => body.toJson.renderPretty ++ "\n"
  | none => "error: " ++ e.message ++ "\n"

end CommandError

end Fabricate.CommandLine
