import Fabricate.Calendar.Date
import Fabricate.Log

/-!
# Hosts

What the program needs from the machine it runs on: files, the standard streams, a log, the
environment, a clock and chance. The program is written against a host in any monad, so that it can
run on a real machine and on one that is a value.

The program opens the log at most once and tells it what happens. Until then, what the log is told
is lost.
-/

namespace Fabricate.CommandLine

/-- Why a file could not be used. -/
inductive FileFault where
  | notFound
  | isDirectory
  | notDirectory
  | alreadyExists
  | busy
  | nameTooLong
  /-- No path holds the character of code zero. -/
  | zeroByte
  /-- The path names no file. -/
  | nameless
  /-- The file is there, but not for this. -/
  | denied
  /-- The file holds something else than text. -/
  | notText
  | other (reason : String)
  deriving DecidableEq

/-- What is said of a file that could not be used. -/
def FileFault.message : FileFault → String
  | notFound => "No such file or directory (os error 2)"
  | isDirectory => "Is a directory (os error 21)"
  | notDirectory => "Not a directory (os error 20)"
  | alreadyExists => "File exists (os error 17)"
  | busy => "Device or resource busy (os error 16)"
  | nameTooLong => "File name too long (os error 36)"
  | zeroByte => "file name contained an unexpected NUL byte"
  | nameless => "invalid path for atomic write"
  | denied => "Permission denied (os error 13)"
  | notText => "stream did not contain valid UTF-8"
  | other reason => reason

/-- How a log is to be written. -/
structure LogStyle where
  /-- The filter that says which events count. -/
  filter : String
  /-- Whether events are written as JSON. -/
  json : Bool
  /-- Whether text may be coloured. -/
  colored : Bool
  deriving DecidableEq

/-- What a machine lends to the program. -/
structure Host (m : Type → Type) where
  /-- The value of a variable of the environment. -/
  environment? : String → m (Option String)
  /-- All of the standard input. -/
  input : m (Except FileFault String)
  /-- Whether there is a file or a directory. -/
  hasPath : String → m Bool
  /-- The text of a file. -/
  read : String → m (Except FileFault String)
  /-- Puts a text in place of a file, wholly or not at all. Missing directories are made. -/
  replace : String → String → m (Except FileFault Unit)
  /-- Opens the log. It goes to the end of the file that is named, which is made where it is
  missing, or else to the standard error output. -/
  openLog : LogStyle → Option String → m (Except FileFault Unit)
  /-- Tells the log of an event. -/
  tell : LogEvent → m Unit
  /-- Writes to the standard output. -/
  write : String → m Unit
  /-- Writes to the standard error output. -/
  complain : String → m Unit
  /-- A number of milliseconds that grows with time. -/
  clock : m Nat
  today : m Calendar.Date
  /-- Numbers that nothing determines. -/
  chance : m (Nat → UInt64)
  /-- The number of workers that the machine runs. -/
  workers : m Nat

end Fabricate.CommandLine
