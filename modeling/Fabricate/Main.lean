import Fabricate.CommandLine.LogLine
import Fabricate.CommandLine.Path
import Fabricate.CommandLine.Program
import Fabricate.Generator.Table.Source
import Fabricate.Seed.Derive

/-!
# The executable

The program on the machine that it is started on. Everything that is decided is decided by
`CommandLine.run`; here are only the actions it needs.
-/

namespace Fabricate.Executable

open CommandLine

/-- The fault behind an error of the system. -/
def faultOf : IO.Error → FileFault
  | .noFileOrDirectory .. => .notFound
  | .alreadyExists .. => .alreadyExists
  | .inappropriateType _ code _ => if code = 20 then .notDirectory else .isDirectory
  | .userError _ => .notText
  | .permissionDenied _ code details =>
      .other (details ++ " (os error " ++ toString code ++ ")")
  | e => .other (toString e)

/-- An action whose errors are faults. -/
def guarded {α : Type} (action : IO α) : IO (Except FileFault α) := do
  match ← action.toBaseIO with
  | .ok a => return .ok a
  | .error e => return .error (faultOf e)

/-- The bytes of a stream up to its end. -/
partial def bytesOf (stream : IO.FS.Stream) (before : ByteArray) : IO ByteArray := do
  let piece ← stream.read 65536
  if piece.isEmpty then return before else bytesOf stream (before ++ piece)

/-- The text of the standard input. -/
def input : IO (Except FileFault String) := do
  let bytes ← bytesOf (← IO.getStdin) .empty
  return match String.fromUTF8? bytes with
    | some text => .ok text
    | none => .error .notText

/-- Whether there is a file or a directory: it is there unless the system says that it is not. -/
def hasPath (path : String) : IO Bool := do
  match ← guarded (IO.FS.Handle.mk path .read) with
  | .error .notFound => return false
  | .error .notDirectory => return false
  | _ => return true

/-- Puts a text in place of a file by way of a temporary one beside it. -/
def replace (path text : String) : IO (Except FileFault Unit) := do
  let p := Path.ofText path
  let made ← guarded do
    match p.parent? with
    | some directory => if !directory.isEmpty then IO.FS.createDirAll directory.text
    | none => pure ()
  match made, p.temporary? with
  | .error fault, _ => return .error fault
  | .ok (), none => return .error .nameless
  | .ok (), some temporary => guarded do
      IO.FS.writeFile temporary.text text
      IO.FS.rename temporary.text path

/-- The words of a line. -/
def words (line : String) : List String :=
  ((Text.splitAll ' ' line.toList).map String.ofList).filter fun word => !word.isEmpty

/-- The number before a point. -/
def wholeNumber (word : String) : Nat :=
  (Decimal.nat? (word.toList.takeWhile Char.isDigit)).getD 0

/-- The lines of a file, none when it cannot be read. -/
def linesOf (path : String) : IO (List String) := do
  match ← guarded (IO.FS.readFile path) with
  | .ok text => return (Text.splitAll '\n' text.toList).map String.ofList
  | .error _ => return []

/-- The current day by universal time: the moment the system was started, and the time since. -/
def today : IO Calendar.Date := do
  let started := (← linesOf "/proc/stat").filterMap fun line =>
    match words line with
    | ["btime", seconds] => some (wholeNumber seconds)
    | _ => none
  let elapsed := (← linesOf "/proc/uptime").head?.bind fun line => (words line).head?
  let seconds := started.headD 0 + (elapsed.map wholeNumber).getD 0
  return (Calendar.Date.epoch.addDays? (seconds / 86400 : Nat)).getD .epoch

/-- The number of processors, at most eight. -/
def workers : IO Nat := do
  let processors := (← linesOf "/proc/cpuinfo").filter fun line => line.startsWith "processor"
  return max 1 (min processors.length 8)

/-- Seeds that nothing determines. -/
def chance : IO (Nat → UInt64) := do
  let bytes ← IO.getRandomBytes 8
  let base := bytes.toList.foldl (fun (n : UInt64) byte => n * 256 + byte.toUInt64) 0
  return fun i => Seed.item base (UInt64.ofNat i)

/-- Writes a text to a stream. -/
def writeTo (stream : IO.FS.Stream) (text : String) : IO Unit := do
  stream.putStr text
  stream.flush

/-- A log that is open: how it is written, and the stream that it goes to. -/
structure OpenLog where
  style : LogStyle
  stream : IO.FS.Stream

/-- Opens the log. -/
def openLog (log : IO.Ref (Option OpenLog)) (style : LogStyle) (path : Option String) :
    IO (Except FileFault Unit) :=
  guarded do
    let stream ← match path with
      | some path => do pure (.ofHandle (← IO.FS.Handle.mk path .append))
      | none => IO.getStderr
    log.set (some ⟨style, stream⟩)

/-- Tells the log of an event. What cannot be written is left out. -/
def tell (log : IO.Ref (Option OpenLog)) (e : LogEvent) : IO Unit := do
  match ← log.get with
  | none => return
  | some log => let _ ← (writeTo log.stream (log.style.line e)).toBaseIO

/-- The machine that the program is started on, with a place for the log. -/
def host (log : IO.Ref (Option OpenLog)) : Host IO where
  environment? name := IO.getEnv name
  input := input
  hasPath := hasPath
  read path := guarded (IO.FS.readFile path)
  replace := replace
  openLog style path := openLog log style path
  tell e := tell log e
  write text := do writeTo (← IO.getStdout) text
  complain text := do writeTo (← IO.getStderr) text
  clock := IO.monoMsNow
  today := today
  chance := chance
  workers := workers

end Fabricate.Executable

/-- Runs the program with texts from tables and ends with its exit status. -/
def main (arguments : List String) : IO UInt32 := do
  let log ← IO.mkRef none
  let host := Fabricate.Executable.host log
  let code ← Fabricate.CommandLine.run Fabricate.TextSource.tabled host arguments
  return UInt32.ofNat code
