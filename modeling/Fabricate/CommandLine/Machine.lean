import Fabricate.CommandLine.Host
import Fabricate.CommandLine.Location
import Fabricate.Directory

/-!
# Machines in memory

A machine that is a value: its files, its environment, what its standard input holds and what was
written to its outputs. Running a program on it is a function from machines to machines.

A directory is there because it was made or for the files in it. The one that the program works in,
those above it and those of the system are always there, and so are the devices, where no other
files are put in their places. A path is followed step by step, and every step starts from a
directory that is there.

The log stays with the file that it was opened in: when that file is moved it goes on at the other
place, and when another file is put in place of it the log is lost. How an event is written down is
left to the machine.
-/

namespace Fabricate.CommandLine

/-- Where the log is kept. -/
inductive LogPlace where
  | output
  | errorOutput
  | file (p : Location)
  /-- What is written is lost. -/
  | nowhere
  deriving DecidableEq

/-- Where the log is kept when the file at one location was moved to another one. -/
def LogPlace.moved (source target : Location) : LogPlace → LogPlace
  | .file p =>
      if p.text = source.text then .file target
      else if p.text = target.text then .nowhere
      else .file p
  | place => place

/-- A log that is open. -/
structure OpenLog where
  style : LogStyle
  place : LogPlace
  deriving DecidableEq

/-- The log when the file at one location was moved to another one. -/
def OpenLog.moved (source target : Location) (log : OpenLog) : OpenLog :=
  { log with place := log.place.moved source target }

/-- A machine in memory. Files are kept under the shortest paths to them. -/
structure Machine where
  files : Directory String
  /-- The directories that were made. -/
  folders : List Location
  environment : List (String × String)
  stdin : String
  stdout : String
  stderr : String
  day : Calendar.Date
  /-- The log, once it is open. -/
  log : Option OpenLog
  /-- The number of events that the log was told of. -/
  told : Nat
  /-- What an event adds to the log, when so many came before it: nothing where the filter leaves it
  out, or else a text that may show the time. -/
  logText : LogStyle → Nat → LogEvent → String

namespace Machine

/-- The greatest number of bytes of a name. -/
def maxName : Nat := 255

/-- The least number of bytes that is too much for a path. -/
def pathLimit : Nat := 4096

/-- The names that lead from the root to the directories of the system. -/
def systemFolders : List (List String) :=
  [["bin"], ["dev"], ["dev", "fd"], ["etc"], ["home"], ["lib"], ["proc"], ["proc", "self"],
    ["proc", "self", "fd"], ["root"], ["sys"], ["tmp"], ["usr"], ["var"]]

/-- Whether there is a file at a location. -/
def isFile (m : Machine) (p : Location) : Bool :=
  m.files.has p.text || p.device?.isSome

/-- The text of a device that can be read. -/
def deviceText? (m : Machine) : Location.Device → Option String
  | .null => some ""
  | .input => some m.stdin
  | .output | .errorOutput => none

/-- The text of the file at a location, if it can be read. -/
def textAt? (m : Machine) (p : Location) : Option String :=
  (m.files.get? p.text).or (p.device?.bind m.deviceText?)

/-- Whether there is a directory at a location. -/
def isDirectory (m : Machine) (p : Location) : Bool :=
  p.names.isEmpty || m.folders.contains p ||
    (p.origin = .root && systemFolders.contains p.names) ||
    m.files.names.any fun file => (p.text ++ "/").isPrefixOf file

/-- The location one step away from a directory. -/
def enter (m : Machine) (p : Location) (step : String) : Except FileFault Location :=
  if m.isFile p then .error .notDirectory
  else if !m.isDirectory p then .error .notFound
  else if step = "." then .ok p
  else if step = ".." then .ok p.parent
  else if maxName < Text.byteLength step.toList then .error .nameTooLong
  else .ok (p.child step)

/-- The location some steps away. -/
def walk (m : Machine) (p : Location) : List String → Except FileFault Location
  | [] => .ok p
  | step :: steps => do m.walk (← m.enter p step) steps

/-- The location where a path starts. -/
def start (p : Path) : Except FileFault Location :=
  if p.text.toList.contains '\x00' then .error .zeroByte
  else if p.isEmpty then .error .notFound
  else if pathLimit ≤ Text.byteLength p.text.toList then .error .nameTooLong
  else .ok (if p.absolute then ⟨.root, []⟩ else .here)

/-- The location where a path leads. There need not be anything. -/
def resolve (m : Machine) (p : Path) : Except FileFault Location := do
  m.walk (← start p) p.steps

/-- The location in a directory that the last step of a path names; none when the path ends with
dots or is that of the root, and so leads to a directory that is there. -/
def entry? (m : Machine) (p : Path) : Except FileFault (Option Location) := do
  let location ← m.resolve p
  return match p.steps.getLast? with
    | none => none
    | some step => if step = "." || step = ".." then none else some location

/-- Whether a path leads to a directory. -/
def leadsToDirectory (m : Machine) (p : Path) : Bool :=
  match m.resolve p with
  | .ok location => m.isDirectory location
  | .error _ => false

/-- Whether a path leads to a file or a directory. -/
def hasPath (m : Machine) (path : String) : Bool :=
  let p := Path.ofText path
  match m.resolve p with
  | .ok location => m.isDirectory location || (m.isFile location && !p.closed)
  | .error _ => false

/-- The text of a file. -/
def read (m : Machine) (path : String) : Except FileFault String := do
  let p := Path.ofText path
  let location ← m.resolve p
  if m.isDirectory location then throw .isDirectory
  if !m.isFile location then throw .notFound
  if p.closed then throw .notDirectory
  match m.textAt? location with
  | some text => return text
  | none => throw .denied

/-- The location of a file that can be written, whether it is there or not. -/
def writable (m : Machine) (p : Path) : Except FileFault Location := do
  match ← m.entry? p with
  | none => throw .isDirectory
  | some location =>
      if p.closed || m.isDirectory location then throw .isDirectory else return location

/-- The machine with another text in a file. -/
def put (m : Machine) (p : Location) (text : String) : Machine :=
  { m with files := m.files.put p.text text }

/-- Where a log is kept that goes to the end of a file. The input takes none. -/
def logPlace (m : Machine) (p : Location) : Except FileFault LogPlace :=
  if m.files.has p.text then .ok (.file p)
  else
    match p.device? with
    | none => .ok (.file p)
    | some .null => .ok .nowhere
    | some .input => .error .denied
    | some .output => .ok .output
    | some .errorOutput => .ok .errorOutput

/-- The machine with an empty file at a location where there is none. -/
def touch (m : Machine) (p : Location) : Machine :=
  if m.isFile p then m else m.put p ""

/-- Opens the log in the file that a path leads to, which is made where it is missing, or else in
the standard error output. -/
def openLog (m : Machine) (style : LogStyle) (path : Option String) :
    Except FileFault Unit × Machine :=
  match path with
  | none => (.ok (), { m with log := some ⟨style, .errorOutput⟩ })
  | some path =>
      match m.writable (Path.ofText path) with
      | .error fault => (.error fault, m)
      | .ok location =>
          match m.logPlace location with
          | .error fault => (.error fault, m)
          | .ok place => (.ok (), { m.touch location with log := some ⟨style, place⟩ })

/-- The machine with a text at the end of the log. -/
def addToLog (m : Machine) (text : String) : LogPlace → Machine
  | .output => { m with stdout := m.stdout ++ text }
  | .errorOutput => { m with stderr := m.stderr ++ text }
  | .file p =>
      match m.files.get? p.text with
      | some before => m.put p (before ++ text)
      | none => m
  | .nowhere => m

/-- Tells the log of an event, if it is open. -/
def tell (m : Machine) (e : LogEvent) : Machine :=
  match m.log with
  | none => m
  | some log =>
      { m.addToLog (m.logText log.style m.told e) log.place with told := m.told + 1 }

/-- Makes a directory. -/
def makeFolder (m : Machine) (p : Path) : Except FileFault Machine := do
  match ← m.entry? p with
  | none => throw .alreadyExists
  | some location =>
      if m.isFile location || m.isDirectory location then throw .alreadyExists
      else return { m with folders := location :: m.folders }

/-- Makes a directory unless it is there. -/
def ensureFolder (m : Machine) (p : Path) : Except FileFault Machine :=
  match m.makeFolder p with
  | .ok after => .ok after
  | .error fault => if m.leadsToDirectory p then .ok m else .error fault

/-- Makes the first of some directories, each of which is in the next one; those that it is in are
made where they are missing. -/
def ensureFolders (m : Machine) : List Path → Except FileFault Unit × Machine
  | [] => (.ok (), m)
  | p :: outer =>
      match m.ensureFolder p with
      | .ok m => (.ok (), m)
      | .error .notFound =>
          match m.ensureFolders outer with
          | (.error fault, m) => (.error fault, m)
          | (.ok (), m) =>
              match m.ensureFolder p with
              | .ok m => (.ok (), m)
              | .error fault => (.error fault, m)
      | .error fault => (.error fault, m)

/-- Puts a file in place of the one that a path leads to. -/
def move (m : Machine) (source : Location) (p : Path) : Except FileFault Machine := do
  match ← m.entry? p with
  | none => throw .busy
  | some location =>
      if p.closed then throw .notDirectory
      else if m.isDirectory location then throw .isDirectory
      else
        let text := (m.textAt? source).getD ""
        let files := m.files.filter fun (file, _) => file ≠ source.text
        let log := m.log.map (OpenLog.moved source location)
        return { m with files := files, log := log }.put location text

/-- Puts a text in place of a file. It is written to a temporary file first, which stays behind when
the path turns out to be no place for a file. -/
def replace (m : Machine) (path text : String) : Except FileFault Unit × Machine :=
  let p := Path.ofText path
  match m.ensureFolders p.ancestors with
  | (.error fault, m) => (.error fault, m)
  | (.ok (), m) =>
      match p.temporary? with
      | none => (.error .nameless, m)
      | some temporary =>
          match m.writable temporary with
          | .error fault => (.error fault, m)
          | .ok location =>
              let m := m.put location text
              match m.move location p with
              | .error fault => (.error fault, m)
              | .ok m => (.ok (), m)

/-- The value of a variable of the environment. -/
def environment? (m : Machine) (name : String) : Option String :=
  (m.environment.find? fun (n, _) => n = name).map Prod.snd

/-- The machine as a host. Its clock stands still and it has one worker. -/
def host : Host (StateM Machine) where
  environment? name := do return (← get).environment? name
  input := do return .ok (← get).stdin
  hasPath path := do return (← get).hasPath path
  read path := do return (← get).read path
  replace path text := fun m => m.replace path text
  openLog style path := fun m => m.openLog style path
  tell e := modify fun m => m.tell e
  write text := modify fun m => { m with stdout := m.stdout ++ text }
  complain text := modify fun m => { m with stderr := m.stderr ++ text }
  clock := pure 0
  today := do return (← get).day
  chance := pure fun i => UInt64.ofNat (i * 0x9E3779B97F4A7C15)
  workers := pure 1

end Machine

end Fabricate.CommandLine
