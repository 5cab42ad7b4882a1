import Fabricate.CommandLine.Path

/-!
# Locations

A location is where a path leads: a row of names from the root, or from a directory some levels
above the one that the program works in. What the directories above are called is not known, so
every one of them has another one above it. Some locations are those of devices.
-/

namespace Fabricate.CommandLine

/-- Where the names of a location start. -/
inductive Origin where
  | root
  /-- The directory that many levels above the one that the program works in. -/
  | above (levels : Nat)
  deriving DecidableEq

/-- Where a path leads. -/
structure Location where
  origin : Origin
  names : List String
  deriving DecidableEq

namespace Location

/-- The directory that the program works in. -/
def here : Location := ⟨.above 0, []⟩

/-- The location of that name in a directory. -/
def child (p : Location) (name : String) : Location :=
  { p with names := p.names ++ [name] }

/-- The directory that a location is in; the root is in itself. -/
def parent (p : Location) : Location :=
  match p.names, p.origin with
  | [], .root => p
  | [], .above levels => ⟨.above (levels + 1), []⟩
  | _ :: _, origin => ⟨origin, p.names.dropLast⟩

/-- The shortest path to a location. -/
def text (p : Location) : String :=
  match p.origin with
  | .root => "/" ++ "/".intercalate p.names
  | .above levels => "/".intercalate (List.replicate levels ".." ++ p.names)

/-- What the files of the system stand for. -/
inductive Device where
  /-- It is empty, and what is written to it is lost. -/
  | null
  | input
  | output
  | errorOutput
  deriving DecidableEq

/-- The names that lead from the root to the devices. The streams of a program also go by their
numbers. -/
def devices : List (List String × Device) :=
  [(["dev", "null"], .null), (["dev", "stdin"], .input), (["dev", "stdout"], .output),
    (["dev", "stderr"], .errorOutput), (["dev", "fd", "0"], .input), (["dev", "fd", "1"], .output),
    (["dev", "fd", "2"], .errorOutput), (["proc", "self", "fd", "0"], .input),
    (["proc", "self", "fd", "1"], .output), (["proc", "self", "fd", "2"], .errorOutput)]

/-- The device at a location. -/
def device? (p : Location) : Option Device :=
  if p.origin = .root then (devices.find? fun (names, _) => names = p.names).map Prod.snd else none

/-- Going down to a name and up again leads back. -/
theorem parent_child (p : Location) (name : String) : (p.child name).parent = p := by
  obtain ⟨origin, names⟩ := p
  cases names with
  | nil => rfl
  | cons first rest =>
    have h : (first :: rest ++ [name]).dropLast = first :: rest := List.dropLast_concat
    exact congrArg (Location.mk origin) h

end Location

end Fabricate.CommandLine
