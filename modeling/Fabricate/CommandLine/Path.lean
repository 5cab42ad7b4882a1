import Fabricate.Text.Blank

/-!
# Paths

A path is read twice. The machine takes it step by step, from the root or from the directory that
the program works in: a single dot stays, two dots go up, any other step is a name. To find the file
that a path means and the directory it is in, the path is looked at as a text: single dots count for
nothing there, unless the path starts with one.
-/

namespace Fabricate.CommandLine

/-- A path: whether it starts at the root, its steps, and whether it must be that of a directory
because it ends with a slash. -/
structure Path where
  absolute : Bool
  steps : List String
  closed : Bool
  deriving DecidableEq

namespace Path

/-- The path that a text writes. -/
def ofText (text : String) : Path :=
  let pieces := (Text.splitAll '/' text.toList).map String.ofList
  { absolute := text.toList.head? = some '/'
    steps := pieces.filter fun piece => piece ≠ ""
    closed := text.toList.getLast? = some '/' }

/-- The text of a path. -/
def text (p : Path) : String :=
  (if p.absolute then "/" else "") ++ "/".intercalate p.steps ++
    (if p.closed && !p.steps.isEmpty then "/" else "")

/-- Whether a path has no step at all. -/
def isEmpty (p : Path) : Bool :=
  !p.absolute && p.steps.isEmpty

/-- The steps of which the text of a path is made up: all but single dots. -/
def named (steps : List String) : List String :=
  steps.filter fun step => step ≠ "."

/-- The parts of a path as a text. A single dot is one where it starts a path that does not start at
the root. -/
def parts (p : Path) : List String :=
  match p.steps with
  | [] => []
  | step :: steps => if p.absolute then named (step :: steps) else step :: named steps

/-- The path without its last part; none when there is no part. -/
def parent? (p : Path) : Option Path :=
  if p.parts.isEmpty then none else some ⟨p.absolute, p.parts.dropLast, false⟩

/-- The name of the file that a path means; none when it ends with dots. -/
def fileName? (p : Path) : Option String :=
  p.parts.getLast?.filter fun part => part ≠ "." && part ≠ ".."

/-- The path with another name in place of its file's. -/
def withFileName (p : Path) (name : String) : Path :=
  ⟨p.absolute, p.parts.dropLast ++ [name], false⟩

/-- The file that a text is written to before it takes the place of another. -/
def temporary? (p : Path) : Option Path :=
  p.fileName?.map fun name => p.withFileName ("." ++ name ++ ".tmp")

/-- The directories that must be there for a path, from the innermost outwards. -/
def ancestors (p : Path) : List Path :=
  let parts := p.parts.dropLast
  ((List.range parts.length).map fun n => ⟨p.absolute, parts.take (n + 1), false⟩).reverse

theorem getLast?_parts {p : Path} {steps : List String} {name : String}
    (hp : p.steps = steps ++ [name]) (h : name ≠ ".") : p.parts.getLast? = some name := by
  cases steps with
  | nil => simp [parts, named, hp, h]
  | cons step steps =>
    by_cases ha : p.absolute <;> simp [parts, named, hp, h, ha, List.getLast?_cons]

/-- A file's name can be replaced by any text that is a name. -/
theorem fileName?_withFileName (p : Path) {name : String} (h : name ≠ ".") (h' : name ≠ "..") :
    (p.withFileName name).fileName? = some name := by
  have hl : (p.withFileName name).parts.getLast? = some name := getLast?_parts rfl h
  simp [fileName?, hl, h, h']

end Path

end Fabricate.CommandLine
