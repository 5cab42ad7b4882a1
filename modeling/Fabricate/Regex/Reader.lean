import Fabricate.Regex.Class
import Fabricate.Text.Alphanumeric

/-!
# Reading regular expressions

An expression is read by a machine that keeps the groups still open. What was read last comes first
in its rows, because a mark of repetition is behind what it repeats. Switches hold up to the end of
the group that they stand in.
-/

namespace Fabricate.Regex

/-- A group that is open: what was read before it, and whether blanks counted there. -/
structure Frame where
  changes : List Switch
  choices : List Node
  parts : List Node
  verbose : Bool

/-- What was read so far: the names of groups, the alternatives and the parts of the last one in the
innermost group, and the groups around it from the inside outwards. -/
structure Reading where
  verbose : Bool
  names : List String
  choices : List Node
  parts : List Node
  frames : List Frame

namespace Reading

/-- The expression in the innermost group. -/
def content (r : Reading) : Node :=
  Node.ofChoices (Node.ofParts r.parts.reverse :: r.choices).reverse

/-- One more part. -/
def add (r : Reading) (part : Node) : Reading :=
  { r with parts := part :: r.parts }

/-- The end of an alternative. -/
def split (r : Reading) : Reading :=
  { r with choices := Node.ofParts r.parts.reverse :: r.choices, parts := [] }

/-- The last part repeated. Switches cannot be. -/
def repeatLast? (r : Reading) : Option Reading :=
  match r.parts with
  | [] => none
  | .switches _ :: _ => none
  | part :: parts => some { r with parts := .repeated part :: parts }

/-- The start of a group. -/
def enter (r : Reading) (changes : List Switch) : Reading where
  verbose := Switch.apply .verbose r.verbose changes
  names := r.names
  choices := []
  parts := []
  frames := ⟨changes, r.choices, r.parts, r.verbose⟩ :: r.frames

/-- The end of a group. -/
def leave? (r : Reading) : Option Reading :=
  match r.frames with
  | [] => none
  | f :: frames =>
      some ⟨f.verbose, r.names, f.choices, .group f.changes r.content :: f.parts, frames⟩

end Reading

/-! ### Groups -/

/-- The flag of a letter. -/
def flag? : Char → Option Flag
  | 'i' => some .caseless
  | 'm' => some .multiLine
  | 's' => some .dotAll
  | 'U' => some .lazy
  | 'u' => some .unicode
  | 'R' => some .pairedEnds
  | 'x' => some .verbose
  | _ => none

/-- Switches up to a closing parenthesis or up to a colon, which says that a group follows. Each
flag comes once, and the hyphen before those that are switched off comes once and not last. -/
def switchesFrom (before : List Switch) (on dangling : Bool) :
    List Char → Option (List Switch × Bool × List Char)
  | [] => none
  | ')' :: r => if dangling then none else some (before.reverse, false, r)
  | ':' :: r => if dangling then none else some (before.reverse, true, r)
  | '-' :: r => if on then switchesFrom before false true r else none
  | c :: r =>
      match flag? c with
      | none => none
      | some flag =>
          if before.any fun s => s.flag = flag then none
          else switchesFrom (⟨flag, on⟩ :: before) on false r

/-- Whether a character may stand in the name of a group behind its first one. -/
def isNameChar (c : Char) : Bool :=
  "_.[]".toList.contains c || Text.isAlphanumeric c

/-- Whether a text may be the name of a group. -/
def isGroupName : List Char → Bool
  | [] => false
  | c :: r => (c = '_' || Text.isAlphabetic c) && r.all isNameChar

/-- A group after the mark before its name. No name is given twice. -/
def namedGroup (r : Reading) : Read Reading := fun cs =>
  match Text.splitFirst? '>' cs with
  | none => none
  | some (name, left) =>
      let text := String.ofList name
      if isGroupName name && !r.names.contains text then
        some ({ r.enter [] with names := text :: r.names }, left)
      else none

/-- A group or some switches after the opening parenthesis. -/
def groupStart (r : Reading) : Read Reading := fun cs =>
  match skip r.verbose cs with
  | '?' :: 'P' :: '<' :: rest => namedGroup r rest
  | '?' :: '<' :: rest => namedGroup r rest
  | '?' :: rest =>
      match switchesFrom [] true false rest with
      | none => none
      | some (changes, true, left) => some (r.enter changes, left)
      | some ([], false, _) => none
      | some (changes, false, left) =>
          let verbose := Switch.apply .verbose r.verbose changes
          some ({ r.add (.switches changes) with verbose := verbose }, left)
  | rest => some (r.enter [], rest)

/-! ### Expressions -/

/-- The rest after a question mark, if there is one. -/
def skipQuestion : List Char → List Char
  | '?' :: r => r
  | cs => cs

/-- The next part, or the start or the end of one. -/
def Reading.step (r : Reading) : Read Reading
  | [] => none
  | c :: rest =>
      match c with
      | '(' => groupStart r rest
      | ')' => r.leave?.map (·, rest)
      | '|' => some (r.split, rest)
      | '[' => (bracketed r.verbose rest).map fun (n, left) => (r.add n, left)
      | '\x7b' => none
      | '\\' => (escape r.verbose rest).map fun (n, left) => (r.add n, left)
      | '.' => some (r.add .anyChar, rest)
      | _ =>
          if "?*+".toList.contains c then r.repeatLast?.map (·, skipQuestion rest)
          else if "^$".toList.contains c then some (r.add .anchor, rest)
          else some (r.add (.literal ⟨c, false⟩), rest)

/-- Reads up to the end, where no group may be open. -/
def Reading.run (r : Reading) (cs : List Char) : Option Node :=
  match skip r.verbose cs with
  | [] => if r.frames.isEmpty then some r.content else none
  | c :: rest =>
      match r.step (c :: rest) with
      | none => none
      | some (r, left) => if left.length < cs.length then r.run left else none
termination_by cs.length

/-- The expression that a text writes. -/
def read? (cs : List Char) : Option Node :=
  Reading.run ⟨false, [], [], [], []⟩ cs

end Fabricate.Regex
