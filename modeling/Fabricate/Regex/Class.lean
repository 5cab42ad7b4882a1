import Fabricate.Regex.Basic
import Fabricate.Text.Blank

/-!
# Reading classes

Escapes, and the classes between brackets. A hyphen first in a class stands for itself, and so does
a closing bracket where nothing else came before it. Two ampersands, hyphens or tildes are operators
of equal strength between all that stands on their left and what stands on their right.

Where blanks do not count, they are skipped with the comments among them. The braces that some
escapes may have are not read: the texts that expressions are written in here hold no pair of them.
-/

namespace Fabricate.Regex

/-- Reads something at the start of a text and gives what is left. -/
abbrev Read (α : Type) := List Char → Option (α × List Char)

/-- The rest after blanks and comments. -/
def skipBlanks (inComment : Bool) : List Char → List Char
  | [] => []
  | c :: r =>
      if inComment then skipBlanks (c ≠ '\n') r
      else if Text.isBlank c then skipBlanks false r
      else if c = '#' then skipBlanks true r
      else c :: r

/-- The rest after what does not count. -/
def skip (verbose : Bool) (cs : List Char) : List Char :=
  if verbose then skipBlanks false cs else cs

/-- The rest after what does not count, where something must follow. -/
def more (verbose : Bool) (cs : List Char) : Option (List Char) :=
  match skip verbose cs with
  | [] => none
  | left => some left

/-- The next character that counts. Of a comment, only its mark is skipped. -/
def peek (verbose : Bool) (cs : List Char) : Option Char :=
  if verbose then
    match cs.dropWhile Text.isBlank with
    | '#' :: r => (r.dropWhile Text.isBlank).head?
    | left => left.head?
  else cs.head?

/-! ### Escapes -/

/-- The value of a hexadecimal digit. -/
def hexDigit? (c : Char) : Option Nat :=
  if c.isDigit then some (c.toNat - '0'.toNat)
  else if 'a' ≤ c ∧ c ≤ 'f' then some (c.toNat - 'a'.toNat + 10)
  else if 'A' ≤ c ∧ c ≤ 'F' then some (c.toNat - 'A'.toNat + 10)
  else none

/-- The number of that many hexadecimal digits after those of `before`. -/
def hexNumber (verbose : Bool) (before : Nat) : Nat → Read Nat
  | 0, cs => some (before, skip verbose cs)
  | count + 1, cs => do
      match ← more verbose cs with
      | [] => none
      | c :: r => hexNumber verbose (before * 16 + (← hexDigit? c)) count r

/-- The character of a code point. -/
def charOf? (n : Nat) : Option Char :=
  if n.isValidChar then some (Char.ofNat n) else none

/-- A character that is written by that many hexadecimal digits. -/
def hexLiteral (verbose : Bool) (digits : Nat) : Read Node := fun cs => do
  let (n, left) ← hexNumber verbose 0 digits cs
  return (.literal ⟨← charOf? n, digits = 2⟩, left)

/-- A general category, of which only those of one letter can be written. -/
def category (verbose : Bool) : Read Node := fun cs => do
  match ← more verbose cs with
  | [] => none
  | c :: r => if "clmnpsz".toList.contains c.toLower then some (.category, skip verbose r) else none

/-- Whether a character stands for itself behind a backslash: no other ASCII character than the
letters, the digits and the brackets of words has a meaning there. -/
def isEscapable (c : Char) : Bool :=
  c.toNat < 0x80 && !c.isAlphanum && c ≠ '<' && c ≠ '>'

/-- What follows a backslash. -/
def escape (verbose : Bool) : Read Node
  | [] => none
  | c :: r =>
      if c = 'x' then hexLiteral verbose 2 r
      else if c = 'u' then hexLiteral verbose 4 r
      else if c = 'U' then hexLiteral verbose 8 r
      else if "pP".toList.contains c then category verbose r
      else if "dsw".toList.contains c then some (.shorthand false, r)
      else if "DSW".toList.contains c then some (.shorthand true, r)
      else if "Az".toList.contains c then some (.anchor, r)
      else if "bB<>".toList.contains c then some (.boundary, r)
      else if isEscapable c || "aftnrv".toList.contains c then some (.literal ⟨c, false⟩, r)
      else none

/-! ### Classes -/

/-- The names of the classes of ASCII characters. -/
def asciiClasses : List String :=
  ["alnum", "alpha", "ascii", "blank", "cntrl", "digit", "graph", "lower", "print", "punct",
    "space", "upper", "word", "xdigit"]

/-- Cuts off what is after a caret, and says whether there is one. -/
def splitCaret : List Char → Bool × List Char
  | '^' :: r => (true, r)
  | cs => (false, cs)

/-- A class of ASCII characters after its opening bracket. -/
def asciiClass : Read CharClass
  | ':' :: r =>
      let (negated, start) := splitCaret r
      let name := start.takeWhile fun c => c ≠ ':'
      match start.drop name.length with
      | ':' :: ']' :: left =>
          if asciiClasses.contains (String.ofList name) then some (.named negated, left) else none
      | _ => none
  | _ => none

/-- A literal or an escape within a class. -/
def classAtom (verbose : Bool) : Read Node
  | [] => none
  | '\\' :: r => escape verbose r
  | c :: r => some (.literal ⟨c, false⟩, r)

/-- What an atom stands for within a class, if it may stand there. -/
def classOf? : Node → Option CharClass
  | .literal l => some (.literal l)
  | .shorthand negated => some (.shorthand negated)
  | .category => some .category
  | _ => none

/-- The range between two atoms. -/
def rangeOf? : Node → Node → Option CharClass
  | .literal first, .literal last =>
      if first.char ≤ last.char then some (.range first last) else none
  | _, _ => none

/-- An atom or a range within a class. A hyphen before another one or before the end of the class
makes no range. -/
def classItem (verbose : Bool) : Read CharClass := fun cs => do
  let (first, rest) ← classAtom verbose cs
  match ← more verbose rest with
  | '-' :: r =>
      if peek verbose r = some ']' || peek verbose r = some '-' then
        return (← classOf? first, '-' :: r)
      else
        let (last, left) ← classAtom verbose (← more verbose r)
        return (← rangeOf? first last, left)
  | left => return (← classOf? first, left)

/-- A class that is not closed yet: what is on the left of the last operator, and the parts after
it, the last one first. -/
structure OpenClass where
  negated : Bool
  left : Option CharClass
  parts : List CharClass

namespace OpenClass

/-- The class with one more part. -/
def add (o : OpenClass) (part : CharClass) : OpenClass :=
  { o with parts := part :: o.parts }

/-- All that the class holds. -/
def content (o : OpenClass) : CharClass :=
  let right := CharClass.ofParts o.parts.reverse
  match o.left with
  | none => right
  | some left => .combined left right

/-- The class with an operator behind what it holds. -/
def combine (o : OpenClass) : OpenClass :=
  { o with left := some o.content, parts := [] }

end OpenClass

/-- The hyphens at the start of a class, put before its parts. Something must follow. -/
def hyphens (verbose : Bool) (parts : List CharClass) (cs : List Char) :
    Option (List CharClass × List Char) :=
  match cs with
  | '-' :: r =>
      match more verbose r with
      | none => none
      | some left =>
          if left.length ≤ r.length then hyphens verbose (.literal ⟨'-', false⟩ :: parts) left
          else none
  | _ => some (parts, cs)
termination_by cs.length

/-- The start of a class after its opening bracket. -/
def openClass (verbose : Bool) : Read OpenClass := fun cs => do
  let cs ← more verbose cs
  let (negated, cs) := splitCaret cs
  let (parts, cs) ← hyphens verbose [] (← more verbose cs)
  match parts, cs with
  | [], ']' :: r => return (⟨negated, none, [.literal ⟨']', false⟩]⟩, ← more verbose r)
  | _, _ => return (⟨negated, none, parts⟩, cs)

/-- The classes that are open, from the innermost outwards, or what was read when the last of them
was closed. -/
inductive ClassReading where
  | opened (current : OpenClass) (outer : List OpenClass)
  | closed (n : Node)

/-- Closes the innermost class. -/
def closeClass (current : OpenClass) : List OpenClass → ClassReading
  | [] => .closed (.bracketed current.negated current.content)
  | next :: outer => .opened (next.add (.bracketed current.negated current.content)) outer

/-- The next part of the innermost class, or the start or the end of one. -/
def classStep (verbose : Bool) (current : OpenClass) (outer : List OpenClass) :
    Read ClassReading := fun cs =>
  match skip verbose cs with
  | [] => none
  | '[' :: r =>
      match asciiClass r with
      | some (part, left) => some (.opened (current.add part) outer, left)
      | none => (openClass verbose r).map fun (o, left) => (.opened o (current :: outer), left)
  | ']' :: r => some (closeClass current outer, r)
  | '&' :: '&' :: r => some (.opened current.combine outer, r)
  | '-' :: '-' :: r => some (.opened current.combine outer, r)
  | '~' :: '~' :: r => some (.opened current.combine outer, r)
  | start =>
      (classItem verbose start).map fun (part, left) => (.opened (current.add part) outer, left)

/-- The rest of some classes that are open. -/
def classFrom (verbose : Bool) (current : OpenClass) (outer : List OpenClass) (cs : List Char) :
    Option (Node × List Char) :=
  match classStep verbose current outer cs with
  | none => none
  | some (.closed n, left) => some (n, left)
  | some (.opened current outer, left) =>
      if left.length < cs.length then classFrom verbose current outer left else none
termination_by cs.length

/-- A class after its opening bracket. -/
def bracketed (verbose : Bool) : Read Node := fun cs => do
  let (o, left) ← openClass verbose cs
  classFrom verbose o [] left

end Fabricate.Regex
