import Fabricate.Toml.Scalar
import Fabricate.Toml.Text

/-!
# Reading TOML

A document is read line by line: a line holds a header, an assignment or neither, and perhaps a
comment. Arrays may run over several lines, tables in braces may not. What the lines say is put
together by `Document.add`, which refuses what contradicts an earlier line.

Every reader takes the text and gives what it read and what is left. A loop goes on only when less
is left than before, so it ends whatever its reader does.
-/

namespace Fabricate.Toml

/-- Reads something at the start of a text and gives what is left. -/
abbrev Read (α : Type) := List Char → Option (α × List Char)

/-- The rest after blanks. -/
def skipSpaces (cs : List Char) : List Char :=
  cs.dropWhile isSpace

/-- The characters of keys without quotes. -/
def isKeyChar (c : Char) : Bool :=
  c.isAlphanum || c = '-' || c = '_'

/-- One part of a key. -/
def keyPart : Read String
  | '"' :: r => (basicString r).map fun (s, left) => (String.ofList s, left)
  | '\'' :: r => (literalString r).map fun (s, left) => (String.ofList s, left)
  | cs =>
      let word := cs.takeWhile isKeyChar
      if word.isEmpty then none else some (String.ofList word, cs.dropWhile isKeyChar)

/-- The greatest number of parts of a key. -/
def maxKeyParts : Nat := 79

/-- The path before the last dot of a key and its last part, when `before` was read already. -/
def keyFrom (before : List String) (cs : List Char) : Option ((List String × String) × List Char) :=
  match keyPart (skipSpaces cs) with
  | none => none
  | some (part, rest) =>
      match skipSpaces rest with
      | '.' :: r =>
          if r.length < cs.length then keyFrom (before ++ [part]) r else none
      | left => if before.length < maxKeyParts then some ((before, part), left) else none
termination_by cs.length

/-- A key with the blanks around it. -/
def key : Read (List String × String) :=
  keyFrom []

/-- The rest after a comment, if there is one. -/
def skipComment : List Char → List Char
  | '#' :: r => r.dropWhile isPlain
  | cs => cs

/-- The rest after blanks, ends of lines and comments. -/
def skipTrivia (cs : List Char) : List Char :=
  match skipLines cs with
  | '#' :: r =>
      match afterNewline? (r.dropWhile isPlain) with
      | some left => if left.length < cs.length then skipTrivia left else left
      | none => r.dropWhile isPlain
  | left => left
termination_by cs.length

/-- The items of an array after its opening bracket. -/
def arrayItems (read : Read Value) (cs : List Char) : Option (List Value × List Char) :=
  match skipTrivia cs with
  | ']' :: r => some ([], r)
  | start =>
      match read start with
      | none => none
      | some (v, rest) =>
          match skipTrivia rest with
          | ']' :: r => some ([v], r)
          | ',' :: r =>
              if r.length < cs.length then
                (arrayItems read r).map fun (vs, left) => (v :: vs, left)
              else none
          | _ => none
termination_by cs.length

/-- An assignment without the blanks after it. -/
def assignment (read : Read Value) : Read Statement := fun cs => do
  let ((dots, last), rest) ← key cs
  let r ← after? '=' rest
  let (v, left) ← read (skipSpaces r)
  return (.assignment dots last v, left)

/-- The entries of a table in braces, the first of which must follow. -/
def inlineEntries (read : Read Value) (entries : Entries) (cs : List Char) :
    Option (Entries × List Char) :=
  match assignment read cs with
  | some (.assignment dots last v, rest) =>
      match assign dots last v .inline entries with
      | none => none
      | some entries =>
          match skipSpaces rest with
          | '\x7d' :: r => some (entries, r)
          | ',' :: r => if r.length < cs.length then inlineEntries read entries r else none
          | _ => none
  | _ => none
termination_by cs.length

/-- A table in braces after its opening brace. -/
def inlineTable (read : Read Value) (cs : List Char) : Option (Entries × List Char) :=
  match skipSpaces cs with
  | '\x7d' :: r => some ([], r)
  | _ => inlineEntries read [] cs

/-- A value in which at most the given number of containers stand in each other. -/
def value : Nat → Read Value
  | 0, cs =>
      match cs with
      | '"' :: _ => (stringValue cs).map fun (s, left) => (.string (String.ofList s), left)
      | '\'' :: _ => (stringValue cs).map fun (s, left) => (.string (String.ofList s), left)
      | _ => scalar cs
  | depth + 1, cs =>
      match cs with
      | '[' :: r => (arrayItems (value depth) r).map fun (vs, left) => (.array vs, left)
      | '\x7b' :: r => (inlineTable (value depth) r).map fun (es, left) => (.table .inline es, left)
      | _ => value 0 cs

/-- The greatest number of containers that stand in each other. -/
def maxDepth : Nat := 79

/-- A header after its opening brackets, up to the closing ones. -/
def header : Read Statement
  | '[' :: '[' :: r => do
      let ((path, last), rest) ← key r
      let left ← after? ']' (← after? ']' rest)
      return (.rowHeader path last, left)
  | '[' :: r => do
      let ((path, last), rest) ← key r
      let left ← after? ']' rest
      return (.header path last, left)
  | _ => none

/-- What a line says, if it says anything. -/
def statement : Read (Option Statement) := fun cs =>
  match skipSpaces cs with
  | [] => some (none, [])
  | '#' :: r => some (none, '#' :: r)
  | '[' :: r => (header ('[' :: r)).map fun (s, left) => (some s, left)
  | left =>
      if (afterNewline? left).isSome then some (none, left)
      else (assignment (value maxDepth) left).map fun (s, left) => (some s, left)

/-- Reads line after line into a document. -/
def lines (d : Document) (cs : List Char) : Option Document :=
  match statement cs with
  | none => none
  | some (said, rest) =>
      match said.elim (some d) d.add with
      | none => none
      | some d =>
          match skipComment (skipSpaces rest) with
          | [] => some d
          | left =>
              match afterNewline? left with
              | some r => if r.length < cs.length then lines d r else none
              | none => none
termination_by cs.length

/-- The entries of a document, if the text is one. A mark of byte order may come first. -/
def parse (text : String) : Option Entries :=
  let cs := match text.toList with
    | '\uFEFF' :: r => r
    | cs => cs
  (lines ⟨[], []⟩ cs).map Document.entries

end Fabricate.Toml
