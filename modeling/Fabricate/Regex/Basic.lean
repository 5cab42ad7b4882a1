/-!
# Regular expressions

A regular expression as it is written. Only what its acceptance hangs on is kept: a class item keeps
whether it is negated and not which characters it holds, a repetition keeps what is repeated and not
how often.

How deep an expression is nested is the number of brackets, repetitions, groups, choices and
sequences that stand in each other. A sequence of one part is that part.
-/

namespace Fabricate.Regex

/-- What can be switched on and off within an expression. -/
inductive Flag where
  /-- Letters match in any case. -/
  | caseless
  /-- Lines have ends of their own. -/
  | multiLine
  /-- A dot matches ends of lines. -/
  | dotAll
  /-- Repetitions take as little as they can. -/
  | lazy
  /-- Text is read by characters, not by bytes. -/
  | unicode
  /-- Lines may end with two characters. -/
  | pairedEnds
  /-- Blanks and comments between the parts do not count. -/
  | verbose
  deriving DecidableEq

/-- A flag that is switched on or off. -/
structure Switch where
  flag : Flag
  on : Bool
  deriving DecidableEq

/-- The value of a flag after some switches. -/
def Switch.apply (flag : Flag) (before : Bool) (switches : List Switch) : Bool :=
  match switches.find? fun s => s.flag = flag with
  | some s => s.on
  | none => before

/-- A character that stands for itself. -/
structure Literal where
  char : Char
  /-- It is written by two digits, and stands for a byte where text is read by bytes. -/
  isByte : Bool
  deriving DecidableEq

/-- What stands between brackets. -/
inductive CharClass where
  | literal (l : Literal)
  | range (first last : Literal)
  /-- A class of ASCII characters by its name. -/
  | named (negated : Bool)
  /-- Digits, blanks or word characters. -/
  | shorthand (negated : Bool)
  /-- A general category. -/
  | category
  | bracketed (negated : Bool) (c : CharClass)
  | union (parts : List CharClass)
  /-- Two classes with an operator between them. -/
  | combined (left right : CharClass)

/-- A regular expression. -/
inductive Node where
  | empty
  | switches (changes : List Switch)
  | literal (l : Literal)
  | anyChar
  /-- The start or the end of a line or of the text. -/
  | anchor
  /-- The start, the end or the lack of either of a word. -/
  | boundary
  | shorthand (negated : Bool)
  | category
  | bracketed (negated : Bool) (c : CharClass)
  | repeated (n : Node)
  | group (changes : List Switch) (n : Node)
  | sequence (parts : List Node)
  | choice (parts : List Node)

/-- The class of some parts next to each other. -/
def CharClass.ofParts : List CharClass → CharClass
  | [part] => part
  | parts => .union parts

/-- The expression of some parts one after the other. -/
def Node.ofParts : List Node → Node
  | [] => .empty
  | [part] => part
  | parts => .sequence parts

/-- The expression of some alternatives. -/
def Node.ofChoices : List Node → Node
  | [part] => part
  | parts => .choice parts

mutual

/-- How deep a class is nested. -/
def CharClass.depth : CharClass → Nat
  | .bracketed _ c => c.depth + 1
  | .union parts => CharClass.depthOfAll parts + if parts.isEmpty then 0 else 1
  | .combined left right => max left.depth right.depth + 1
  | _ => 0

/-- How deep the deepest of some classes is nested. -/
def CharClass.depthOfAll : List CharClass → Nat
  | [] => 0
  | c :: cs => max c.depth (CharClass.depthOfAll cs)

end

mutual

/-- How deep an expression is nested. -/
def Node.depth : Node → Nat
  | .bracketed _ c => c.depth + 1
  | .repeated n => n.depth + 1
  | .group _ n => n.depth + 1
  | .sequence parts => Node.depthOfAll parts + 1
  | .choice parts => Node.depthOfAll parts + 1
  | _ => 0

/-- How deep the deepest of some expressions is nested. -/
def Node.depthOfAll : List Node → Nat
  | [] => 0
  | n :: ns => max n.depth (Node.depthOfAll ns)

end

end Fabricate.Regex
