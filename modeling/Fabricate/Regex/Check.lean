import Fabricate.Regex.Reader

/-!
# Acceptance of regular expressions

An expression is accepted when it can be read, is not nested too deep and matches nothing but text:
where it reads text by bytes, it must not stand for bytes beyond ASCII, which some complements do.
The machine that runs it knows the ends of words only where words are made of ASCII characters.
-/

namespace Fabricate.Regex

/-- Why an expression is refused. -/
inductive Fault where
  /-- It cannot be read, is nested too deep or stands for bytes that are no text. -/
  | malformed
  /-- It asks for the ends of words of any characters. -/
  | wordBoundary
  deriving DecidableEq

/-- What is said of an expression that is refused. -/
def Fault.message : Fault → String
  | malformed => "error building NFA"
  | wordBoundary =>
      "unsupported regex feature for DFAs: cannot build DFAs for regexes with Unicode word " ++
        "boundaries; switch to ASCII word boundaries, or heuristically enable Unicode word " ++
        "boundaries or use a different regex engine"

/-- The greatest depth of an expression. -/
def maxDepth : Nat := 250

/-- Whether a literal stands for text where text is read by bytes. -/
def Literal.isText (l : Literal) : Bool :=
  !l.isByte || l.char.toNat < 0x80

/-- Whether a literal stands for one byte of text. -/
def Literal.isAscii (l : Literal) : Bool :=
  l.char.toNat < 0x80

mutual

/-- Whether a class stands for text where text is read by bytes. -/
def CharClass.isText : CharClass → Bool
  | .literal l => l.isAscii
  | .range first last => first.isAscii && last.isAscii
  | .named negated => !negated
  | .shorthand negated => !negated
  | .category => false
  | .bracketed negated c => !negated && c.isText
  | .union parts => CharClass.areText parts
  | .combined left right => left.isText && right.isText

/-- Whether all of some classes stand for text where text is read by bytes. -/
def CharClass.areText : List CharClass → Bool
  | [] => true
  | c :: cs => c.isText && CharClass.areText cs

end

/-- What is known of an expression up to some part of it. -/
structure Findings where
  /-- Whether the next part reads text by characters. -/
  unicode : Bool
  /-- Whether the ends of words of any characters were asked for. -/
  boundary : Bool
  deriving DecidableEq

/-- The findings unchanged, for a part that stands for text where it reads characters, and where it
reads bytes if the condition holds. -/
def Findings.keepIf (f : Findings) (isText : Bool) : Option Findings :=
  if f.unicode || isText then some f else none

mutual

/-- The findings after an expression; none when it stands for bytes that are no text. -/
def Node.examine (f : Findings) : Node → Option Findings
  | .empty => some f
  | .anchor => some f
  | .switches changes => some { f with unicode := Switch.apply .unicode f.unicode changes }
  | .literal l => f.keepIf l.isText
  | .anyChar => f.keepIf false
  | .boundary => some { f with boundary := f.boundary || f.unicode }
  | .shorthand negated => f.keepIf !negated
  | .category => f.keepIf false
  | .bracketed negated c => f.keepIf (!negated && c.isText)
  | .repeated n => n.examine f
  | .group changes n =>
      (n.examine { f with unicode := Switch.apply .unicode f.unicode changes }).map fun after =>
        { after with unicode := f.unicode }
  | .sequence parts => Node.examineAll f parts
  | .choice parts => Node.examineAll f parts

/-- The findings after some expressions. -/
def Node.examineAll (f : Findings) : List Node → Option Findings
  | [] => some f
  | n :: ns => (n.examine f).bind fun f => Node.examineAll f ns

end

/-- Why a text is not accepted as an expression, if it is not. -/
def fault? (cs : List Char) : Option Fault :=
  match (read? cs).filter fun n => n.depth ≤ maxDepth with
  | none => some .malformed
  | some n =>
      match n.examine ⟨true, false⟩ with
      | none => some .malformed
      | some f => if f.boundary then some .wordBoundary else none

end Fabricate.Regex
