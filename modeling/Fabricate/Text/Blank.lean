/-!
# Blank characters

A character is blank when it has the Unicode property White_Space: the ASCII blanks, the line and
paragraph separators, and the spaces of the other scripts, but neither the zero-width space nor the
byte-order mark. Names, keys and parameter values are trimmed of blanks at both ends.

Text is cut as a list of characters, so that a cut is an equation between lists. `splitFirst?`
cuts at the first occurrence of a character and `splitAll` at every one; neither keeps it.
-/

namespace Fabricate.Text

/-- The characters with the property White_Space. -/
def isBlank (c : Char) : Bool :=
  let n := c.toNat
  (0x9 ≤ n && n ≤ 0xD) || n == 0x20 || n == 0x85 || n == 0xA0 || n == 0x1680 ||
    (0x2000 ≤ n && n ≤ 0x200A) || n == 0x2028 || n == 0x2029 || n == 0x202F || n == 0x205F ||
    n == 0x3000

/-- Every blank of the standard library is blank here. -/
theorem isBlank_of_isWhitespace {c : Char} (h : c.isWhitespace = true) : isBlank c = true := by
  simp only [Char.isWhitespace, Bool.or_eq_true, decide_eq_true_eq] at h
  rcases h with ((rfl | rfl) | rfl) | rfl <;> rfl

/-- Drops the blanks at the start. -/
def trimStart (cs : List Char) : List Char :=
  cs.dropWhile isBlank

/-- Drops the blanks at the end. -/
def trimEnd (cs : List Char) : List Char :=
  (cs.reverse.dropWhile isBlank).reverse

/-- Drops the blanks at both ends. -/
def trim (cs : List Char) : List Char :=
  trimEnd (trimStart cs)

/-- The text without the blanks at its ends. -/
def trimmed (s : String) : String :=
  String.ofList (trim s.toList)

/-- The parts before and after the first `sep`; none when it does not occur. -/
def splitFirst? (sep : Char) : List Char → Option (List Char × List Char)
  | [] => none
  | c :: r =>
      if c = sep then some ([], r)
      else (splitFirst? sep r).map fun (a, b) => (c :: a, b)

/-- The parts between the occurrences of `sep`, one more than there are occurrences. -/
def splitAll (sep : Char) : List Char → List (List Char)
  | [] => [[]]
  | c :: r =>
      if c = sep then [] :: splitAll sep r
      else
        match splitAll sep r with
        | [] => [[c]]
        | p :: ps => (c :: p) :: ps

/-- The number of bytes of the characters in UTF-8. -/
def byteLength : List Char → Nat
  | [] => 0
  | c :: r => c.utf8Size + byteLength r

/-- An ASCII capital becomes its small letter; every other character stays. -/
def asciiLower (cs : List Char) : List Char :=
  cs.map Char.toLower

/-- Equality of two texts up to the case of ASCII letters. -/
def eqIgnoringAsciiCase (a b : String) : Bool :=
  asciiLower a.toList == asciiLower b.toList

/-- Whether `part` occurs as a run of neighbouring characters. -/
def containsRun (part : List Char) : List Char → Bool
  | [] => part.isEmpty
  | c :: r => part.isPrefixOf (c :: r) || containsRun part r

end Fabricate.Text
