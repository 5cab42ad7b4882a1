import Fabricate.Json.Printer
import Fabricate.Json.Token

/-!
# TOML strings

A string stands between quotes, single ones if it is to be taken literally, and between three of
them if it may run over several lines. Up to two quotes may stand next to the closing three.

Every reader takes the text after the opening quotes and gives the string and what is left. Strings
are written in one form only, in double quotes.
-/

namespace Fabricate.Toml

/-- Blanks within a line. -/
def isSpace (c : Char) : Bool :=
  c = ' ' || c = '\t'

/-- The characters that stand for themselves within a line. -/
def isPlain (c : Char) : Bool :=
  c = '\t' || (0x20 ≤ c.toNat && c.toNat ≠ 0x7F)

/-- The rest after an end of line. -/
def afterNewline? : List Char → Option (List Char)
  | '\n' :: r => some r
  | '\r' :: '\n' :: r => some r
  | _ => none

/-- The number that hexadecimal digits denote. -/
def hexNumber? (cs : List Char) : Option Nat :=
  cs.foldlM (fun n c => (Json.hexValue? c).map (n * 16 + ·)) 0

/-- The character with the code point that the first `width` digits denote, and their number. -/
def codePoint? (width : Nat) (cs : List Char) : Option (Char × Nat) := do
  let digits := cs.take width
  let n ← hexNumber? digits
  if digits.length = width ∧ n.isValidChar then some (Char.ofNat n, width) else none

/-- The character that an escape stands for after its backslash, and the number of characters read.
-/
def escape? : List Char → Option (Char × Nat)
  | [] => none
  | c :: r =>
      if c = '"' || c = '\\' then some (c, 1)
      else if c = 'b' then some ('\x08', 1)
      else if c = 't' then some ('\t', 1)
      else if c = 'n' then some ('\n', 1)
      else if c = 'f' then some ('\x0c', 1)
      else if c = 'r' then some ('\r', 1)
      else if c = 'u' then (codePoint? 4 r).map fun (d, n) => (d, n + 1)
      else if c = 'U' then (codePoint? 8 r).map fun (d, n) => (d, n + 1)
      else none

/-- A string in double quotes. -/
def basicString (cs : List Char) : Option (List Char × List Char) :=
  match cs with
  | [] => none
  | c :: r =>
      if c = '"' then some ([], r)
      else if c = '\\' then do
        let (d, n) ← escape? r
        let (s, left) ← basicString (r.drop n)
        return (d :: s, left)
      else if isPlain c then (basicString r).map fun (s, left) => (c :: s, left)
      else none
termination_by cs.length
decreasing_by all_goals simp only [List.length_cons, List.length_drop]; omega

/-- A string in single quotes, which knows no escapes. -/
def literalString : List Char → Option (List Char × List Char)
  | [] => none
  | c :: r =>
      if c = '\'' then some ([], r)
      else if isPlain c then (literalString r).map fun (s, left) => (c :: s, left)
      else none

/-- The rest after all blanks and ends of lines. -/
def skipLines : List Char → List Char
  | [] => []
  | '\r' :: '\n' :: r => skipLines r
  | c :: r => if isSpace c || c = '\n' then skipLines r else c :: r

theorem length_skipLines_le (cs : List Char) : (skipLines cs).length ≤ cs.length := by
  fun_induction skipLines cs <;> simp_all <;> omega

/-- Whether nothing but blanks is left in the line. -/
def endsLine (cs : List Char) : Bool :=
  (afterNewline? (cs.dropWhile isSpace)).isSome

/-- What a run of quotes stands for inside or at the end of a string over several lines: the number
of quotes that belong to the string, the number taken, and whether they end it. -/
def quoteRun (length : Nat) : Nat × Nat × Bool :=
  if length < 3 then (length, length, false) else (min length 5 - 3, min length 5, true)

/-- A string over several lines; `literal` when it knows no escapes. An end of line counts as one
character. -/
def longString (literal : Bool) (cs : List Char) : Option (List Char × List Char) :=
  let quote := if literal then '\'' else '"'
  match cs with
  | [] => none
  | c :: r =>
      if c = quote then
        let (own, taken, last) := quoteRun (r.takeWhile (· = quote)).length.succ
        let kept := List.replicate own quote
        if last then some (kept, r.drop (taken - 1))
        else (longString literal (r.drop (taken - 1))).map fun (s, left) => (kept ++ s, left)
      else if c = '\\' && !literal then
        if endsLine r then longString literal (skipLines r)
        else do
          let (d, n) ← escape? r
          let (s, left) ← longString literal (r.drop n)
          return (d :: s, left)
      else if c = '\n' || isPlain c then (longString literal r).map fun (s, left) => (c :: s, left)
      else if c = '\r' && r.head? = some '\n' then longString literal r
      else none
termination_by cs.length
decreasing_by
  all_goals
    have := length_skipLines_le r
    simp only [List.length_cons, List.length_drop]
    omega

/-- How one character is written between double quotes. -/
def escapedChar (c : Char) : List Char :=
  if c.toNat = 0x7F then ['\\', 'u', '0', '0', '7', 'f'] else Json.escapedChar c

/-- A string as it is written, in double quotes. -/
def quotedText (s : String) : List Char :=
  '"' :: (s.toList.flatMap escapedChar ++ ['"'])

/-- A string of any form, from its opening quote on. -/
def stringValue : List Char → Option (List Char × List Char)
  | '"' :: '"' :: '"' :: r => longString false ((afterNewline? r).getD r)
  | '\'' :: '\'' :: '\'' :: r => longString true ((afterNewline? r).getD r)
  | '"' :: r => basicString r
  | '\'' :: r => literalString r
  | _ => none

end Fabricate.Toml
