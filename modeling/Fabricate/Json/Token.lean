import Fabricate.Json.Number
import Fabricate.Text.Blank

/-!
# JSON tokens

A text is cut into tokens from left to right. Cutting stops at the first place where no token can
be read and leaves a `bad` token there, which carries the reason; whether that reason or the token's
mere presence is the fault of the whole text is for the reader of the tokens to say.

The readers of escapes and strings give the number of characters they took, so what is left of the
text is a `drop` of it.
-/

namespace Fabricate.Json

/-- A token: a mark, a string, another scalar, or the place where reading failed. -/
inductive Token where
  | openArray
  | closeArray
  | openObject
  | closeObject
  | comma
  | colon
  | string (s : String)
  | scalar (v : Value)
  /-- The place where no token can be read; `quoted` when it begins with a quote. -/
  | bad (quoted : Bool) (fault : Fault)

/-- The four characters that may stand between tokens. -/
def isSpace (c : Char) : Bool :=
  c = ' ' || c = '\t' || c = '\n' || c = '\r'

/-- The value of a hexadecimal digit. -/
def hexValue? (c : Char) : Option Nat :=
  if c.isDigit then some (c.toNat - 48)
  else if 'a' ≤ c && c ≤ 'f' then some (c.toNat - 87)
  else if 'A' ≤ c && c ≤ 'F' then some (c.toNat - 55)
  else none

/-- The number that four hexadecimal digits denote. A text of fewer than four bytes has ended too
early, whatever it holds. -/
def fourHex : List Char → Except Fault Nat
  | a :: b :: c :: d :: _ =>
      match hexValue? a, hexValue? b, hexValue? c, hexValue? d with
      | some a, some b, some c, some d => .ok (((a * 16 + b) * 16 + c) * 16 + d)
      | _, _, _, _ => .error .malformed
  | cs => .error (if Text.byteLength cs < 4 then .ended .string else .malformed)

/-- Checks that the text starts with the given characters. -/
def startsWith : List Char → List Char → Except Fault Unit
  | [], _ => .ok ()
  | _ :: _, [] => .error (.ended .string)
  | w :: ws, c :: r => if c = w then startsWith ws r else .error .malformed

/-- The character that an escape stands for after its backslash and the letter `u`, and the number
of characters read: four for one code point, ten for the two halves of a surrogate pair. -/
def unicodeEscape (cs : List Char) : Except Fault (Char × Nat) := do
  let high ← fourHex cs
  if high < 0xD800 || 0xDFFF < high then return (Char.ofNat high, 4)
  if 0xDC00 ≤ high then throw .malformed
  startsWith ['\\', 'u'] (cs.drop 4)
  let low ← fourHex (cs.drop 6)
  if low < 0xDC00 || 0xDFFF < low then throw .malformed
  return (Char.ofNat (0x10000 + (high - 0xD800) * 0x400 + (low - 0xDC00)), 10)

/-- The character that an escape stands for after its backslash, and the number of characters
read. -/
def escape : List Char → Except Fault (Char × Nat)
  | [] => .error (.ended .string)
  | c :: r =>
      if c = '"' || c = '\\' || c = '/' then .ok (c, 1)
      else if c = 'b' then .ok ('\x08', 1)
      else if c = 'f' then .ok ('\x0c', 1)
      else if c = 'n' then .ok ('\n', 1)
      else if c = 'r' then .ok ('\r', 1)
      else if c = 't' then .ok ('\t', 1)
      else if c = 'u' then (unicodeEscape r).map fun (d, n) => (d, n + 1)
      else .error .malformed

/-- The characters of a string after its opening quote, and the number of characters read, the
closing quote included. -/
def stringBody (cs : List Char) : Except Fault (List Char × Nat) :=
  match cs with
  | [] => .error (.ended .string)
  | c :: r =>
      if c = '"' then .ok ([], 1)
      else if c = '\\' then
        match escape r with
        | .error fault => .error fault
        | .ok (d, n) => (stringBody (r.drop n)).map fun (s, m) => (d :: s, m + n + 1)
      else if c.toNat < 0x20 then .error .malformed
      else (stringBody r).map fun (s, m) => (c :: s, m + 1)
termination_by cs.length
decreasing_by all_goals simp only [List.length_cons, List.length_drop]; omega

/-- The constant with that name, or the reason why there is none; `atEnd` when the text ends with
the name. -/
def constant (name : List Char) (atEnd : Bool) : Except Fault Value :=
  if name = "null".toList then .ok .null
  else if name = "true".toList then .ok (.bool true)
  else if name = "false".toList then .ok (.bool false)
  else if atEnd && ["null", "true", "false"].any (name.isPrefixOf ·.toList) then
    .error (.ended .value)
  else .error .malformed

/-- The number with that written form, or the reason why there is none; `atEnd` when the text ends
with the form. -/
def numeral (form : List Char) (atEnd : Bool) : Except Fault Value :=
  match Number.read form with
  | .ok n => .ok (.number n)
  | .error (.ended inside) => .error (if atEnd then .ended inside else .malformed)
  | .error fault => .error fault

/-- The token of one mark. -/
def mark? (c : Char) : Option Token :=
  if c = '[' then some .openArray
  else if c = ']' then some .closeArray
  else if c = '\x7b' then some .openObject
  else if c = '\x7d' then some .closeObject
  else if c = ',' then some .comma
  else if c = ':' then some .colon
  else none

/-- The tokens of a text. -/
def tokens (cs : List Char) : List Token :=
  match cs with
  | [] => []
  | c :: r =>
      if isSpace c then tokens r
      else
        match mark? c with
        | some t => t :: tokens r
        | none =>
            if c = '"' then
              match stringBody r with
              | .error fault => [.bad true fault]
              | .ok (s, n) => .string (String.ofList s) :: tokens (r.drop n)
            else if c.isAlpha then
              let rest := r.dropWhile Char.isAlpha
              match constant (c :: r.takeWhile Char.isAlpha) rest.isEmpty with
              | .error fault => [.bad false fault]
              | .ok v => .scalar v :: tokens rest
            else if c = '-' || c.isDigit then
              let rest := r.dropWhile isNumberChar
              match numeral (c :: r.takeWhile isNumberChar) rest.isEmpty with
              | .error fault => [.bad false fault]
              | .ok v => .scalar v :: tokens rest
            else [.bad false .malformed]
termination_by cs.length
decreasing_by
  · simp
  · simp
  · simp only [List.length_cons, List.length_drop]; omega
  · have := (List.dropWhile_sublist (l := r) Char.isAlpha).length_le
    simp only [List.length_cons]; omega
  · have := (List.dropWhile_sublist (l := r) isNumberChar).length_le
    simp only [List.length_cons]; omega

end Fabricate.Json
