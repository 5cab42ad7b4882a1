import Fabricate.Calendar.Date
import Fabricate.Decimal.Real
import Fabricate.Json.Token
import Fabricate.Toml.Table

/-!
# TOML scalars

Numbers, truth values, dates and times are words: runs of letters, digits and the signs between
them. The form of the word tells its kind. Underscores may stand between digits, and zeros in front
of digits only after a point or in an exponent.
-/

namespace Fabricate.Toml

open Decimal

/-- The characters of words. -/
def isWordChar (c : Char) : Bool :=
  c.isAlphanum || c = '+' || c = '-' || c = '_' || c = '.' || c = ':'

/-- Digits that may have single underscores between them, without the underscores. -/
def grouped? (isDigit : Char → Bool) (cs : List Char) : Option (List Char) :=
  let groups := Text.splitAll '_' cs
  if groups.all fun g => !g.isEmpty && g.all isDigit then some groups.flatten else none

/-- Decimal digits without a needless zero in front. -/
def plainDigits? (cs : List Char) : Option (List Char) :=
  if cs.head? = some '0' && cs.length ≠ 1 then none else grouped? Char.isDigit cs

/-- The signed word of an integer. -/
def ofInteger? (n : Int) : Option Value :=
  (Word.signed? n).map .integer

/-- The number of digits in a base. -/
def baseNumber? (base : Nat) (digits : List Char) : Option Nat :=
  digits.foldlM (fun n c =>
    match Json.hexValue? c with
    | some d => if d < base then some (n * base + d) else none
    | none => none) 0

/-- The digits of a base other than ten. -/
def based? (base : Nat) (cs : List Char) : Option Value := do
  let digits ← grouped? (fun c => (Json.hexValue? c).any (· < base)) cs
  ofInteger? (← baseNumber? base digits)

/-- An integer. Other bases than ten take no sign. -/
def integer? : List Char → Option Value
  | '0' :: 'x' :: r => based? 16 r
  | '0' :: 'o' :: r => based? 8 r
  | '0' :: 'b' :: r => based? 2 r
  | cs => do
      let (negative, unsigned) := splitSign cs
      let n : Int := natOf (← plainDigits? unsigned)
      ofInteger? (if negative then -n else n)

/-- The digits and the exponent of a real without a sign: there is a fraction, an exponent or both.
-/
def realParts? (cs : List Char) : Option (List Char × Int) := do
  let isMark := fun c => c = 'e' || c = 'E'
  let mantissa := cs.takeWhile fun c => !isMark c
  let exponent ←
    match cs.dropWhile fun c => !isMark c with
    | [] => some 0
    | _ :: r =>
        let (negative, digits) := splitSign r
        (grouped? Char.isDigit digits).map fun ds =>
          if negative then -(natOf ds : Int) else natOf ds
  match mantissa.dropWhile (· ≠ '.') with
  | [] =>
      if mantissa.length = cs.length then none
      else return (← plainDigits? mantissa, exponent)
  | _ :: r => do
      let whole ← plainDigits? (mantissa.takeWhile (· ≠ '.'))
      let fraction ← grouped? Char.isDigit r
      return (whole ++ fraction, exponent - fraction.length)

/-- A real. One that is too large is refused. -/
def real? (cs : List Char) : Option Value :=
  let (negative, unsigned) := splitSign cs
  if unsigned = "inf".toList then some (.real (if negative then -1.0 / 0.0 else 1.0 / 0.0))
  else if unsigned = "nan".toList then some (.real (0.0 / 0.0))
  else do
    let (digits, power) ← realParts? unsigned
    let x := signedReal negative (natOf digits) power
    if x == 1.0 / 0.0 then none else some (.real x)

/-- The number of the first `width` characters, which must be digits, and the rest. -/
def fixedDigits? (width : Nat) (cs : List Char) : Option (Nat × List Char) :=
  let ds := cs.take width
  if ds.length = width && ds.all Char.isDigit then some (natOf ds, cs.drop width) else none

/-- The rest after a given character. -/
def after? (c : Char) : List Char → Option (List Char)
  | [] => none
  | d :: r => if d = c then some r else none

/-- The rest after a date. -/
def afterDate? (cs : List Char) : Option (List Char) := do
  let (year, r) ← fixedDigits? 4 cs
  let (month, r) ← fixedDigits? 2 (← after? '-' r)
  let (day, r) ← fixedDigits? 2 (← after? '-' r)
  let _ ← Calendar.Date.ofCivil? year month day
  return r

/-- The rest after the digits of a fraction, if there is a point. -/
def afterFraction? : List Char → Option (List Char)
  | '.' :: r => if (r.takeWhile Char.isDigit).isEmpty then none else some (r.dropWhile Char.isDigit)
  | cs => some cs

/-- The rest after a time of day. -/
def afterTime? (cs : List Char) : Option (List Char) := do
  let (hour, r) ← fixedDigits? 2 cs
  let (minute, r) ← fixedDigits? 2 (← after? ':' r)
  let (second, r) ← fixedDigits? 2 (← after? ':' r)
  if hour < 24 ∧ minute < 60 ∧ second ≤ 60 then afterFraction? r else none

/-- Whether the text is an offset from universal time, or nothing. -/
def isOffset (cs : List Char) : Bool :=
  match cs with
  | [] => true
  | ['Z'] => true
  | ['z'] => true
  | sign :: r =>
      (sign = '+' || sign = '-') &&
        match fixedDigits? 2 r with
        | some (hour, ':' :: r) =>
            match fixedDigits? 2 r with
            | some (minute, []) => hour < 24 && minute < 60
            | _ => false
        | _ => false

/-- Whether the text is a date. -/
def isDate (cs : List Char) : Bool :=
  afterDate? cs = some []

/-- Whether the text is a date, a time of day, or both with or without an offset. -/
def isMoment (cs : List Char) : Bool :=
  match afterDate? cs with
  | some [] => true
  | some (mark :: r) =>
      (mark = 'T' || mark = 't' || mark = ' ') &&
        match afterTime? r with
        | some r => isOffset r
        | none => false
  | none => afterTime? cs = some []

/-- The value of a word. -/
def wordValue? (word : List Char) : Option Value :=
  if word = "true".toList then some (.boolean true)
  else if word = "false".toList then some (.boolean false)
  else if isMoment word then some (.moment (String.ofList word))
  else (real? word).or (integer? word)

/-- The word at the start, and the rest. A date takes the time after a single blank with it. -/
def takeWord (cs : List Char) : List Char × List Char :=
  let word := cs.takeWhile isWordChar
  let rest := cs.dropWhile isWordChar
  match isDate word, rest with
  | true, ' ' :: c :: r =>
      if c.isDigit then
        (word ++ ' ' :: (c :: r).takeWhile isWordChar, (c :: r).dropWhile isWordChar)
      else (word, rest)
  | _, _ => (word, rest)

/-- The scalar that a word at the start denotes, and the rest. -/
def scalar (cs : List Char) : Option (Value × List Char) :=
  let (word, rest) := takeWord cs
  (wordValue? word).map fun v => (v, rest)

end Fabricate.Toml
