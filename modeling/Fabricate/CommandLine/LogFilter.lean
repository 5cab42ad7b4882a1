import Fabricate.Decimal.Real
import Fabricate.Regex.Check

/-!
# Log filters

A log filter is a row of directives with commas between them, of which empty ones do not count. A
directive is a level, a target, or a target and a span in brackets with or without a field in
braces, and may end with an equals sign and a level. A field may have a value, which is a number or
a regular expression. Only whether a filter is one matters here.

A directive is read without the blanks around it, but its parts are cut out of the text with them,
at the offsets in bytes that they have in the text without them.
-/

namespace Fabricate.CommandLine

/-- Why a text is no log filter. -/
inductive FilterFault where
  | malformed
  /-- There is something else than a level behind an equals sign. -/
  | badLevel
  /-- The value of a field is neither a number nor an expression. -/
  | badValue (fault : Regex.Fault)
  /-- A part would start or end inside of a character. -/
  | misaligned
  deriving DecidableEq

/-- What is said of a text that is no log filter. -/
def FilterFault.message : FilterFault → String
  | malformed => "invalid filter directive"
  | badLevel =>
      "error parsing level filter: expected one of \"off\", \"error\", \"warn\", \"info\", " ++
        "\"debug\", \"trace\", or a number 0-5"
  | badValue fault => "invalid field filter: " ++ fault.message
  | misaligned => "a part of the directive does not start and end at characters"

/-- The characters after those that take up the given number of bytes. -/
def dropBytes? : Nat → List Char → Option (List Char)
  | 0, cs => some cs
  | _ + 1, [] => none
  | n + 1, c :: r => if c.utf8Size ≤ n + 1 then dropBytes? (n + 1 - c.utf8Size) r else none

/-- The characters that take up the given number of bytes. -/
def takeBytes? : Nat → List Char → Option (List Char)
  | 0, _ => some []
  | _ + 1, [] => none
  | n + 1, c :: r =>
      if c.utf8Size ≤ n + 1 then (takeBytes? (n + 1 - c.utf8Size) r).map (c :: ·) else none

/-- The characters from one offset in bytes up to another one. -/
def cut (cs : List Char) (start stop : Nat) : Except FilterFault (List Char) :=
  match (dropBytes? start cs).bind (takeBytes? (stop - start)) with
  | some part => .ok part
  | none => .error .misaligned

/-- The characters from an offset in bytes on. -/
def cutFrom (cs : List Char) (start : Nat) : Except FilterFault (List Char) :=
  match dropBytes? start cs with
  | some part => .ok part
  | none => .error .misaligned

/-- Whether a text names a level, in any case of its letters or by its number. -/
def isLevel (cs : List Char) : Bool :=
  match Decimal.word? cs with
  | some n => n.toNat ≤ 5
  | none =>
      ["", "off", "error", "warn", "info", "debug", "trace"].contains
        (String.ofList (Text.asciiLower cs))

/-- Why a text is no field, if it is none. Behind the first equals sign is its value, which goes up
to the next one. -/
def fieldFault? (cs : List Char) : Option FilterFault :=
  match Text.splitAll '=' cs with
  | _ :: value :: _ =>
      if (Decimal.real? value).isSome then none else (Regex.fault? value).map .badValue
  | _ => if cs.isEmpty then some .malformed else none

/-- Whether a character may start a target. -/
def startsTarget (c : Char) : Bool :=
  "-:_".toList.contains c || Text.isAlphanumeric c

/-- What a directive was read up to. The offsets say where the part that is being read starts. -/
inductive FilterReading where
  | start
  /-- A level or a target. -/
  | word
  | span (start : Nat)
  | field (start : Nat)
  /-- The field is closed and its span is not. -/
  | fieldEnd
  | spanEnd
  | level (start : Nat)
  deriving DecidableEq

namespace FilterReading

/-- The reading after one more character, which is at the given offset. -/
def step (text : List Char) (offset : Nat) (c : Char) :
    FilterReading → Except FilterFault FilterReading
  | start =>
      if c = '[' then .ok (span (offset + 1))
      else if startsTarget c then .ok word
      else .error .malformed
  | word => do
      if c = '=' then
        let _ ← cut text 0 offset
        return level (offset + 1)
      else if c = '[' then
        let _ ← cut text 0 offset
        return span (offset + 1)
      else return word
  | span i => do
      if c = ']' then
        let _ ← cut text i offset
        return spanEnd
      else if c = '\x7b' then
        let _ ← cut text i offset
        return field (offset + 1)
      else return span i
  | field i => do
      if c = '\x7d' then
        match fieldFault? (← cut text i offset) with
        | some fault => throw fault
        | none => return fieldEnd
      else return field i
  | fieldEnd => if c = ']' then .ok spanEnd else .error .malformed
  | spanEnd => if c = '=' then .ok (level (offset + 1)) else .error .malformed
  | level i => .ok (level i)

/-- Reads the characters from an offset on; at their end the directive must be complete. -/
def run (text : List Char) (offset : Nat) (r : FilterReading) :
    List Char → Except FilterFault Unit
  | [] =>
      match r with
      | word => .ok ()
      | spanEnd => .ok ()
      | level i => do if isLevel (← cutFrom text i) then return else throw .badLevel
      | _ => .error .malformed
  | c :: cs => do run text (offset + c.utf8Size) (← r.step text offset c) cs

end FilterReading

/-- Checks that a text is a directive. -/
def checkDirective (cs : List Char) : Except FilterFault Unit :=
  FilterReading.start.run cs 0 (Text.trim cs)

/-- Checks that a text is a log filter. -/
def checkFilter (text : String) : Except FilterFault Unit :=
  (Text.splitAll ',' text.toList).forM fun piece =>
    if piece.isEmpty then .ok () else checkDirective piece

end Fabricate.CommandLine
