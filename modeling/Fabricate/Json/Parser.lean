import Fabricate.Json.Token

/-!
# Reading JSON

The tokens of a text are read one by one by a machine that keeps the containers still open. A
container holds what it has so far; a value that is complete goes into the innermost of them or,
when none is open, is the value of the text.

At most 127 containers may be open at once.
-/

namespace Fabricate.Json

/-- An open container: the items so far, the last one first, or the fields so far and the name that
waits for its value. -/
inductive Frame where
  | array (items : List Value)
  | object (fields : Fields Value) (name : String)

/-- What the machine waits for, with the open containers from the innermost outwards. The container
of `item`, `name` and `colon` is open too, but not yet among them. -/
inductive Reading where
  /-- A value. -/
  | value (frames : List Frame)
  /-- The first item of an array, or its end. -/
  | item (frames : List Frame)
  /-- A name in an object with these fields; its end only where a field may be missing. -/
  | name (fields : Fields Value) (mayEnd : Bool) (frames : List Frame)
  /-- The colon after a name. -/
  | colon (fields : Fields Value) (name : String) (frames : List Frame)
  /-- What follows a complete value. -/
  | next (v : Value) (frames : List Frame)

/-- The greatest number of containers open at once. -/
def maxOpen : Nat := 127

/-- Opens a container, unless too many are open. -/
def opened (count : Nat) (r : Reading) : Except Fault Reading :=
  if count < maxOpen then .ok r else .error .malformed

/-- Starts a value with the given token. -/
def startValue (frames : List Frame) : Token → Except Fault Reading
  | .openArray => opened frames.length (.item frames)
  | .openObject => opened frames.length (.name [] true frames)
  | .string s => .ok (.next (.string s) frames)
  | .scalar v => .ok (.next v frames)
  | .bad _ fault => .error fault
  | _ => .error .malformed

/-- What the machine waits for after one more token. -/
def Reading.step : Reading → Token → Except Fault Reading
  | .value frames, t => startValue frames t
  | .item frames, .closeArray => .ok (.next (.array []) frames)
  | .item frames, t => startValue (.array [] :: frames) t
  | .name fields _ frames, .string s => .ok (.colon fields s frames)
  | .name fields true frames, .closeObject => .ok (.next (.object fields) frames)
  | .name .., .bad true fault => .error fault
  | .name .., _ => .error .malformed
  | .colon fields key frames, .colon => .ok (.value (.object fields key :: frames))
  | .colon .., _ => .error .malformed
  | .next v (.array items :: frames), .comma => .ok (.value (.array (v :: items) :: frames))
  | .next v (.array items :: frames), .closeArray =>
      .ok (.next (.array (v :: items).reverse) frames)
  | .next v (.object fields key :: frames), .comma => .ok (.name (fields.put key v) false frames)
  | .next v (.object fields key :: frames), .closeObject =>
      .ok (.next (.object (fields.put key v)) frames)
  | .next _ _, _ => .error .malformed

/-- What a text ends inside of when the machine still waits. -/
def Reading.unfinished : Reading → Construct
  | .value _ => .value
  | .item _ => .array
  | .name _ mayEnd _ => if mayEnd then .object else .value
  | .colon .. => .object
  | .next _ (.object .. :: _) => .object
  | .next .. => .array

/-- Reads all tokens; at their end the value must be complete. -/
def Reading.run : Reading → List Token → Except Fault Value
  | .next v [], [] => .ok v
  | r, [] => .error (.ended r.unfinished)
  | r, t :: ts =>
      match r.step t with
      | .ok r => r.run ts
      | .error fault => .error fault

/-- The value that a text denotes, or why it denotes none. -/
def parse (text : String) : Except Fault Value :=
  Reading.run (.value []) (tokens text.toList)

end Fabricate.Json
