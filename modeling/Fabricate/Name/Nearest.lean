import Fabricate.Name.EditDistance
import Fabricate.Text.LowerCase
import Fabricate.Text.Blank

/-!
# Nearest names

For a name that is not known, the known names near to it are listed, nearest first and by the order
of texts among equals. A candidate is near when its distance is at most two, or a third of the
name's length where that is more, or when one of the two texts contains the other.
-/

namespace Fabricate.Name

/-- The shortest candidate, in bytes, that counts by containment. -/
def minContained : Nat := 3

/-- The distance up to which a candidate is near. -/
def tolerance (needle : List Char) : Nat :=
  max 2 (needle.length / 3)

/-- Whether one text contains the other, for candidates that are not too short. -/
def related (needle candidate : List Char) : Bool :=
  minContained ≤ Text.byteLength candidate &&
    (Text.containsRun needle candidate || Text.containsRun candidate needle)

/-- Whether a candidate is near. -/
def isNear (needle candidate : List Char) : Bool :=
  distance needle candidate ≤ tolerance needle || related needle candidate

/-- A candidate with its distance. -/
structure Ranked where
  distance : Nat
  name : String
  deriving DecidableEq

/-- The order of the list: by distance, then by name. -/
def Ranked.le (a b : Ranked) : Bool :=
  a.distance < b.distance || (a.distance = b.distance && a.name ≤ b.name)

/-- The list without an entry that repeats the one before it. -/
def dropRepeats : List Ranked → List Ranked
  | [] => []
  | [a] => [a]
  | a :: b :: rest => if a = b then dropRepeats (b :: rest) else a :: dropRepeats (b :: rest)

/-- The near candidates, nearest first and each once. -/
def ranking (needle : List Char) (candidates : List String) : List Ranked :=
  dropRepeats <|
    ((candidates.filter fun c => isNear needle c.toList).map
      fun c => Ranked.mk (distance needle c.toList) c).mergeSort Ranked.le

/-- At most `limit` of the candidates near to a name, nearest first; nothing for a blank name. -/
def nearest (name : String) (candidates : List String) (limit : Nat) : List String :=
  let needle := Text.lower (Text.trim name.toList)
  if needle.isEmpty then []
  else ((ranking needle candidates).take limit).map Ranked.name

end Fabricate.Name
