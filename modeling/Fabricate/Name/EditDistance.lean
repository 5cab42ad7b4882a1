/-!
# Edit distance

The distance of two texts is the least number of characters to insert, delete or replace to turn one
into the other. It is computed row by row: the row of a text holds its distances to the prefixes of
the other one, shortest first, and one more character extends each of them by its cheapest edit.
-/

namespace Fabricate.Name

/-- The distances, after the first, of a text extended by a character: `left` is the distance before
them, and the old row starts with the distance diagonally above. -/
def extendRow (c : Char) (left : Nat) : List Char → List Nat → List Nat
  | d :: ds, diagonal :: above :: row =>
      let cell := min (min (diagonal + if c = d then 0 else 1) (above + 1)) (left + 1)
      cell :: extendRow c cell ds (above :: row)
  | _, _ => []

/-- The row of a text extended by a character, from the row of the text. -/
def nextRow (ds : List Char) (row : List Nat) (c : Char) : List Nat :=
  match row with
  | [] => []
  | corner :: _ => (corner + 1) :: extendRow c (corner + 1) ds row

/-- The row of a text: its distances to the prefixes of `ds`. -/
def distanceRow (cs ds : List Char) : List Nat :=
  cs.foldl (nextRow ds) (List.range (ds.length + 1))

/-- The least number of single-character edits between two texts. -/
def distance (cs ds : List Char) : Nat :=
  (distanceRow cs ds).getLastD 0

end Fabricate.Name
