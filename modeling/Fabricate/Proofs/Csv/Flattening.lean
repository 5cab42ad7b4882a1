import Mathlib.Data.List.Forall2
import Fabricate.Csv.Table

/-!
# The cells of a document

A cell belongs to a value that is reached through objects that are not empty. The way to it is given
by positions of fields, which name each place of a document once even where names repeat;
`along d p` is the value at the end of the way `p` together with the names on it.

A document that is an object has one cell for each such place, in the order of the document, under
the names on the way joined by dots and with the text of the value (`flattens_documentCells`). Any
other document has one cell.
-/

namespace Fabricate.Csv

open Json

/-- The value at the end of a way through nested objects, with the names on the way. -/
def along : Value → List Nat → Option (List String × Value)
  | v, [] => some ([], v)
  | .object fields, i :: way =>
      match fields[i]? with
      | some (name, v) => (along v way).map fun (names, w) => (name :: names, w)
      | none => none
  | _, _ :: _ => none

/-- A value that makes up a cell: no object, or an empty one. -/
def IsCell (v : Value) : Prop :=
  ∀ fields, v = .object fields → fields = []

/-- The way leads to a value that makes up a cell. -/
def EndsInCell (d : Value) (way : List Nat) : Prop :=
  ∃ names v, along d way = some (names, v) ∧ IsCell v

/-- The cell at the end of the way, under the names joined by dots. -/
def CellAt (d : Value) (way : List Nat) (cell : String × String) : Prop :=
  ∃ names v, along d way = some (names, v) ∧ cell = (".".intercalate names, cellText v)

/-- The cells of a document, in its order: one for each place in an object, and one in all for any
other document. -/
inductive Flattens : Value → Cells → Prop
  | object {fields : List (String × Value)} {ways : List (List Nat)} {row : Cells} :
      (∀ way, way ∈ ways ↔ way ≠ [] ∧ EndsInCell (.object fields) way) →
      ways.Pairwise (· < ·) → List.Forall₂ (CellAt (.object fields)) ways row →
      Flattens (.object fields) row
  | value {d : Value} :
      (∀ fields, d ≠ .object fields) → Flattens d [("value", cellText d)]

/-! ### Ways to cells -/

mutual

/-- The ways to the cells of a value, in order. -/
def ways : Value → List (List Nat)
  | .object (field :: fields) => fieldWays 0 (field :: fields)
  | _ => [[]]

/-- The ways to the cells of fields, the first of which has the given position. -/
def fieldWays (first : Nat) : List (String × Value) → List (List Nat)
  | [] => []
  | (_, v) :: rest => (ways v).map (first :: ·) ++ fieldWays (first + 1) rest

end

theorem mem_fieldWays {first : Nat} {fields : List (String × Value)} {way : List Nat} :
    way ∈ fieldWays first fields ↔
      ∃ i rest name v, way = (first + i) :: rest ∧ fields[i]? = some (name, v) ∧ rest ∈ ways v := by
  induction fields generalizing first with
  | nil => simp [fieldWays]
  | cons field fields ih =>
      obtain ⟨name, v⟩ := field
      rw [fieldWays, List.mem_append, List.mem_map, ih]
      constructor
      · rintro (⟨rest, member, rfl⟩ | ⟨i, rest, other, w, rfl, here, member⟩)
        · exact ⟨0, rest, name, v, rfl, rfl, member⟩
        · exact ⟨i + 1, rest, other, w, by rw [Nat.add_right_comm, Nat.add_assoc], here, member⟩
      · rintro ⟨i, rest, other, w, rfl, here, member⟩
        cases i with
        | zero =>
            cases here
            exact .inl ⟨rest, member, rfl⟩
        | succ i =>
            exact .inr ⟨i, rest, other, w, by rw [Nat.add_right_comm, Nat.add_assoc], here, member⟩

theorem along_object_cons {fields : List (String × Value)} {i : Nat} {name : String} {v : Value}
    (h : fields[i]? = some (name, v)) (way : List Nat) :
    along (.object fields) (i :: way) =
      (along v way).map fun (names, w) => (name :: names, w) := by
  rw [along, h]

theorem endsInCell_object_cons {fields : List (String × Value)} {i : Nat} {way : List Nat} :
    EndsInCell (.object fields) (i :: way) ↔
      ∃ name v, fields[i]? = some (name, v) ∧ EndsInCell v way := by
  constructor
  · rintro ⟨names, w, reached, cell⟩
    rw [along] at reached
    split at reached
    · next name v here =>
        obtain ⟨⟨inner, u⟩, there, same⟩ := Option.map_eq_some_iff.1 reached
        cases same
        exact ⟨name, v, here, inner, _, there, cell⟩
    · cases reached
  · rintro ⟨name, v, here, names, w, there, cell⟩
    refine ⟨name :: names, w, ?_, cell⟩
    rw [along_object_cons here, there]
    rfl

theorem not_isCell_cons {field : String × Value} {fields : List (String × Value)} :
    ¬IsCell (.object (field :: fields)) := by
  intro cell
  cases cell _ rfl

theorem isCell_or_object (v : Value) :
    IsCell v ∨ ∃ field fields, v = .object (field :: fields) := by
  cases v with
  | object fields =>
      cases fields with
      | nil => exact .inl fun _ same => (Value.object.inj same).symm
      | cons field fields => exact .inr ⟨field, fields, rfl⟩
  | _ => exact .inl fun _ same => by cases same

theorem ways_of_isCell {v : Value} (h : IsCell v) : ways v = [[]] := by
  cases v with
  | object fields =>
      rw [h fields rfl]
      rfl
  | _ => rfl

theorem cells_of_isCell {v : Value} (h : IsCell v) (column : String) :
    cells column v = [(column, cellText v)] := by
  cases v with
  | object fields =>
      rw [h fields rfl]
      rfl
  | _ => rfl

theorem along_cons_of_isCell {v : Value} (h : IsCell v) (i : Nat) (way : List Nat) :
    along v (i :: way) = none := by
  cases v with
  | object fields =>
      rw [h fields rfl]
      rfl
  | _ => rfl

/-- The ways to the cells are those that lead to a value that makes up a cell. -/
theorem mem_ways {v : Value} {way : List Nat} : way ∈ ways v ↔ EndsInCell v way := by
  -- Induction on the way: each position in it leads into a field of the object before it.
  induction way generalizing v with
  | nil =>
      rcases isCell_or_object v with cell | ⟨field, fields, rfl⟩
      · rw [ways_of_isCell cell]
        exact ⟨fun _ => ⟨[], v, rfl, cell⟩, fun _ => List.mem_singleton.2 rfl⟩
      · rw [ways, mem_fieldWays]
        constructor
        · rintro ⟨i, rest, name, w, none, -, -⟩
          cases none
        · rintro ⟨names, w, reached, cell⟩
          cases reached
          exact absurd cell not_isCell_cons
  | cons i way ih =>
      rcases isCell_or_object v with cell | ⟨field, fields, rfl⟩
      · rw [ways_of_isCell cell]
        constructor
        · intro member
          cases List.mem_singleton.1 member
        · rintro ⟨names, w, reached, -⟩
          rw [along_cons_of_isCell cell] at reached
          cases reached
      · rw [ways, mem_fieldWays, endsInCell_object_cons]
        constructor
        · rintro ⟨j, rest, name, w, same, here, member⟩
          rw [Nat.zero_add] at same
          cases same
          exact ⟨name, w, here, ih.1 member⟩
        · rintro ⟨name, w, here, ends⟩
          exact ⟨i, way, name, w, by rw [Nat.zero_add], here, ih.2 ends⟩

mutual

theorem pairwise_ways : ∀ v : Value, (ways v).Pairwise (· < ·)
  | .object (field :: fields) => pairwise_fieldWays 0 (field :: fields)
  | .object [] => List.pairwise_singleton _ _
  | .null => List.pairwise_singleton _ _
  | .bool _ => List.pairwise_singleton _ _
  | .number _ => List.pairwise_singleton _ _
  | .string _ => List.pairwise_singleton _ _
  | .array _ => List.pairwise_singleton _ _

theorem pairwise_fieldWays (first : Nat) :
    ∀ fields : List (String × Value), (fieldWays first fields).Pairwise (· < ·)
  | [] => .nil
  | (name, v) :: rest => by
      rw [fieldWays, List.pairwise_append]
      refine ⟨?_, pairwise_fieldWays (first + 1) rest, ?_⟩
      · rw [List.pairwise_map]
        exact (pairwise_ways v).imp fun before => List.cons_lt_cons_iff.2 (.inr ⟨rfl, before⟩)
      · rintro _ here _ later
        obtain ⟨way, -, rfl⟩ := List.mem_map.1 here
        obtain ⟨i, way', -, -, rfl, -, -⟩ := mem_fieldWays.1 later
        exact List.cons_lt_cons_iff.2 (.inl (by omega))

end

/-! ### Cells -/

/-- What is said of the cells of a value whose column has a name. -/
def NamedCellAt (column : String) (v : Value) (way : List Nat) (cell : String × String) : Prop :=
  ∃ names w, along v way = some (names, w) ∧
    cell = (".".intercalate (column :: names), cellText w)

/-- What is said of the cells of fields, the first of which has the given position. -/
def FieldCellAt (start : String) (first : Nat) (fields : List (String × Value)) (way : List Nat)
    (cell : String × String) : Prop :=
  ∃ i rest name v names w, way = (first + i) :: rest ∧ fields[i]? = some (name, v) ∧
    along v rest = some (names, w) ∧
    cell = (start ++ ".".intercalate (name :: names), cellText w)

theorem namedCellAt_of_isCell {v : Value} (h : IsCell v) (column : String) :
    List.Forall₂ (NamedCellAt column v) (ways v) (cells column v) := by
  rw [ways_of_isCell h, cells_of_isCell h]
  exact .cons ⟨[], v, rfl, by rw [String.intercalate_singleton]⟩ .nil

mutual

theorem namedCellAt_cells (column : String) :
    ∀ v : Value, List.Forall₂ (NamedCellAt column v) (ways v) (cells column v)
  | .object (field :: fields) => by
      rw [ways, cells]
      refine (fieldCellAt_fieldCells (column ++ ".") 0 (field :: fields)).imp ?_
      rintro _ _ ⟨i, rest, name, v, names, w, rfl, here, reached, rfl⟩
      refine ⟨name :: names, w, ?_, ?_⟩
      · rw [Nat.zero_add, along_object_cons here, reached]
        rfl
      · rw [String.intercalate_cons_cons]
  | .object [] => namedCellAt_of_isCell (fun _ same => (Value.object.inj same).symm) column
  | .null => namedCellAt_of_isCell (by rintro _ ⟨⟩) column
  | .bool _ => namedCellAt_of_isCell (by rintro _ ⟨⟩) column
  | .number _ => namedCellAt_of_isCell (by rintro _ ⟨⟩) column
  | .string _ => namedCellAt_of_isCell (by rintro _ ⟨⟩) column
  | .array _ => namedCellAt_of_isCell (by rintro _ ⟨⟩) column

theorem fieldCellAt_fieldCells (start : String) (first : Nat) :
    ∀ fields : List (String × Value),
      List.Forall₂ (FieldCellAt start first fields) (fieldWays first fields)
        (fieldCells start fields)
  | [] => .nil
  | (name, v) :: rest => by
      rw [fieldWays, fieldCells]
      refine List.rel_append ?_ ?_
      · rw [List.forall₂_map_left_iff]
        refine (namedCellAt_cells (start ++ name) v).imp ?_
        rintro way _ ⟨names, w, reached, rfl⟩
        exact ⟨0, way, name, v, names, w, rfl, rfl, reached, by
          rw [String.intercalate_cons_append]⟩
      · refine (fieldCellAt_fieldCells start (first + 1) rest).imp ?_
        rintro _ _ ⟨i, way, other, u, names, w, rfl, here, reached, rfl⟩
        exact ⟨i + 1, way, other, u, names, w, by rw [Nat.add_right_comm, Nat.add_assoc], here,
          reached, rfl⟩

end

/-- The cells of a document are those of the places in it. -/
theorem flattens_documentCells (d : Value) : Flattens d (documentCells d) := by
  cases d with
  | object fields =>
      refine .object (fun way => ?_) (pairwise_fieldWays 0 fields) ?_
      · rw [mem_fieldWays]
        constructor
        · rintro ⟨i, rest, name, v, rfl, here, member⟩
          rw [Nat.zero_add]
          exact ⟨by simp, endsInCell_object_cons.2 ⟨name, v, here, mem_ways.1 member⟩⟩
        · rintro ⟨nonempty, ends⟩
          cases way with
          | nil => exact absurd rfl nonempty
          | cons i way =>
              obtain ⟨name, v, here, inside⟩ := endsInCell_object_cons.1 ends
              exact ⟨i, way, name, v, by rw [Nat.zero_add], here, mem_ways.2 inside⟩
      · refine (fieldCellAt_fieldCells "" 0 fields).imp ?_
        rintro _ _ ⟨i, rest, name, v, names, w, rfl, here, reached, rfl⟩
        refine ⟨name :: names, w, ?_, by rw [String.empty_append]⟩
        rw [Nat.zero_add, along_object_cons here, reached]
        rfl
  | _ => exact .value fun _ same => by cases same

end Fabricate.Csv
