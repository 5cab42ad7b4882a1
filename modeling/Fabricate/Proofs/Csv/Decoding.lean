import Mathlib.Data.List.Induction
import Fabricate.Proofs.Csv.Flattening
import Fabricate.Proofs.Csv.Reader
import Fabricate.Proofs.Csv.Writing

/-!
# Reading back the table of some documents

The table of some documents is given by their cells alone. Its header is the row of all names of
columns without repetitions, in the order of their first occurrences (`FirstSeen`); under a name a
document has the text of its last cell of that name, or nothing (`LastUnder`). This is what a reader
finds in the written table (`tables_read_back`), and a sink with room for it takes all of it however
few bytes it takes at once.
-/

namespace Fabricate.Csv

open Json

/-- The names of the second row are those of the first one, each of them once, in the order in which
they first occur there. -/
structure FirstSeen (names header : List String) : Prop where
  nodup : header.Nodup
  mem_iff : ∀ column, column ∈ header ↔ column ∈ names
  order : header.Pairwise fun a b => names.idxOf a < names.idxOf b

/-- The text is that of the last cell under the name, or there is neither a cell nor a text. -/
def LastUnder (row : Cells) (column field : String) : Prop :=
  (∃ before after, row = before ++ (column, field) :: after ∧ column ∉ after.map Prod.fst) ∨
    column ∉ row.map Prod.fst ∧ field = ""

/-- A table of rows of cells: one record for each row, and in it one field for each column. -/
structure Tabulates (rows : List Cells) (header : List String) (records : List (List String)) :
    Prop where
  columns : FirstSeen (rows.flatMap fun row => row.map Prod.fst) header
  fields : List.Forall₂ (fun row record => List.Forall₂ (LastUnder row) header record) rows records

/-! ### Columns -/

theorem eraseDups_concat (names : List String) (column : String) :
    (names ++ [column]).eraseDups =
      names.eraseDups ++ if column ∈ names then [] else [column] := by
  rw [List.eraseDups_append]
  by_cases seen : column ∈ names
  · simp [List.removeAll, seen]
  · simp [List.removeAll, seen, List.eraseDups_cons]

/-- A name is added behind those that were seen before it. -/
theorem pairwise_idxOf_eraseDups (names : List String) :
    names.eraseDups.Pairwise fun a b => names.idxOf a < names.idxOf b := by
  induction names using List.reverseRecOn with
  | nil => simp
  | append_singleton names column ih =>
      have kept : ∀ a ∈ names.eraseDups, (names ++ [column]).idxOf a = names.idxOf a :=
        fun a seen => List.idxOf_append_of_mem (List.mem_eraseDups.1 seen)
      rw [eraseDups_concat, List.pairwise_append]
      refine ⟨?_, ?_, ?_⟩
      · refine ih.imp_of_mem fun here there before => ?_
        rwa [kept _ here, kept _ there]
      · split <;> simp
      · intro a here b added
        split at added
        · cases added
        · next new =>
            obtain rfl := List.mem_singleton.1 added
            rw [kept a here, List.idxOf_append_of_notMem new]
            exact Nat.lt_add_right _ (List.idxOf_lt_length_iff.2 (List.mem_eraseDups.1 here))

theorem firstSeen_eraseDups (names : List String) : FirstSeen names names.eraseDups where
  nodup := (pairwise_idxOf_eraseDups names).imp fun before same => by
    rw [same] at before
    exact Nat.lt_irrefl _ before
  mem_iff _ := List.mem_eraseDups
  order := pairwise_idxOf_eraseDups names

/-! ### Fields -/

/-- The cell that is found from the end is the last one of its name. -/
theorem lastUnder_under (row : Cells) (column : String) :
    LastUnder row column (under row column) := by
  have last : under row column =
      ((row.reverse.find? fun cell => cell.1 = column).map Prod.snd).getD "" := rfl
  rw [last]
  cases found : row.reverse.find? fun cell => cell.1 = column with
  | none =>
      refine .inr ⟨fun member => ?_, rfl⟩
      obtain ⟨⟨name, field⟩, here, rfl⟩ := List.mem_map.1 member
      have other := List.find?_eq_none.1 found _ (List.mem_reverse.2 here)
      simp at other
  | some cell =>
      obtain ⟨name, field⟩ := cell
      obtain ⟨same, after, before, parts, none⟩ := List.find?_eq_some_iff_append.1 found
      obtain rfl : name = column := by simpa using same
      refine .inl ⟨before.reverse, after.reverse, ?_, fun member => ?_⟩
      · rw [← List.reverse_reverse row, parts]
        simp
      · obtain ⟨⟨other, text⟩, here, rfl⟩ := List.mem_map.1 member
        have := none _ (List.mem_reverse.1 here)
        simp at this

theorem tabulates_ofDocuments (documents : List Value) :
    Tabulates (documents.map documentCells) (Table.ofDocuments documents).header
      (Table.ofDocuments documents).rows where
  columns := firstSeen_eraseDups _
  fields := by
    dsimp only [Table.ofDocuments]
    rw [List.forall₂_map_right_iff, List.forall₂_same]
    intro row _
    rw [List.forall₂_map_right_iff, List.forall₂_same]
    exact fun column _ => lastUnder_under row column

/-! ### Documents without columns -/

theorem cells_ne_nil (column : String) : ∀ v : Value, cells column v ≠ []
  | .object ((name, v) :: fields) => by
      rw [cells, fieldCells]
      exact List.append_ne_nil_of_left_ne_nil (cells_ne_nil _ v) _
  | .object [] => List.cons_ne_nil _ _
  | .null => List.cons_ne_nil _ _
  | .bool _ => List.cons_ne_nil _ _
  | .number _ => List.cons_ne_nil _ _
  | .string _ => List.cons_ne_nil _ _
  | .array _ => List.cons_ne_nil _ _

theorem documentCells_eq_nil {d : Value} : documentCells d = [] ↔ d = .object [] := by
  constructor
  · intro none
    cases d with
    | object fields =>
        cases fields with
        | nil => rfl
        | cons field fields =>
            obtain ⟨name, v⟩ := field
            rw [documentCells, fieldCells] at none
            exact absurd (List.append_eq_nil_iff.1 none).1 (cells_ne_nil _ v)
    | _ => cases none
  · rintro rfl
    rfl

/-- A table has no column when all its documents are empty objects. -/
theorem header_eq_nil {documents : List Value} :
    (Table.ofDocuments documents).header = [] ↔ ∀ d ∈ documents, d = .object [] := by
  have columns := (tabulates_ofDocuments documents).columns.mem_iff
  simp only [List.mem_flatMap, List.mem_map, exists_exists_and_eq_and] at columns
  constructor
  · intro none d member
    rw [← documentCells_eq_nil]
    by_contra some
    obtain ⟨cell, rest, parts⟩ := List.exists_cons_of_ne_nil some
    have here := (columns cell.1).2 ⟨d, member, cell, by rw [parts]; exact List.mem_cons_self, rfl⟩
    rw [none] at here
    cases here
  · intro empty
    refine List.eq_nil_iff_forall_not_mem.2 fun column here => ?_
    obtain ⟨d, member, cell, inside, -⟩ := (columns column).1 here
    rw [empty d member] at inside
    cases inside

/-- A table that has a column is read as it. -/
theorem records_ofDocuments {documents : List Value}
    (named : (Table.ofDocuments documents).header ≠ []) :
    records (ofDocuments documents).toList =
      some ((Table.ofDocuments documents).header :: (Table.ofDocuments documents).rows) := by
  rw [ofDocuments, String.toList_ofList]
  refine records_text named fun row member => ?_
  obtain ⟨cells, -, rfl⟩ := List.mem_map.1 member
  exact fun none => named (List.map_eq_nil_iff.1 none)

/-- A reader of the written table finds the distinct names of columns and then one record for each
document, with the text of its last cell under each name. -/
theorem tables_read_back (documents : List Value) (columns : ∃ d ∈ documents, d ≠ .object []) :
    (∀ chunk, 0 < chunk →
      write documents ⟨chunk, none, #[]⟩ =
        (.ok (ofDocuments documents).toUTF8.toList.length,
          ⟨chunk, none, (ofDocuments documents).toUTF8.toList.toArray⟩)) ∧
      ∃ rows header fields, List.Forall₂ Flattens documents rows ∧
        records (ofDocuments documents).toList = some (header :: fields) ∧
        Tabulates rows header fields := by
  constructor
  · intro chunk takes
    rw [write_of_unlimited rfl (by exact takes)]
    simp
  · have named : (Table.ofDocuments documents).header ≠ [] := by
      obtain ⟨d, member, some⟩ := columns
      exact fun none => some (header_eq_nil.1 none d member)
    refine ⟨documents.map documentCells, (Table.ofDocuments documents).header,
      (Table.ofDocuments documents).rows, ?_, records_ofDocuments named,
      tabulates_ofDocuments documents⟩
    rw [List.forall₂_map_right_iff, List.forall₂_same]
    exact fun d _ => flattens_documentCells d

/-- Names that meet through dots, documents without fields and without a value, and a text that has
to stand between quotes. -/
theorem tables_read_back_ragged :
    let documents : List Value :=
      [.object [("a.b", .bool true),
          ("a", .object [("b", .string "x,\"y\"\r\n"), ("c", .object [])])],
        .null, .object [], .object [("tags", .array [.string "q", .null])]]
    (∃ d ∈ documents, d ≠ .object []) ∧
      Table.ofDocuments documents =
        ⟨["a.b", "a.c", "value", "tags"],
          [["x,\"y\"\r\n", "\x7b\x7d", "", ""], ["", "", "", ""], ["", "", "", ""],
            ["", "", "", "[\"q\",null]"]]⟩ ∧
      (∀ chunk, 0 < chunk →
        write documents ⟨chunk, none, #[]⟩ =
          (.ok (ofDocuments documents).toUTF8.toList.length,
            ⟨chunk, none, (ofDocuments documents).toUTF8.toList.toArray⟩)) ∧
      ∃ rows header fields, List.Forall₂ Flattens documents rows ∧
        records (ofDocuments documents).toList = some (header :: fields) ∧
        Tabulates rows header fields := by
  intro documents
  have columns : ∃ d ∈ documents, d ≠ .object [] :=
    ⟨.null, List.mem_cons_of_mem _ List.mem_cons_self, nofun⟩
  exact ⟨columns, by decide +kernel, tables_read_back documents columns⟩

end Fabricate.Csv
