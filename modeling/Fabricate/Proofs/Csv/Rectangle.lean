import Fabricate.Proofs.Batch.Items
import Fabricate.Proofs.Csv.Decoding
import Fabricate.Proofs.Generator.Behaviour
import Fabricate.Proofs.Json.Text
import Fabricate.Proofs.Template.Slot

/-!
# Tables of batches

All documents of a batch have the columns of their template. A walk changes nothing but texts, and
what it puts in the place of a text is never an object: neither a generated value nor a row of them
is one. So every way to a cell of the template is one to a cell of the document, and there are no
others (`map_fst_documentCells_assemble`).

In the table of a batch no field is missing, therefore: a field without characters stands for null
or for the empty text (`batches_are_rectangular`).
-/

namespace Fabricate.Csv

open Json Template

/-- The document has the value in a cell under the column. -/
inductive HasCell : Value → String → Value → Prop
  | object {fields : List (String × Value)} {way : List Nat} {names : List String} {v : Value} :
      way ≠ [] → along (.object fields) way = some (names, v) → IsCell v →
      HasCell (.object fields) (".".intercalate names) v
  | value {d : Value} : (∀ fields, d ≠ .object fields) → HasCell d "value" d

/-- The field is the text of a value that the document has under the column, in the last cell of
this name; it has no characters when the value is null or the empty text. -/
def Shows (d : Value) (column field : String) : Prop :=
  ∃ before after v, documentCells d = before ++ (column, field) :: after ∧
    column ∉ after.map Prod.fst ∧ HasCell d column v ∧ field = cellText v ∧
    (field = "" ↔ v = .null ∨ v = .string "")

/-- The documents have the columns of the template, and their table has a value in every place. -/
structure IsRectangle (template : Value) (documents : List Value) : Prop where
  columns : ∀ d ∈ documents,
    (documentCells d).map Prod.fst = (documentCells template).map Prod.fst
  header : ∃ first rest, documents = first :: rest ∧
    FirstSeen ((documentCells first).map Prod.fst) (Table.ofDocuments documents).header
  fields : List.Forall₂
    (fun d record => List.Forall₂ (Shows d) (Table.ofDocuments documents).header record)
    documents (Table.ofDocuments documents).rows
  read : template ≠ .object [] → records (ofDocuments documents).toList =
    some ((Table.ofDocuments documents).header :: (Table.ofDocuments documents).rows)

/-! ### Columns of a walk -/

theorem toJson_ne_object (v : Datum) (fields : List (String × Value)) :
    v.toJson ≠ .object fields := by
  intro same
  cases v with
  | float x =>
      rw [Datum.toJson, Value.ofFloat] at same
      split at same <;> cases same
  | _ => cases same

/-- What a walk puts in the place of a text is no object. -/
theorem textValue_ne_object (text : String) (cs : List Content)
    (fields : List (String × Value)) : textValue text cs ≠ .object fields := by
  unfold textValue
  split
  · next c _ _ =>
      cases c with
      | single v => exact toJson_ne_object v fields
      | row vs => exact Value.noConfusion
  · exact Value.noConfusion
  · exact Value.noConfusion

mutual

theorem map_fst_cells_assemble (column : String) : ∀ (v : Value) (cs : List Content),
    (cells column (assemble v cs)).map Prod.fst = (cells column v).map Prod.fst
  | .object (field :: fields), cs => by
      obtain ⟨name, v⟩ := field
      rw [cells, ← map_fst_fieldCells_assembleFields (column ++ ".") ((name, v) :: fields) cs]
      rfl
  | .object [], _ => rfl
  | .string text, cs => by
      rw [assemble, cells_of_isCell fun fields same => absurd same (textValue_ne_object _ _ _)]
      rfl
  | .array _, _ => rfl
  | .null, _ => rfl
  | .bool _, _ => rfl
  | .number _, _ => rfl

theorem map_fst_fieldCells_assembleFields (start : String) :
    ∀ (fields : List (String × Value)) (cs : List Content),
      (fieldCells start (assembleFields fields cs)).map Prod.fst =
        (fieldCells start fields).map Prod.fst
  | [], _ => rfl
  | (name, v) :: rest, cs => by
      rw [assembleFields, fieldCells, fieldCells, List.map_append, List.map_append,
        map_fst_cells_assemble (start ++ name) v, map_fst_fieldCells_assembleFields start rest]

end

theorem documentCells_of_ne_object {d : Value} (h : ∀ fields, d ≠ .object fields) :
    documentCells d = [("value", cellText d)] := by
  cases d with
  | object fields => exact absurd rfl (h fields)
  | _ => rfl

/-- A document has the columns of its template, whatever its slots are filled with. -/
theorem map_fst_documentCells_assemble (template : Value) (cs : List Content) :
    (documentCells (assemble template cs)).map Prod.fst =
      (documentCells template).map Prod.fst := by
  cases template with
  | object fields => exact map_fst_fieldCells_assembleFields "" fields cs
  | string text =>
      rw [assemble, documentCells_of_ne_object (textValue_ne_object text cs)]
      rfl
  | _ => rfl

theorem map_fst_documentCells_of_mem {s : Setting} {heeded : Bool} {template : Value} {count : Nat}
    {seeds : Batch.Seeds} {schedule : List Nat} {world later : World} {output : Batch.Output}
    (h : Batch.generate s heeded template count seeds schedule world = (.ok output, later)) :
    ∀ d ∈ output.documents,
      (documentCells d).map Prod.fst = (documentCells template).map Prod.fst := by
  obtain ⟨-, -, fs, -, rfl, done⟩ := Batch.done_of_ok h
  intro d member
  obtain ⟨f, here, rfl⟩ := List.mem_map.1 member
  obtain ⟨i, at_i⟩ := List.getElem?_of_mem here
  refine Batch.forall_done_of_walk (P := fun filled =>
    (documentCells filled.document).map Prod.fst = (documentCells template).map Prod.fst)
    ?_ _ (done i f at_i) f rfl
  intro seed w later filled walked
  obtain ⟨cs, q, -, rfl⟩ := mapM_of_walk_ok (congrArg Prod.fst walked)
  exact map_fst_documentCells_assemble template cs

/-! ### Cells and their values -/

theorem cellText_eq_empty {v : Value} : cellText v = "" ↔ v = .null ∨ v = .string "" := by
  cases v with
  | null => simp [cellText]
  | string text => simp [cellText]
  | _ => simpa [cellText] using Value.render_ne_empty _

theorem hasCell_of_mem {d : Value} {column field : String} (h : (column, field) ∈ documentCells d) :
    ∃ v, HasCell d column v ∧ field = cellText v := by
  have flat := flattens_documentCells d
  generalize documentCells d = row at flat h
  cases flat with
  | object leads _ cells =>
      obtain ⟨i, inside, here⟩ := List.getElem_of_mem h
      have left := cells.length_eq ▸ inside
      obtain ⟨names, v, reached, same⟩ := cells.get left inside
      obtain ⟨nonempty, names', v', reached', cell⟩ := (leads _).1 (List.getElem_mem left)
      simp only [List.get_eq_getElem] at reached same
      rw [here] at same
      rw [reached] at reached'
      cases reached'
      cases same
      exact ⟨v, .object nonempty reached cell, rfl⟩
  | value other =>
      cases List.mem_singleton.1 h
      exact ⟨d, .value other, rfl⟩

theorem shows_under {d : Value} {column : String} (h : column ∈ (documentCells d).map Prod.fst) :
    Shows d column (under (documentCells d) column) := by
  have last := lastUnder_under (documentCells d) column
  generalize under (documentCells d) column = field at last ⊢
  rcases last with ⟨before, after, parts, only⟩ | ⟨missing, -⟩
  · have member : (column, field) ∈ before ++ (column, field) :: after :=
      List.mem_append_right _ List.mem_cons_self
    rw [← parts] at member
    obtain ⟨v, cell, text⟩ := hasCell_of_mem member
    exact ⟨before, after, v, parts, only, cell, text, by rw [text, cellText_eq_empty]⟩
  · exact absurd h missing

/-! ### Rectangles -/

theorem eraseDups_append_of_subset {names more : List String} (h : more ⊆ names) :
    (names ++ more).eraseDups = names.eraseDups := by
  have nothing : more.removeAll names = [] := by
    simpa [List.removeAll, List.filter_eq_nil_iff] using fun column member => h member
  rw [List.eraseDups_append, nothing]
  simp

theorem header_of_columns {first : Value} {rest : List Value}
    (columns : ∀ d ∈ rest, (documentCells d).map Prod.fst = (documentCells first).map Prod.fst) :
    (Table.ofDocuments (first :: rest)).header =
      ((documentCells first).map Prod.fst).eraseDups := by
  refine eraseDups_append_of_subset fun column member => ?_
  obtain ⟨row, here, inside⟩ := List.mem_flatMap.1 member
  obtain ⟨d, other, rfl⟩ := List.mem_map.1 here
  change column ∈ (documentCells first).map Prod.fst
  rwa [← columns d other]

theorem isRectangle_of_columns {template : Value} {documents : List Value}
    (some : documents ≠ []) (columns : ∀ d ∈ documents,
      (documentCells d).map Prod.fst = (documentCells template).map Prod.fst) :
    IsRectangle template documents := by
  obtain ⟨first, rest, rfl⟩ := List.exists_cons_of_ne_nil some
  have own := columns first List.mem_cons_self
  -- The first document has all columns already, so the later ones add none to the header.
  have seen : FirstSeen ((documentCells first).map Prod.fst)
      (Table.ofDocuments (first :: rest)).header := by
    have others : ∀ d ∈ rest,
        (documentCells d).map Prod.fst = (documentCells first).map Prod.fst :=
      fun d member => (columns d (List.mem_cons_of_mem _ member)).trans own.symm
    rw [header_of_columns others]
    exact firstSeen_eraseDups _
  refine ⟨columns, ⟨first, rest, rfl, seen⟩, ?_, fun filled => records_ofDocuments fun none => ?_⟩
  · dsimp only [Table.ofDocuments]
    rw [List.map_map, List.forall₂_map_right_iff, List.forall₂_same]
    intro d member
    dsimp only [Function.comp]
    rw [List.forall₂_map_right_iff, List.forall₂_same]
    intro column inside
    refine shows_under ?_
    rw [columns d member, ← own]
    exact (seen.mem_iff column).1 inside
  · have empty := header_eq_nil.1 none first List.mem_cons_self
    rw [empty] at own
    exact filled (documentCells_eq_nil.1 (List.map_eq_nil_iff.1 own.symm))

/-- The documents of a batch that succeeds have the columns of its template, and in their table no
field is missing. -/
theorem batches_are_rectangular (s : Setting) (heeded : Bool) (template : Value) (count : Nat)
    (seeds : Batch.Seeds) (schedule : List Nat) (world later : World) (output : Batch.Output)
    (h : Batch.generate s heeded template count seeds schedule world = (.ok output, later)) :
    IsRectangle template output.documents := by
  refine isRectangle_of_columns ?_ (map_fst_documentCells_of_mem h)
  obtain ⟨positive, -, fs, length, rfl, -⟩ := Batch.done_of_ok h
  intro none
  rw [List.map_eq_nil_iff] at none
  rw [none] at length
  exact Nat.ne_of_lt positive length

/-- Two workers fill three documents with lists, next to names that meet through dots, an object
without fields and null. -/
theorem batches_are_rectangular_constant :
    let s : Setting :=
      { Setting.constant "n" [] (.list [.text "a,b", .null]) with options := .standard 2 }
    let template : Value := .object
      [("a.b", .string "\x7b\x7bn\x7d\x7d"), ("e", .object []), ("k", .null),
        ("a", .object [("b", .string "\x7b\x7b[n]:count=2\x7d\x7d"),
          ("c", .string "x \x7b\x7bn\x7d\x7d")])]
    ∃ output later,
      Batch.generate s true template 3 ⟨some 7, fun _ => 0⟩ [1, 0, 1] ⟨[], false⟩ =
          (.ok output, later) ∧
        (documentCells template).map Prod.fst = ["a.b", "e", "k", "a.b", "a.c"] ∧
        IsRectangle template output.documents := by
  intro s template
  have succeeds : (Batch.generate s true template 3 ⟨some 7, fun _ => 0⟩ [1, 0, 1]
      ⟨[], false⟩).1.isOk = true := by
    decide +kernel
  cases result : Batch.generate s true template 3 ⟨some 7, fun _ => 0⟩ [1, 0, 1] ⟨[], false⟩ with
  | mk outcome later =>
      rw [result] at succeeds
      cases outcome with
      | error f => cases succeeds
      | ok output =>
          exact ⟨output, later, rfl, by decide +kernel,
            batches_are_rectangular s true template 3 _ _ ⟨[], false⟩ later output result⟩

end Fabricate.Csv
