import Fabricate.Csv.Printer
import Fabricate.Proofs.Text.Cut

/-!
# Reading tables

The reader that the tables are written for. Records end with the line, their fields stand between
commas, and a field is either plain or between quotes. A plain field ends before the first comma,
quote or end of line; in a field between quotes everything is text, and a quote is written twice.
Nothing else is read: a quote inside a plain field, text after a closing quote and a last record
without an end of line are refused.

What is written for a field or a record is read as it, whatever follows (`fieldAt?_fieldText`,
`recordAt?_recordText`), and so is a table (`records_text`).
-/

namespace Fabricate.Csv

/-! ### The reader -/

/-- The text up to the quote that closes it, and what follows. -/
def quotedAt? : List Char → Option (List Char × List Char)
  | [] => none
  | '"' :: '"' :: cs => (quotedAt? cs).map fun (field, rest) => ('"' :: field, rest)
  | '"' :: cs => some ([], cs)
  | c :: cs => (quotedAt? cs).map fun (field, rest) => (c :: field, rest)

/-- Whether a character may stand in a plain field. -/
def isPlain (c : Char) : Bool :=
  !(c = ',' || c = '"' || c = '\r' || c = '\n')

/-- The field at the start of the characters, and what follows. -/
def fieldAt? : List Char → Option (List Char × List Char)
  | '"' :: cs => quotedAt? cs
  | cs => some (cs.takeWhile isPlain, cs.dropWhile isPlain)

theorem length_quotedAt? {cs field rest : List Char} (h : quotedAt? cs = some (field, rest)) :
    rest.length < cs.length := by
  fun_induction quotedAt? cs generalizing field with
  | case1 => cases h
  | case2 cs ih =>
      obtain ⟨⟨inner, left⟩, read, same⟩ := Option.map_eq_some_iff.1 h
      cases same
      have := ih read
      simp only [List.length_cons]
      omega
  | case3 cs _ =>
      cases h
      exact Nat.lt_succ_self _
  | case4 c cs _ _ ih =>
      obtain ⟨⟨inner, left⟩, read, same⟩ := Option.map_eq_some_iff.1 h
      cases same
      exact Nat.lt_succ_of_lt (ih read)

theorem length_fieldAt? {cs field rest : List Char} (h : fieldAt? cs = some (field, rest)) :
    rest.length ≤ cs.length := by
  unfold fieldAt? at h
  split at h
  · exact Nat.le_succ_of_le (Nat.le_of_lt (length_quotedAt? h))
  · cases h
    exact (List.dropWhile_sublist isPlain).length_le

/-- The record at the start of the characters, and what follows its end of line. -/
def recordAt? (cs : List Char) : Option (List String × List Char) :=
  match _found : fieldAt? cs with
  | some (field, ',' :: rest) =>
      (recordAt? rest).map fun (fields, rest) => (String.ofList field :: fields, rest)
  | some (field, '\n' :: rest) => some ([String.ofList field], rest)
  | _ => none
termination_by cs.length
decreasing_by exact length_fieldAt? _found

theorem length_recordAt? {cs rest : List Char} {fields : List String}
    (h : recordAt? cs = some (fields, rest)) : rest.length < cs.length := by
  fun_induction recordAt? cs generalizing fields with
  | case1 cs field left read ih =>
      obtain ⟨⟨others, after⟩, record, same⟩ := Option.map_eq_some_iff.1 h
      cases same
      exact Nat.lt_trans (ih record) (length_fieldAt? read)
  | case2 cs field left read =>
      cases h
      exact length_fieldAt? read
  | case3 => cases h

/-- The records of a text. -/
def records (cs : List Char) : Option (List (List String)) :=
  match cs with
  | [] => some []
  | c :: r =>
      match _found : recordAt? (c :: r) with
      | some (fields, rest) => (records rest).map (fields :: ·)
      | none => none
termination_by cs.length
decreasing_by exact length_recordAt? _found

/-! ### Fields -/

theorem quotedAt?_doubled (field : List Char) {c : Char} (h : c ≠ '"') (rest : List Char) :
    quotedAt? (doubled field ++ '"' :: c :: rest) = some (field, c :: rest) := by
  fun_induction doubled field with
  | case1 =>
      rw [List.nil_append, quotedAt?]
      rintro cs ⟨⟩
      exact h rfl
  | case2 cs ih =>
      rw [List.cons_append, List.cons_append, quotedAt?, ih]
      rfl
  | case3 d cs other ih =>
      rw [List.cons_append, quotedAt?, ih]
      · rfl
      · rintro cs same
        exact absurd same other
      · exact other

/-- A written field is read up to the comma or the end of line that follows it. -/
theorem fieldAt?_fieldText (field : List Char) {c : Char} (h : c = ',' ∨ c = '\n')
    (rest : List Char) : fieldAt? (fieldText field ++ c :: rest) = some (field, c :: rest) := by
  have quote : c ≠ '"' := by rcases h with rfl | rfl <;> decide
  have outside : ∀ d, (c :: rest).head? = some d → isPlain d = false := by
    rintro d ⟨⟩
    rcases h with rfl | rfl <;> rfl
  unfold fieldText
  split
  · rw [List.cons_append, List.cons_append, List.append_assoc, List.singleton_append]
    exact quotedAt?_doubled field quote rest
  · next plain =>
      -- Without quotes around it, the field has no character that could end it or open a quote.
      have inside : ∀ d ∈ field, isPlain d = true := by
        intro d member
        rw [isPlain, Bool.not_eq_true']
        exact Bool.eq_false_iff.2 fun special => plain (List.any_eq_true.2 ⟨d, member, special⟩)
      unfold fieldAt?
      split
      · next r start =>
          cases field with
          | nil =>
              cases start
              exact absurd rfl quote
          | cons d field =>
              cases start
              cases inside '"' List.mem_cons_self
      · rw [Text.takeWhile_append inside outside, Text.dropWhile_append inside outside]

/-! ### Records -/

theorem recordAt?_comma {cs field rest : List Char} (h : fieldAt? cs = some (field, ',' :: rest)) :
    recordAt? cs =
      (recordAt? rest).map fun (fields, rest) => (String.ofList field :: fields, rest) := by
  rw [recordAt?]
  split
  · next read =>
      rw [h] at read
      cases read
      rfl
  · next read =>
      rw [h] at read
      cases read
  · next other _ => exact absurd h (other _ _)

theorem recordAt?_newLine {cs field rest : List Char}
    (h : fieldAt? cs = some (field, '\n' :: rest)) :
    recordAt? cs = some ([String.ofList field], rest) := by
  rw [recordAt?]
  split
  · next read =>
      rw [h] at read
      cases read
  · next read =>
      rw [h] at read
      cases read
      rfl
  · next other => exact absurd h (other _ _)

/-- Written fields are read up to the end of the line. -/
theorem recordAt?_line {fields : List String} (h : fields ≠ []) (rest : List Char) :
    recordAt? ([','].intercalate (fields.map fun f => fieldText f.toList) ++ '\n' :: rest) =
      some (fields, rest) := by
  induction fields with
  | nil => exact absurd rfl h
  | cons f fields ih =>
      cases fields with
      | nil =>
          rw [List.map_singleton, List.intercalate_singleton,
            recordAt?_newLine (fieldAt?_fieldText f.toList (.inr rfl) rest), String.ofList_toList]
      | cons g fields =>
          rw [List.map_cons, List.intercalate_cons_of_ne_nil (by simp), List.append_assoc,
            List.append_assoc, List.singleton_append,
            recordAt?_comma (fieldAt?_fieldText f.toList (.inl rfl) _), ih (by simp),
            String.ofList_toList]
          rfl

/-- A line without characters is that of one empty field. -/
theorem eq_singleton_of_line_eq_nil {fields : List String} (h : fields ≠ [])
    (line : [','].intercalate (fields.map fun f => fieldText f.toList) = []) : fields = [""] := by
  match fields, h with
  | [f], _ =>
      rw [List.map_singleton, List.intercalate_singleton, fieldText] at line
      split at line
      · cases line
      · rw [← String.ofList_toList (s := f), line]
  | f :: g :: fields, _ =>
      rw [List.map_cons, List.intercalate_cons_of_ne_nil (by simp)] at line
      simp at line

/-- A written record is read as it, whatever follows. -/
theorem recordAt?_recordText {fields : List String} (h : fields ≠ []) (rest : List Char) :
    recordAt? (recordText fields ++ rest) = some (fields, rest) := by
  simp only [recordText]
  split
  · next line =>
      rw [eq_singleton_of_line_eq_nil h (List.isEmpty_iff.1 line)]
      exact recordAt?_newLine rfl
  · rw [List.append_assoc, List.singleton_append]
    exact recordAt?_line h rest

theorem records_append {fields : List String} (h : fields ≠ []) (rest : List Char) :
    records (recordText fields ++ rest) = (records rest).map (fields :: ·) := by
  have read := recordAt?_recordText h rest
  cases text : recordText fields ++ rest with
  | nil => simp [recordText] at text
  | cons c r =>
      rw [text] at read
      rw [records]
      split
      · next found =>
          rw [read] at found
          cases found
          rfl
      · next found =>
          rw [read] at found
          cases found

/-- The text of a table without empty records is read as its records. -/
theorem records_text {t : Table} (header : t.header ≠ []) (rows : ∀ row ∈ t.rows, row ≠ []) :
    records t.text = some (t.header :: t.rows) := by
  have body : ∀ rows : List (List String), (∀ row ∈ rows, row ≠ []) →
      records (rows.flatMap recordText) = some rows := by
    intro rows filled
    induction rows with
    | nil => rw [List.flatMap_nil, records]
    | cons row rest ih =>
        rw [List.flatMap_cons, records_append (filled row List.mem_cons_self),
          ih fun other member => filled other (List.mem_cons_of_mem _ member)]
        rfl
  rw [Table.text, records_append header, body t.rows rows]
  rfl

end Fabricate.Csv
