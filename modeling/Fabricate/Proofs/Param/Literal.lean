import Fabricate.Proofs.Param.Coercion
import Fabricate.Proofs.Template.Token

/-!
# Typed parameters read back

Truth values, integers and texts can be written into a placeholder so that reading gives them back:
a truth value as its name, an integer in decimal, and a text between single quotes. What a text may
hold is limited by the two readers around it: a comma would end the parameter, and two neighbouring
braces would end the placeholder. Blanks at its ends, quotes, equals signs, lone braces and texts
that look like values of another type all survive, because the quotes keep every reader off them.

The written parameters pass four stages, each of which has its lemma: the cut into placeholders
(`wellFormed_leaf`), the cut at the commas (`params_leaf`), the cut of one parameter at its first
equals sign (`coerce_entryText`), and the order in which a value is taken for one of a type
(`coerceValue_written`).
-/

namespace Fabricate.Param

open Json Template

/-- A value as it can be written into a placeholder. -/
inductive Literal where
  | bool (b : Bool)
  | int (n : Int64)
  | text (s : String)

namespace Literal

/-- The written form: texts stand between single quotes. -/
def written : Literal → String
  | bool b => if b then "true" else "false"
  | int n => String.ofList (Decimal.ofInt n.toInt)
  | text s => "'" ++ s ++ "'"

/-- The value that is meant. -/
def value : Literal → Value
  | bool b => .bool b
  | int n => .ofInt64 n
  | text s => .string s

/-- A text may hold neither a comma nor two neighbouring braces. -/
def Writable : Literal → Prop
  | bool _ => True
  | int _ => True
  | text s =>
      ',' ∉ s.toList ∧ s.toList.IsChain fun c d => ¬(isBrace c = true ∧ isBrace d = true)

end Literal

/-- What a key may be: trimmed, not empty, and without the characters that end it. -/
structure IsKey (key : String) : Prop where
  ne_empty : key ≠ ""
  trimmed : Text.trimmed key = key
  chars : ∀ c ∈ key.toList, c ∉ ['=', ',', '\x7b', '\x7d']

instance (v : Literal) : Decidable v.Writable :=
  match v with
  | .bool _ => .isTrue trivial
  | .int _ => .isTrue trivial
  | .text s => inferInstanceAs <| Decidable <|
      ',' ∉ s.toList ∧ s.toList.IsChain fun c d => ¬(isBrace c = true ∧ isBrace d = true)

instance (key : String) : Decidable (IsKey key) :=
  -- One look at each character of the key, not at every character there is.
  haveI : Decidable (∀ c ∈ key.toList, c ∉ ['=', ',', '\x7b', '\x7d']) := List.decidableBAll _ _
  decidable_of_iff
    (key ≠ "" ∧ Text.trimmed key = key ∧ ∀ c ∈ key.toList, c ∉ ['=', ',', '\x7b', '\x7d'])
    ⟨fun ⟨filled, trimmed, chars⟩ => ⟨filled, trimmed, chars⟩,
      fun ⟨filled, trimmed, chars⟩ => ⟨filled, trimmed, chars⟩⟩

theorem IsKey.trim_toList {key : String} (h : IsKey key) :
    Text.trim key.toList = key.toList := by
  rw [← String.toList_ofList (l := Text.trim key.toList)]
  exact congrArg String.toList h.trimmed

/-- A key and its value as they stand in a placeholder. -/
def entryText (entry : String × Literal) : String :=
  entry.1 ++ "=" ++ entry.2.written

/-- The parameters as they stand in a placeholder. -/
def entriesText (entries : List (String × Literal)) : String :=
  ",".intercalate (entries.map entryText)

/-- A placeholder with typed parameters. -/
def leafText (name : String) (entries : List (String × Literal)) : String :=
  "\x7b\x7b" ++ name ++ ":" ++ entriesText entries ++ "\x7d\x7d"

/-! ### Written values -/

theorem isBrace_of_isDigit {c : Char} (h : c.isDigit = true) : isBrace c = false := by
  rw [isBrace, Bool.or_eq_false_iff, decide_eq_false_iff_not, decide_eq_false_iff_not]
  constructor <;> rintro rfl <;> cases h

namespace Literal

theorem toList_written_text (s : String) :
    (text s).written.toList = '\'' :: (s.toList ++ ['\'']) := by
  simp [written]

theorem toList_written_int (n : Int64) : (int n).written.toList = Decimal.ofInt n.toInt := by
  rw [written, String.toList_ofList]

/-- An integer is written without blanks, braces and commas. -/
theorem plain_of_mem_ofInt {n : Int} {c : Char} (h : c ∈ Decimal.ofInt n) :
    Text.isBlank c = false ∧ isBrace c = false ∧ c ≠ ',' := by
  rcases Decimal.mem_ofInt h with digit | rfl
  · refine ⟨Text.isBlank_of_isDigit digit, isBrace_of_isDigit digit, ?_⟩
    rintro rfl
    cases digit
  · decide

theorem written_ne_nil (v : Literal) : v.written.toList ≠ [] := by
  cases v with
  | bool b => cases b <;> decide
  | int n =>
      obtain ⟨c, r, first, -⟩ := Decimal.exists_ofInt_eq_cons n.toInt
      simp [toList_written_int, first]
  | text s => simp [toList_written_text]

/-- No blank stands at an end of a written value. -/
theorem isBlank_written {v : Literal} {c : Char}
    (h : v.written.toList.head? = some c ∨ v.written.toList.getLast? = some c) :
    Text.isBlank c = false := by
  cases v with
  | bool b => cases b <;> rcases h with h | h <;> cases h <;> rfl
  | int n =>
      rw [toList_written_int] at h
      rcases h with first | last
      · exact (plain_of_mem_ofInt (List.mem_of_head? first)).1
      · exact (plain_of_mem_ofInt (List.mem_of_getLast? last)).1
  | text s =>
      rw [toList_written_text] at h
      rcases h with first | last
      · cases first
        rfl
      · rw [← List.cons_append, List.getLast?_concat] at last
        cases last
        rfl

theorem comma_notMem_written {v : Literal} (h : v.Writable) : ',' ∉ v.written.toList := by
  cases v with
  | bool b => cases b <;> decide
  | int n =>
      rw [toList_written_int]
      exact fun comma => (plain_of_mem_ofInt comma).2.2 rfl
  | text s =>
      rw [toList_written_text]
      simpa using h.1

theorem bracesFollowed_written {v : Literal} (h : v.Writable) :
    BracesFollowed v.written.toList := by
  cases v with
  | bool b =>
      refine bracesFollowed_of_plain (List.forall_iff_forall_mem.1 ?_)
      cases b <;> decide
  | int n =>
      rw [toList_written_int]
      exact bracesFollowed_of_plain fun c member => (plain_of_mem_ofInt member).2.1
  | text s =>
      rw [toList_written_text, bracesFollowed_cons]
      have quote : isBrace '\'' = false := rfl
      refine ⟨fun brace => ?_, bracesFollowed_concat quote h.2⟩
      rw [quote] at brace
      cases brace

/-- A written value is taken for the value that is meant. -/
theorem coerceValue_written (v : Literal) : coerceValue v.written.toList = v.value := by
  cases v with
  | bool b => cases b <;> rfl
  | int n =>
      obtain ⟨c, r, first, start⟩ := Decimal.exists_ofInt_eq_cons n.toInt
      -- It starts with a digit or a minus sign, so it is neither quoted nor a truth value.
      have sign := start.imp_right (@Or.inl (c = '-') (c = '+'))
      have denotes : DenotesWord (c :: r) n :=
        Decimal.int?_eq_some_iff.1 (first ▸ Decimal.int?_ofInt n.toInt)
      rw [toList_written_int, first, coerceValue_eq_iff]
      exact .integer (not_quotes_of_start sign r)
        (not_spells_of_isAlpha (Text.isAlpha_of_start sign) r) denotes
  | text s =>
      rw [toList_written_text, coerceValue_eq_iff, value, ← String.ofList_toList (s := s),
        String.toList_ofList]
      exact .quoted (.inr rfl)

end Literal

/-! ### One parameter -/

theorem toList_entryText (entry : String × Literal) :
    (entryText entry).toList = entry.1.toList ++ '=' :: entry.2.written.toList := by
  simp [entryText]

theorem isEmpty_entryText (entry : String × Literal) :
    (entryText entry).toList.isEmpty = false := by
  simp [toList_entryText]

/-- A parameter is cut at its first equals sign, and its value is coerced. -/
theorem coerce_of_isKey {key : String} (h : IsKey key) {value : List Char}
    (trimmed : Text.trim value = value) :
    coerce (String.ofList (key.toList ++ '=' :: value)) = .ok (key, coerceValue value) := by
  have free : '=' ∉ key.toList := fun member => h.chars _ member (by decide)
  have filled : key.toList.isEmpty = false := by
    rw [List.isEmpty_eq_false_iff, ne_eq, String.toList_eq_nil_iff]
    exact h.ne_empty
  rw [coerce, String.toList_ofList, Text.splitFirst?_append free]
  dsimp only
  rw [h.trim_toList, filled, trimmed, String.ofList_toList]
  rfl

section

variable {entry : String × Literal} (key : IsKey entry.1)

include key

theorem coerce_entryText : coerce (entryText entry) = .ok (entry.1, entry.2.value) := by
  have trimmed : Text.trim entry.2.written.toList = entry.2.written.toList :=
    Text.trim_eq_self (fun c first => Literal.isBlank_written (.inl first))
      (fun c last => Literal.isBlank_written (.inr last))
  rw [← String.ofList_toList (s := entryText entry), toList_entryText, coerce_of_isKey key trimmed,
    Literal.coerceValue_written]

theorem head_entryText {c : Char} (h : (entryText entry).toList.head? = some c) :
    Text.isBlank c = false := by
  have filled : entry.1.toList ≠ [] := by
    rw [ne_eq, String.toList_eq_nil_iff]
    exact key.ne_empty
  obtain ⟨d, r, start⟩ := List.exists_cons_of_ne_nil filled
  have trimmed := Text.isTrim_trim entry.1.toList
  rw [key.trim_toList] at trimmed
  refine trimmed.head c ?_
  rw [toList_entryText, start] at h
  rw [start]
  exact h

theorem trim_entryText : Text.trim (entryText entry).toList = (entryText entry).toList := by
  refine Text.trim_eq_self (fun c first => head_entryText key first) fun c last => ?_
  obtain ⟨d, r, start⟩ := List.exists_cons_of_ne_nil entry.2.written_ne_nil
  rw [toList_entryText, start, List.getLast?_append_cons, List.getLast?_cons_cons, ← start] at last
  exact Literal.isBlank_written (.inr last)

theorem comma_notMem_entryText (writable : entry.2.Writable) :
    ',' ∉ (entryText entry).toList := by
  rw [toList_entryText, List.mem_append, List.mem_cons, not_or, not_or]
  exact ⟨fun member => key.chars _ member (by decide), by decide,
    Literal.comma_notMem_written writable⟩

theorem bracesFollowed_entryText (writable : entry.2.Writable) :
    BracesFollowed (entryText entry).toList := by
  rw [toList_entryText, ← List.singleton_append, ← List.append_assoc]
  refine bracesFollowed_append (bracesFollowed_of_plain fun c member => ?_)
    (Literal.bracesFollowed_written writable)
  rcases List.mem_append.1 member with inKey | equals
  · have other := key.chars c inKey
    simp only [List.mem_cons, List.not_mem_nil, or_false, not_or] at other
    simp [isBrace, other]
  · cases List.mem_singleton.1 equals
    rfl

end

/-! ### A placeholder with parameters -/

theorem toList_entriesText (entries : List (String × Literal)) :
    (entriesText entries).toList =
      [','].intercalate (entries.map fun entry => (entryText entry).toList) := by
  rw [entriesText, String.toList_intercalate, List.map_map]
  rfl

/-- The placeholder that is written. -/
def leaf (name : String) (entries : List (String × Literal)) : Placeholder :=
  ⟨false, name.toList, some (entriesText entries).toList⟩

theorem toList_leafText (name : String) (entries : List (String × Literal)) :
    (leafText name entries).toList = (leaf name entries).written := by
  simp [leafText, leaf, Placeholder.written, Placeholder.head, Placeholder.afterColon]

section

variable {name : String} {entries : List (String × Literal)}
  (keys : ∀ entry ∈ entries, IsKey entry.1) (values : ∀ entry ∈ entries, entry.2.Writable)

include keys values

theorem bracesFollowed_entriesText : BracesFollowed (entriesText entries).toList := by
  rw [toList_entriesText]
  induction entries with
  | nil => exact bracesFollowed_nil
  | cons entry rest ih =>
      have first := bracesFollowed_entryText (keys entry List.mem_cons_self)
        (values entry List.mem_cons_self)
      have others := ih (fun e member => keys e (List.mem_cons_of_mem _ member))
        (fun e member => values e (List.mem_cons_of_mem _ member))
      cases rest with
      | nil => simpa using first
      | cons next rest =>
          rw [List.map_cons, List.intercalate_cons_of_ne_nil (by simp)]
          refine bracesFollowed_append (bracesFollowed_append first ?_) others
          exact bracesFollowed_of_plain (List.forall_iff_forall_mem.1 (by decide))

theorem wellFormed_leaf (named : Text.trimmed name ≠ "")
    (nameChars : ∀ c ∈ name.toList, c ∉ ['[', ']', '\x7b', '\x7d', ':']) :
    (leaf name entries).WellFormed := by
  refine ⟨⟨nameChars, ?_⟩, ?_⟩
  · intro cs given
    cases given
    exact bracesFollowed_entriesText keys values
  · rw [← isNameless_eq_false_iff, Placeholder.isNameless, List.isEmpty_eq_false_iff]
    intro blank
    rw [leaf] at blank
    exact named (by rw [Text.trimmed, blank])

/-- The raw parameters of the placeholder are the parameters that were written. -/
theorem params_leaf : (leaf name entries).params = entries.map entryText := by
  rw [Placeholder.params, leaf]
  dsimp only
  by_cases none : entries = []
  · subst none
    rfl
  have cut : Text.IsSplit ',' (entries.map fun entry => (entryText entry).toList)
      (entriesText entries).toList := by
    refine ⟨(toList_entriesText entries).symm, ?_, by simpa using none⟩
    intro part member
    obtain ⟨entry, here, rfl⟩ := List.mem_map.1 member
    exact comma_notMem_entryText (keys entry here) (values entry here)
  have trimmed : (entries.map fun entry => (entryText entry).toList).map Text.trim =
      entries.map fun entry => (entryText entry).toList := by
    rw [List.map_map]
    exact List.map_congr_left fun entry here => trim_entryText (keys entry here)
  rw [cut.eq_splitAll, trimmed, List.filter_eq_self.2, List.map_map]
  · exact List.map_congr_left fun entry _ => String.ofList_toList
  · intro part member
    obtain ⟨entry, -, rfl⟩ := List.mem_map.1 member
    rw [isEmpty_entryText]
    rfl

end

/-- Parameters whose keys are new are put in order behind those already there. -/
theorem coerceInto_entryText {entries : List (String × Literal)}
    (keys : ∀ entry ∈ entries, IsKey entry.1) (before : Params)
    (distinct : (before.names ++ entries.map Prod.fst).Nodup) :
    coerceInto before (entries.map entryText) =
      .ok (before ++ entries.map fun entry => (entry.1, entry.2.value)) := by
  induction entries generalizing before with
  | nil => simp [coerceInto]
  | cons entry rest ih =>
      have new : entry.1 ∉ before.names := by
        rw [List.map_cons, List.nodup_append] at distinct
        exact fun member => distinct.2.2 _ member _ List.mem_cons_self rfl
      rw [List.map_cons, coerceInto, coerce_entryText (keys entry List.mem_cons_self)]
      dsimp only
      rw [Fields.put_of_notMem new, ih fun e member => keys e (List.mem_cons_of_mem _ member)]
      · simp
      · simpa [Fields.names] using distinct

theorem pieces_nil : pieces [] = [] := by
  rw [pieces]
  rfl

/-- Typed parameters that are written into a placeholder come back with their values: the text is
one placeholder, alone, with the trimmed name, and its parameters are read as the keys with the
values that were meant, in order. -/
theorem typed_parameters_read_back (name : String) (entries : List (String × Literal))
    (named : Text.trimmed name ≠ "")
    (nameChars : ∀ c ∈ name.toList, c ∉ ['[', ']', '\x7b', '\x7d', ':'])
    (keys : ∀ entry ∈ entries, IsKey entry.1) (distinct : (entries.map Prod.fst).Nodup)
    (values : ∀ entry ∈ entries, entry.2.Writable) :
    ∃ p : Placeholder,
      Template.tokens (leafText name entries) = [⟨p, 0, (leafText name entries).utf8ByteSize⟩] ∧
        standalone? (pieces (leafText name entries).toList) = some p ∧
        p.shape = .parameterized ∧ p.name = Text.trimmed name ∧
        coerceAll p.params = .ok (entries.map fun entry => (entry.1, entry.2.value)) := by
  have wellFormed := wellFormed_leaf keys values named nameChars
  have cut : pieces (leafText name entries).toList = [.placeholder (leaf name entries)] := by
    have read := placeholderAt?_written wellFormed.toIsMatch []
    have named := (isNameless_eq_false_iff _).2 wellFormed.named
    rw [List.append_nil, ← toList_leafText] at read
    rw [pieces_of_placeholderAt? read, pieces_nil, Placeholder.pieces, named]
    rfl
  refine ⟨leaf name entries, ?_, ?_, rfl, rfl, ?_⟩
  · rw [Template.tokens, cut, ← String.ofList_toList (s := leafText name entries),
      Text.utf8ByteSize_ofList, toList_leafText, tokensFrom, tokensFrom, Nat.zero_add]
  · rw [cut]
    rfl
  · rw [params_leaf keys values, coerceAll,
      coerceInto_entryText keys [] (by simpa [Fields.names] using distinct)]
    rfl

/-- Texts with blanks at their ends, with lone braces next to the quotes, with quotes, and with the
looks of other types, and the least integer. -/
theorem typed_parameters_read_back_extremes :
    let entries : List (String × Literal) :=
      [("a key", .text " x='\x7b"), ("least", .int (-9223372036854775808)), ("é", .text "007"),
        ("t", .text "\x7d true'"), ("b", .bool false), ("none", .text "")]
    Text.trimmed " name " ≠ "" ∧
      (∀ c ∈ " name ".toList, c ∉ ['[', ']', '\x7b', '\x7d', ':']) ∧
      (∀ entry ∈ entries, IsKey entry.1) ∧ (entries.map Prod.fst).Nodup ∧
      (∀ entry ∈ entries, entry.2.Writable) ∧
      ∃ p : Placeholder,
        Template.tokens (leafText " name " entries) =
            [⟨p, 0, (leafText " name " entries).utf8ByteSize⟩] ∧
          standalone? (pieces (leafText " name " entries).toList) = some p ∧
          p.shape = .parameterized ∧ p.name = Text.trimmed " name " ∧
          coerceAll p.params = .ok (entries.map fun entry => (entry.1, entry.2.value)) := by
  intro entries
  have named : Text.trimmed " name " ≠ "" := by decide
  have nameChars : ∀ c ∈ " name ".toList, c ∉ ['[', ']', '\x7b', '\x7d', ':'] :=
    List.forall_iff_forall_mem.1 (by decide)
  have keys : ∀ entry ∈ entries, IsKey entry.1 := by decide
  have distinct : (entries.map Prod.fst).Nodup := by decide
  have values : ∀ entry ∈ entries, entry.2.Writable := by decide
  exact ⟨named, nameChars, keys, distinct, values,
    typed_parameters_read_back " name " entries named nameChars keys distinct values⟩

end Fabricate.Param
