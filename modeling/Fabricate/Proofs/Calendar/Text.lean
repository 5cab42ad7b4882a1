import Fabricate.Calendar.Expression
import Fabricate.Proofs.Calendar.Number
import Fabricate.Proofs.Decimal.Integer
import Fabricate.Proofs.Text.Cut
import Fabricate.Proofs.Text.Digit

/-!
# Dates read back

The text of a date is read as the date, in every year of the calendar (`readDate?_text`): a year
without a sign has just the four digits that are taken without one, and after a sign any number of
them is taken. A date starts with a digit or a sign, so it is not taken for the name of a day, and
an expression that is the text of a date denotes the date (`evaluate_text`).
-/

namespace Fabricate.Calendar

open Decimal

/-! ### Numbers -/

/-- As many digits as may be taken are read as their number. -/
theorem readDigits?_append {width : Nat} {ds rest : List Char} (filled : ds ≠ [])
    (digits : ∀ c ∈ ds, c.isDigit = true) (fits : ds.length ≤ width)
    (ends : ∀ c, rest.head? = some c → c.isDigit = false) :
    readDigits? width (ds ++ rest) = some (natOf ds, rest) := by
  have row : ds.isEmpty = false := List.isEmpty_eq_false_iff.2 filled
  rw [readDigits?, Text.takeWhile_append digits ends, List.take_of_length_le fits]
  rw [row, if_neg Bool.false_ne_true, List.drop_left]

theorem readDigits?_padded {width n : Nat} {rest : List Char} (positive : 0 < width)
    (fits : n < 10 ^ width) (ends : ∀ c, rest.head? = some c → c.isDigit = false) :
    readDigits? width (padded width n ++ rest) = some (n, rest) := by
  rw [readDigits?_append (padded_ne_nil width n) (fun c => isDigit_of_mem_padded)
    (length_padded_le positive fits) ends, natOf_padded]

/-- Digits after a sign are read to their end. -/
theorem readDigits?_signed {width n : Nat} {rest : List Char}
    (ends : ∀ c, rest.head? = some c → c.isDigit = false) :
    readDigits? (padded width n ++ rest).length (padded width n ++ rest) = some (n, rest) := by
  rw [readDigits?_append (padded_ne_nil width n) (fun c => isDigit_of_mem_padded) _ ends,
    natOf_padded]
  rw [List.length_append]
  exact Nat.le_add_right _ _

theorem exists_padded_eq_cons (width n : Nat) :
    ∃ c r, padded width n = c :: r ∧ c.isDigit = true := by
  obtain ⟨c, r, written⟩ := List.exists_cons_of_ne_nil (padded_ne_nil width n)
  exact ⟨c, r, written, isDigit_of_mem_padded (written ▸ List.mem_cons_self)⟩

/-- The three forms of a year. -/
theorem yearText_cases (year : Int) :
    (year < 0 ∧ yearText year = '-' :: padded 4 year.natAbs) ∨
      (0 ≤ year ∧ year.natAbs < 10 ^ 4 ∧ yearText year = padded 4 year.natAbs) ∨
        (0 ≤ year ∧ yearText year = '+' :: padded 4 year.natAbs) := by
  by_cases negative : year < 0
  · exact .inl ⟨negative, if_pos negative⟩
  · have natural : 0 ≤ year := Int.not_lt.1 negative
    rw [yearText, if_neg negative]
    by_cases short : year ≤ 9999
    · exact .inr (.inl ⟨natural, by omega, if_pos short⟩)
    · exact .inr (.inr ⟨natural, if_neg short⟩)

/-- A digit or a sign starts the text of a year. -/
theorem exists_yearText_eq_cons (year : Int) :
    ∃ c r, yearText year = c :: r ∧ (c.isDigit = true ∨ c = '-' ∨ c = '+') := by
  rcases yearText_cases year with ⟨-, written⟩ | ⟨-, -, written⟩ | ⟨-, written⟩
  · exact ⟨'-', _, written, .inr (.inl rfl)⟩
  · obtain ⟨c, r, row, digit⟩ := exists_padded_eq_cons 4 year.natAbs
    exact ⟨c, r, written.trans row, .inl digit⟩
  · exact ⟨'+', _, written, .inr (.inr rfl)⟩

theorem mem_yearText {year : Int} {c : Char} (h : c ∈ yearText year) :
    c.isDigit = true ∨ c = '-' ∨ c = '+' := by
  rcases yearText_cases year with ⟨-, written⟩ | ⟨-, -, written⟩ | ⟨-, written⟩
  · rw [written, List.mem_cons] at h
    exact h.elim (fun sign => .inr (.inl sign)) fun inside => .inl (isDigit_of_mem_padded inside)
  · rw [written] at h
    exact .inl (isDigit_of_mem_padded h)
  · rw [written, List.mem_cons] at h
    exact h.elim (fun sign => .inr (.inr sign)) fun inside => .inl (isDigit_of_mem_padded inside)

theorem readYear?_minus (r : List Char) :
    readYear? ('-' :: r) = (readDigits? r.length r).map fun (n, left) => (-(n : Int), left) :=
  rfl

theorem readYear?_plus (r : List Char) :
    readYear? ('+' :: r) = (readDigits? r.length r).map fun (n, left) => ((n : Int), left) :=
  rfl

/-- What starts with a digit is a year without a sign. -/
theorem readYear?_of_isDigit {c : Char} {r : List Char} (digit : c.isDigit = true) :
    readYear? (c :: r) = (readDigits? 4 (c :: r)).map fun (n, left) => ((n : Int), left) := by
  rw [readYear?, Text.trimStart_cons (Text.isBlank_of_isDigit digit)]
  split
  · next starts =>
    cases starts
    cases digit
  · next starts =>
    cases starts
    cases digit
  · rfl

theorem readYear?_yearText (year : Int) {rest : List Char}
    (ends : ∀ c, rest.head? = some c → c.isDigit = false) :
    readYear? (yearText year ++ rest) = some (year, rest) := by
  rcases yearText_cases year with ⟨negative, written⟩ | ⟨natural, short, written⟩ |
    ⟨natural, written⟩
  · rw [written, List.cons_append, readYear?_minus, readDigits?_signed ends, Option.map_some]
    dsimp only
    rw [Int.ofNat_natAbs_of_nonpos (Int.le_of_lt negative), Int.neg_neg]
  · have read := readDigits?_padded (by decide) short ends
    obtain ⟨c, r, row, digit⟩ := exists_padded_eq_cons 4 year.natAbs
    rw [written]
    rw [row, List.cons_append] at read ⊢
    rw [readYear?_of_isDigit digit, read, Option.map_some]
    dsimp only
    rw [Int.natAbs_of_nonneg natural]
  · rw [written, List.cons_append, readYear?_plus, readDigits?_signed ends, Option.map_some]
    dsimp only
    rw [Int.natAbs_of_nonneg natural]

/-! ### Dates -/

theorem afterDash?_cons (loose : Bool) (r : List Char) : afterDash? loose ('-' :: r) = some r := by
  cases loose <;> rfl

theorem month_lt (d : Date) : d.month < 10 ^ 2 :=
  Nat.lt_of_le_of_lt d.month_mem.2 (by decide)

theorem day_lt (d : Date) : d.day < 10 ^ 2 := by
  refine Nat.lt_of_le_of_lt d.day_mem.2 ?_
  unfold monthLength
  cases isLeap d.year <;> split <;> split <;> decide

/-- A padded number has no blanks in front. -/
theorem trimStart_padded (width n : Nat) (rest : List Char) :
    Text.trimStart (padded width n ++ rest) = padded width n ++ rest := by
  obtain ⟨c, r, written, digit⟩ := exists_padded_eq_cons width n
  rw [written, List.cons_append, Text.trimStart_cons (Text.isBlank_of_isDigit digit)]

theorem text_eq (d : Date) :
    d.text = yearText d.year ++ '-' :: (padded 2 d.month ++ '-' :: padded 2 d.day) := by
  rw [Date.text, List.append_assoc, List.cons_append]

/-- The text of a date is read as the date. -/
theorem readDate?_text (loose : Bool) (d : Date) : readDate? loose d.text = some d := by
  have dash : ∀ (r : List Char) c, ('-' :: r).head? = some c → c.isDigit = false := by
    rintro r c first
    cases first
    rfl
  have day : readDigits? 2 (Text.trimStart (padded 2 d.day)) = some (d.day, []) := by
    have read := @readDigits?_padded 2 d.day [] (by decide) (day_lt d) (by simp)
    rw [← trimStart_padded] at read
    rwa [List.append_nil] at read
  have ended : (if loose then Text.trimStart [] else ([] : List Char)).isEmpty = true := by
    cases loose <;> rfl
  have civil : Date.ofCivil? d.year d.month d.day = some d :=
    Date.ofCivil?_eq_some_iff.2 ⟨rfl, rfl, rfl⟩
  simp only [readDate?, text_eq, readYear?_yearText d.year (dash _), Option.bind_eq_bind,
    Option.bind_some, afterDash?_cons, trimStart_padded,
    readDigits?_padded (by decide : 0 < 2) (month_lt d) (dash _), day, ended, if_true, civil]

/-- The first day of the calendar. -/
example : (readDate? false "-262143-01-01".toList).map Date.year = some minYear := by decide

theorem mem_date_text {d : Date} {c : Char} (h : c ∈ d.text) :
    c.isDigit = true ∨ c = '-' ∨ c = '+' := by
  rw [text_eq, List.mem_append, List.mem_cons, List.mem_append, List.mem_cons] at h
  rcases h with inYear | dash | inMonth | dash | inDay
  · exact mem_yearText inYear
  · exact .inr (.inl dash)
  · exact .inl (isDigit_of_mem_padded inMonth)
  · exact .inr (.inl dash)
  · exact .inl (isDigit_of_mem_padded inDay)

/-- The text of a date starts with a digit or a sign and has a dash behind it. -/
theorem exists_date_text_eq_cons (d : Date) :
    ∃ c r, d.text = c :: r ∧ (c.isDigit = true ∨ c = '-' ∨ c = '+') ∧ '-' ∈ r := by
  obtain ⟨c, r, written, start⟩ := exists_yearText_eq_cons d.year
  refine ⟨c, r ++ '-' :: (padded 2 d.month ++ '-' :: padded 2 d.day), ?_, start,
    List.mem_append_right r List.mem_cons_self⟩
  rw [text_eq, written, List.cons_append]

theorem trim_date_text (d : Date) : Text.trim d.text = d.text :=
  Text.trim_eq_self
    (fun _ first => Text.isBlank_of_start (mem_date_text (List.mem_of_mem_head? first)))
    fun _ last => Text.isBlank_of_start (mem_date_text (List.mem_of_getLast? last))

/-! ### Expressions -/

/-- What starts like a number is no name of the current day. -/
theorem namesToday_cons {c : Char} (start : c.isDigit = true ∨ c = '-' ∨ c = '+') (r : List Char) :
    namesToday (c :: r) = false := by
  have other := Text.isAlpha_of_start start
  have today : 't'.isAlpha = true := rfl
  have now : 'n'.isAlpha = true := rfl
  rw [namesToday, Bool.or_eq_false_iff, decide_eq_false_iff_not, decide_eq_false_iff_not]
  exact ⟨Text.asciiLower_cons_ne other today r "oday".toList,
    Text.asciiLower_cons_ne other now r "ow".toList⟩

/-- On every day the text of a date denotes the date. -/
theorem evaluate_text (d today : Date) : evaluate (String.ofList d.text) today = .ok d := by
  obtain ⟨c, r, written, start, -⟩ := exists_date_text_eq_cons d
  have named : namesToday d.text = false := written ▸ namesToday_cons start r
  rw [evaluate, String.toList_ofList, trim_date_text]
  rw [named, if_neg Bool.false_ne_true, readDate?_text]

end Fabricate.Calendar
