import Fabricate.Proofs.Calendar.Shift
import Fabricate.Proofs.Calendar.Text

/-!
# Offsets

An offset is written as an integer and the letter of a unit. No such text names the current day, and
none is a date, since the only dash it may hold is its sign; so it denotes the day at this offset
(`evaluate_eq`), unless its size in days or months does not fit a word.

Offsets in one unit are therefore ordered like their amounts, and a week is seven days and a year
twelve months.
-/

namespace Fabricate.Calendar

open Decimal

/-- The texts of an offset: an integer, also with a plus sign or leading zeros, and the letter of
its unit in either case. Days need no letter. -/
inductive Writes : String → Int → OffsetUnit → Prop
  | unit {body : List Char} {letter : Char} {amount : Int} {unit : OffsetUnit} :
      int? body = some amount → OffsetUnit.ofLetter? letter = some unit →
      Writes (String.ofList (body ++ [letter])) amount unit
  | bare {body : List Char} {amount : Int} :
      int? body = some amount → Writes (String.ofList body) amount .day

theorem isAlpha_of_ofLetter? {c : Char} {unit : OffsetUnit}
    (h : OffsetUnit.ofLetter? c = some unit) : c.isAlpha = true := by
  apply Text.isAlpha_of_toLower
  unfold OffsetUnit.ofLetter? at h
  split at h
  · next same => rw [same]; rfl
  · next same => rw [same]; rfl
  · next same => rw [same]; rfl
  · next same => rw [same]; rfl
  · cases h

/-! ### What is no date -/

theorem mem_of_readDigits? {width : Nat} {cs left : List Char} {n : Nat}
    (h : readDigits? width cs = some (n, left)) : ∀ c ∈ left, c ∈ cs.tail := by
  unfold readDigits? at h
  dsimp only at h
  split at h
  · cases h
  · next some =>
    cases h
    rw [List.isEmpty_iff, ← List.length_eq_zero_iff] at some
    intro c member
    rw [← List.drop_one]
    exact List.drop_subset_drop_left cs (Nat.pos_of_ne_zero some) member

theorem mem_of_readYear? {cs left : List Char} {n : Int} (h : readYear? cs = some (n, left)) :
    ∀ c ∈ left, c ∈ (Text.trimStart cs).tail := by
  unfold readYear? at h
  split at h
  · next r starts =>
    obtain ⟨⟨m, rest⟩, read, same⟩ := Option.map_eq_some_iff.1 h
    cases same
    rw [starts]
    exact fun c member => List.mem_of_mem_tail (mem_of_readDigits? read c member)
  · next r starts =>
    obtain ⟨⟨m, rest⟩, read, same⟩ := Option.map_eq_some_iff.1 h
    cases same
    rw [starts]
    exact fun c member => List.mem_of_mem_tail (mem_of_readDigits? read c member)
  · obtain ⟨⟨m, rest⟩, read, same⟩ := Option.map_eq_some_iff.1 h
    cases same
    exact mem_of_readDigits? read

/-- A date has a dash behind its year. -/
theorem readDate?_eq_none {cs : List Char} (h : '-' ∉ (Text.trimStart cs).tail) :
    readDate? false cs = none := by
  unfold readDate?
  cases year : readYear? cs with
  | none => rfl
  | some found =>
      obtain ⟨n, left⟩ := found
      have dash : afterDash? false left = none := by
        unfold afterDash?
        split
        · next r starts =>
          rw [if_neg Bool.false_ne_true] at starts
          refine absurd (mem_of_readYear? year '-' ?_) h
          rw [starts]
          exact List.mem_cons_self
        · rfl
      rw [Option.bind_eq_bind, Option.bind_some]
      dsimp only
      rw [dash]
      rfl

/-! ### What an offset denotes -/

/-- A sign or a digit starts an offset, and only digits and a letter follow. -/
theorem Writes.exists_cons {text : String} {amount : Int} {unit : OffsetUnit}
    (h : Writes text amount unit) :
    ∃ c r, text.toList = c :: r ∧ (c.isDigit = true ∨ c = '-' ∨ c = '+') ∧
      ∀ d ∈ r, d.isDigit = true ∨ d.isAlpha = true := by
  cases h with
  | @unit body letter amount unit read known =>
      obtain ⟨c, r, rfl, starts, digits⟩ := exists_cons_of_int? read
      refine ⟨c, r ++ [letter], String.toList_ofList, starts.imp id And.left, fun d member => ?_⟩
      rcases List.mem_append.1 member with inside | last
      · exact .inl (digits d inside)
      · rw [List.mem_singleton.1 last]
        exact .inr (isAlpha_of_ofLetter? known)
  | @bare body amount read =>
      obtain ⟨c, r, rfl, starts, digits⟩ := exists_cons_of_int? read
      exact ⟨c, r, String.toList_ofList, starts.imp id And.left, fun d member =>
        .inl (digits d member)⟩

theorem Writes.isBlank {text : String} {amount : Int} {unit : OffsetUnit}
    (h : Writes text amount unit) : ∀ c ∈ text.toList, Text.isBlank c = false := by
  obtain ⟨c, r, written, starts, follow⟩ := h.exists_cons
  rw [written]
  intro d member
  rcases List.mem_cons.1 member with rfl | later
  · exact Text.isBlank_of_start starts
  · rcases follow d later with digit | letter
    · exact Text.isBlank_of_isDigit digit
    · exact Text.isBlank_of_isAlpha letter

theorem Writes.trim_eq {text : String} {amount : Int} {unit : OffsetUnit}
    (h : Writes text amount unit) : Text.trim text.toList = text.toList :=
  Text.trim_eq_self (fun c first => h.isBlank c (List.mem_of_mem_head? first))
    fun c last => h.isBlank c (List.mem_of_getLast? last)

theorem Writes.namesToday_eq {text : String} {amount : Int} {unit : OffsetUnit}
    (h : Writes text amount unit) : namesToday text.toList = false := by
  obtain ⟨c, r, written, starts, -⟩ := h.exists_cons
  rw [written, namesToday_cons starts]

theorem Writes.readDate?_eq {text : String} {amount : Int} {unit : OffsetUnit}
    (h : Writes text amount unit) : readDate? false text.toList = none := by
  have solid := h.isBlank
  obtain ⟨c, r, written, -, follow⟩ := h.exists_cons
  rw [written] at solid ⊢
  apply readDate?_eq_none
  rw [Text.trimStart_cons (solid c List.mem_cons_self)]
  intro dash
  rcases follow '-' dash with digit | letter
  · cases digit
  · cases letter

theorem Writes.splitUnit_eq {text : String} {amount : Int} {unit : OffsetUnit}
    (h : Writes text amount unit) :
    ∃ body letter, splitUnit text.toList = (body, letter) ∧ int? body = some amount ∧
      OffsetUnit.ofLetter? letter = some unit := by
  cases h with
  | @unit body letter amount unit read known =>
      refine ⟨body, letter, ?_, read, known⟩
      rw [String.toList_ofList, splitUnit, List.getLast?_concat]
      dsimp only
      rw [if_pos (isAlpha_of_ofLetter? known), List.dropLast_concat]
  | @bare body amount read =>
      refine ⟨body, 'd', ?_, read, rfl⟩
      obtain ⟨c, r, rfl, starts, digits⟩ := exists_cons_of_int? read
      have digit : ((c :: r).getLast (List.cons_ne_nil c r)).isDigit = true := by
        cases r with
        | nil => exact starts.resolve_right fun sign => sign.2 rfl
        | cons d r =>
            rw [List.getLast_cons_cons]
            exact digits _ (List.getLast_mem _)
      rw [String.toList_ofList, splitUnit, List.getLast?_eq_some_getLast (List.cons_ne_nil c r)]
      dsimp only
      rw [Text.isAlpha_of_isDigit digit, if_neg Bool.false_ne_true]

theorem fitsSigned_of_size {unit : OffsetUnit} {amount : Int}
    (h : Word.fitsSigned (unit.size * amount) = true) : Word.fitsSigned amount = true := by
  rw [Word.fitsSigned_iff] at h ⊢
  cases unit <;> simp only [OffsetUnit.size] at h <;> omega

/-- An offset denotes the day that is so far away, if its size in days or months fits a word. -/
theorem Writes.evaluate_eq {text : String} {amount : Int} {unit : OffsetUnit}
    (h : Writes text amount unit) (today : Date) :
    evaluate text today =
      if Word.fitsSigned (unit.size * amount) then
        (today.shift? unit amount).elim (.error .outOfRange) .ok
      else .error (.unreadable text) := by
  obtain ⟨body, letter, split, read, known⟩ := h.splitUnit_eq
  unfold evaluate
  dsimp only
  rw [h.trim_eq, h.namesToday_eq, if_neg Bool.false_ne_true, h.readDate?_eq]
  dsimp only
  rw [offset, split]
  dsimp only
  rw [read, known, String.ofList_toList]
  by_cases small : Word.fitsSigned amount = true
  · rw [Option.filter_some_pos small]
    dsimp only
    cases today.shift? unit amount <;> rfl
  · rw [Option.filter_some_neg (Bool.eq_false_iff.2 small),
      if_neg fun fits => small (fitsSigned_of_size fits)]

theorem Writes.evaluate_eq_ok_iff {text : String} {amount : Int} {unit : OffsetUnit}
    (h : Writes text amount unit) {today d : Date} :
    evaluate text today = .ok d ↔
      Word.fitsSigned (unit.size * amount) = true ∧ today.shift? unit amount = some d := by
  rw [h.evaluate_eq]
  split
  · next fits =>
    cases today.shift? unit amount with
    | none => simp
    | some e => simp [fits]
  · next wide => simp [wide]

/-! ### Offsets in one unit -/

theorem fitsSigned_between {unit : OffsetUnit} {a b c : Int}
    (ha : Word.fitsSigned (unit.size * a) = true) (hb : Word.fitsSigned (unit.size * b) = true)
    (h : a ≤ c) (h' : c ≤ b) : Word.fitsSigned (unit.size * c) = true := by
  rw [Word.fitsSigned_iff] at ha hb ⊢
  cases unit <;> simp only [OffsetUnit.size] at ha hb ⊢ <;> omega

theorem OffsetUnit.size_mul_le (unit : OffsetUnit) {a b : Int} (h : a ≤ b) :
    unit.size * a ≤ unit.size * b :=
  Int.mul_le_mul_of_nonneg_left h (by cases unit <;> decide)

theorem Date.shift?_mono {d e f : Date} {unit : OffsetUnit} {a b : Int}
    (he : d.shift? unit a = some e) (hf : d.shift? unit b = some f) (h : a ≤ b) : e ≤ f := by
  have grows := unit.size_mul_le h
  cases unit with
  | day => exact Date.addDays?_mono he hf grows
  | week => exact Date.addDays?_mono he hf grows
  | month => exact Date.addMonths?_mono he hf grows
  | year => exact Date.addMonths?_mono he hf grows

theorem Date.exists_shift? {d e f : Date} {unit : OffsetUnit} {a b c : Int}
    (he : d.shift? unit a = some e) (hf : d.shift? unit b = some f) (h : a ≤ c) (h' : c ≤ b) :
    ∃ g, d.shift? unit c = some g := by
  have grows := unit.size_mul_le h
  have grows' := unit.size_mul_le h'
  cases unit with
  | day => exact Date.exists_addDays? he hf grows grows'
  | week => exact Date.exists_addDays? he hf grows grows'
  | month => exact Date.exists_addMonths? he hf grows grows'
  | year => exact Date.exists_addMonths? he hf grows grows'

/-- Offsets in one unit are ordered like their amounts, and between two that denote days all others
do. -/
theorem evaluate_mono {text text' : String} {a b : Int} {unit : OffsetUnit}
    {today first last : Date} (ha : Writes text a unit) (hb : Writes text' b unit) (order : a ≤ b)
    (start : evaluate text today = .ok first) (stop : evaluate text' today = .ok last) :
    first ≤ last ∧ ∀ mid c, Writes mid c unit → a ≤ c → c ≤ b →
      ∃ d, evaluate mid today = .ok d ∧ first ≤ d ∧ d ≤ last := by
  obtain ⟨fits, shifted⟩ := ha.evaluate_eq_ok_iff.1 start
  obtain ⟨fits', shifted'⟩ := hb.evaluate_eq_ok_iff.1 stop
  refine ⟨Date.shift?_mono shifted shifted' order, fun mid c hc above below => ?_⟩
  obtain ⟨d, between⟩ := Date.exists_shift? shifted shifted' above below
  exact ⟨d, hc.evaluate_eq_ok_iff.2 ⟨fitsSigned_between fits fits' above below, between⟩,
    Date.shift?_mono shifted between above, Date.shift?_mono between shifted' below⟩

/-- Offsets that shift by the same days or months denote the same, as days or as errors. -/
theorem evaluate_congr {text text' : String} {a b : Int} {unit unit' : OffsetUnit} {today : Date}
    (ha : Writes text a unit) (hb : Writes text' b unit')
    (same : unit.size * a = unit'.size * b) (shifts : today.shift? unit a = today.shift? unit' b)
    (fits : Word.fitsSigned (unit.size * a) = true) :
    evaluate text today = evaluate text' today := by
  rw [ha.evaluate_eq, hb.evaluate_eq, if_pos fits, if_pos (same ▸ fits), shifts]

end Fabricate.Calendar
