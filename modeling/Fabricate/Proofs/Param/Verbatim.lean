import Fabricate.Json.Printer
import Fabricate.Proofs.Param.Coercion
import Fabricate.Proofs.Param.Declared
import Fabricate.Proofs.Text.Digit

/-!
# Texts that are received as they are written

A parameter that is declared as a text takes whatever was read. A truth value or a number is written
out again for it, and so the text that is received is the one that was written only where writing
undoes reading (`Verbatim`). Truth values have one spelling that comes back and integers have one
each. An integer that is too large for a word is read as a real, whose text is never that of an
integer (`not_denotesInt_text`), so it never comes back unless it is too large for a real as well. A
decimal comes back if it is the text of the real that it denotes.

A number starts with no letter, so it spells no truth value (`not_spells_of_literal`), and a text is
asked only for the one way in which it can be read.
-/

namespace Fabricate

namespace Decimal

/-! ### The text of a real -/

/-- With a character that is neither a digit nor a sign, a text is no integer. -/
theorem not_denotesInt_of_mem {cs : List Char} {c : Char} (member : c ∈ cs)
    (digit : c.isDigit = false) (minus : c ≠ '-') (plus : c ≠ '+') (n : Int) :
    ¬ DenotesInt cs n :=
  fun h => Text.ne_of_start (h.chars c member) digit minus plus rfl

theorem point_mem_positionalText (digits : List Char) (point : Int) :
    '.' ∈ positionalText true digits point := by
  unfold positionalText
  dsimp only
  split
  · simp
  · split <;> simp

theorem mark_mem_exponentText (digits : List Char) (e : Int) : 'e' ∈ exponentText digits e := by
  unfold exponentText
  dsimp only
  split <;> split <;> simp

/-- A real is written with a point, with an exponent or by a name. -/
theorem mark_mem_text (x : Float) :
    '.' ∈ Json.realLayout.text x ∨ 'e' ∈ Json.realLayout.text x ∨ 'n' ∈ Json.realLayout.text x := by
  unfold Layout.text
  dsimp only
  split
  · exact .inr (.inr (List.mem_cons_self ..))
  · refine Or.imp (List.mem_append_right _)
      (Or.imp (List.mem_append_right _) (List.mem_append_right _)) ?_
    split
    · exact .inr (.inr (List.mem_cons_self ..))
    · split
      · exact .inl (List.mem_cons_of_mem _ (List.mem_cons_self ..))
      · unfold Layout.ofScaled
        dsimp only
        split
        · exact .inl (point_mem_positionalText _ _)
        · exact .inr (.inl (mark_mem_exponentText _ _))

/-- The text of a real is never that of an integer. -/
theorem not_denotesInt_text (x : Float) (n : Int) : ¬ DenotesInt (Json.realLayout.text x) n := by
  rcases mark_mem_text x with point | exponent | name
  · exact not_denotesInt_of_mem point rfl (by decide) (by decide) n
  · exact not_denotesInt_of_mem exponent rfl (by decide) (by decide) n
  · exact not_denotesInt_of_mem name rfl (by decide) (by decide) n

end Decimal

namespace Param

open Json Decimal

/-- The text comes back from the value that it is read as: a truth value is spelled in small
letters, an integer that fits a word plainly, no finite real is denoted by an integer that does not
fit, and any other literal of a finite real is the text of this real. -/
structure Verbatim (t : List Char) : Prop where
  truth : ∀ b, Spells t b → t = (if b then "true" else "false").toList
  integer : ∀ n, DenotesWord t n → IsPlain t
  large : ∀ n, DenotesInt t n → Word.fitsSigned n = false → ∀ x, ¬ DenotesFinite t x
  real : ∀ x, DenotesFinite t x → (∀ n, ¬ DenotesInt t n) → realLayout.text x = t

/-! ### One way of reading -/

theorem Spells.unique {t : List Char} {a b : Bool} (h : Spells t a) (h' : Spells t b) : a = b :=
  Option.some.inj ((truth?_eq_some_iff.2 h).symm.trans (truth?_eq_some_iff.2 h'))

/-- No literal spells a truth value, since no letter starts it. -/
theorem not_spells_of_literal {t : List Char} {x : Float} (h : DenotesReal t x) (b : Bool) :
    ¬ Spells t b := by
  cases t with
  | nil => cases b <;> exact fun spells => nomatch spells
  | cons c r =>
      refine not_spells_of_isAlpha ?_ r b
      rcases h.chars c List.mem_cons_self with digit | rfl | rfl | rfl
      · exact Text.isAlpha_of_isDigit digit
      · rfl
      · rfl
      · rfl

theorem not_spells_of_integer {t : List Char} {n : Int} (h : DenotesInt t n) (b : Bool) :
    ¬ Spells t b := by
  obtain ⟨x, real⟩ := h.exists_real
  exact not_spells_of_literal real b

theorem denotesWord_of_fits {t : List Char} {n : Int} (h : DenotesInt t n)
    (fits : Word.fitsSigned n = true) : DenotesWord t (Int64.ofInt n) := by
  rw [DenotesWord, Word.toInt_ofInt_of_fits fits]
  exact h

/-! ### What is received -/

/-- What is read from a text without quotes is written as this text exactly when the text comes
back. -/
theorem scalarText?_eq_iff {t : List Char} {v : Value} (unquoted : ∀ inner, ¬ Quotes t inner)
    (reads : ReadAs t v) :
    Params.scalarText? v = some (String.ofList t) ↔ Verbatim t := by
  cases reads with
  | quoted quotes => exact absurd quotes (unquoted _)
  | @truth b _ spells =>
      have written : Params.scalarText? (.bool b) = some (String.ofList t) ↔
          t = (if b then "true" else "false").toList := by
        rw [Params.scalarText?, Option.some.injEq, ← String.toList_inj, String.toList_ofList,
          eq_comm]
      rw [written]
      refine ⟨fun same => ⟨?_, ?_, ?_, ?_⟩, fun h => h.truth b spells⟩
      · intro a other
        rw [other.unique spells]
        exact same
      · exact fun n denotes => absurd spells (not_spells_of_integer denotes b)
      · exact fun n denotes => absurd spells (not_spells_of_integer denotes b)
      · exact fun x denotes => absurd spells (not_spells_of_literal denotes.1 b)
  | @integer n _ noTruth denotes =>
      have written : Params.scalarText? (.ofInt64 n) = some (String.ofList t) ↔ IsPlain t := by
        rw [← ofInt_eq_iff denotes, Value.ofInt64, Params.scalarText?, Option.some.injEq,
          String.ofList_inj]
        rfl
      rw [written]
      refine ⟨fun plain => ⟨?_, fun _ _ => plain, ?_, ?_⟩, fun h => h.integer n denotes⟩
      · exact fun b spells => absurd spells (noTruth b)
      · intro m other far
        rw [other.unique denotes, Word.fitsSigned_toInt] at far
        cases far
      · exact fun x _ none => absurd denotes (none _)
  | @real x _ noTruth noInteger denotes =>
      have written : Params.scalarText? (.number (.real x)) = some (String.ofList t) ↔
          realLayout.text x = t := by
        rw [Params.scalarText?, Option.some.injEq, String.ofList_inj, Number.text,
          if_pos denotes.2]
      rw [written]
      refine ⟨fun same => ⟨?_, ?_, ?_, ?_⟩, fun h => ?_⟩
      · exact fun b spells => absurd spells (noTruth b)
      · exact fun n word => absurd word (noInteger n)
      · intro n integer
        rw [← same] at integer
        exact absurd integer (not_denotesInt_text x n)
      · intro y other _
        rw [other.1.unique denotes.1]
        exact same
      · refine h.real x denotes fun n integer => ?_
        -- An integer that was not read as one does not fit.
        have far : Word.fitsSigned n = false := by
          rw [Bool.eq_false_iff]
          exact fun fits => noInteger _ (denotesWord_of_fits integer fits)
        exact h.large n integer far x denotes
  | text _ noTruth noInteger noReal =>
      refine iff_of_true rfl ⟨?_, ?_, ?_, ?_⟩
      · exact fun b spells => absurd spells (noTruth b)
      · exact fun n word => absurd word (noInteger n)
      · exact fun n _ _ => noReal
      · exact fun x finite => absurd finite (noReal x)

/-- Whatever is read is admitted as a text. -/
theorem admits_string {t : List Char} {v : Value} (reads : ReadAs t v) :
    ParamKind.string.admits v = true ∧ ∃ s, Params.scalarText? v = some s := by
  cases reads <;> exact ⟨rfl, _, rfl⟩

/-- A parameter that is declared with its kind is not refused, whatever else is required. -/
theorem refusal?_singleton {specs : List ParamSpec} {spec : ParamSpec} {key : String} {v : Value}
    (declared : specs.find? (·.key = key) = some spec) (kind : spec.kind.admits v = true)
    (generator : String) :
    Params.refusal? [(key, v)] specs generator = none ↔
      ∀ other ∈ specs, other.required = true → other.key = key := by
  have accepted : Params.firstOffence? generator specs [(key, v)] = none := by
    rw [Params.firstOffence?, declared]
    dsimp only
    rw [if_pos kind]
    rfl
  rw [Params.refusal?, accepted, Option.none_or, Params.firstMissing?_eq_none_iff]
  exact forall₂_congr fun other _ => imp_congr_right fun _ => List.mem_singleton

/-- A parameter without quotes that is declared as a text is accepted unless another one is required,
and a text is received for it. It is the text that was written exactly when this comes back from the
value that it was read as. -/
theorem text_is_verbatim_iff {raw key : String} {v : Value} {before after : List Char}
    (cut : raw.toList = before ++ '=' :: after) (first : '=' ∉ before)
    (unquoted : ∀ inner, ¬ Quotes (Text.trim after) inner) (read : coerce raw = .ok (key, v))
    {specs : List ParamSpec} {spec : ParamSpec} (declared : specs.find? (·.key = key) = some spec)
    (kind : spec.kind = .string) (generator : String) :
    (Params.refusal? [(key, v)] specs generator = none ↔
        ∀ other ∈ specs, other.required = true → other.key = key) ∧
      ∀ params : Params, params.get? key = some v →
        (∃ s, params.text? key = some s) ∧
          (params.text? key = some (String.ofList (Text.trim after)) ↔
            Verbatim (Text.trim after)) := by
  have reads : ReadAs (Text.trim after) v := by
    rw [coerce, Text.splitFirst?_eq_some_iff.2 ⟨cut, first⟩] at read
    dsimp only at read
    split at read
    · cases read
    · cases read
      exact readAs_coerceValue _
  obtain ⟨admitted, text⟩ := admits_string reads
  refine ⟨refusal?_singleton declared (kind ▸ admitted) generator, fun params given => ?_⟩
  rw [Params.text?, given, Option.bind_some]
  exact ⟨text, scalarText?_eq_iff unquoted reads⟩

/-- The least word is received as it is written. -/
theorem text_is_verbatim_iff_least :
    let raw := " k = -9223372036854775808 "
    let v : Value := .ofInt64 (.ofInt (-9223372036854775808))
    let written := "-9223372036854775808".toList
    raw.toList = " k ".toList ++ '=' :: " -9223372036854775808 ".toList ∧ '=' ∉ " k ".toList ∧
      (∀ inner, ¬ Quotes (Text.trim " -9223372036854775808 ".toList) inner) ∧
      coerce raw = .ok ("k", v) ∧ Params.refusal? [("k", v)] [⟨"k", .string, true⟩] "g" = none ∧
      Params.text? [("k", v)] "k" = some (String.ofList written) ∧ Verbatim written := by
  intro raw v written
  have trimmed : Text.trim " -9223372036854775808 ".toList = written := by decide
  have unquoted : ∀ inner, ¬ Quotes (Text.trim " -9223372036854775808 ".toList) inner := by
    rw [trimmed]
    rintro inner (double | single)
    · exact absurd (List.cons.inj double).1 (by decide)
    · exact absurd (List.cons.inj single).1 (by decide)
  have cut : raw.toList = " k ".toList ++ '=' :: " -9223372036854775808 ".toList := by decide
  have first : '=' ∉ " k ".toList := by decide
  have read : coerce raw = .ok ("k", v) := by
    rw [coerce, Text.splitFirst?_eq_some_iff.2 ⟨cut, first⟩]
    dsimp only
    rw [trimmed]
    rfl
  have declared : [(⟨"k", .string, true⟩ : ParamSpec)].find? (·.key = "k") =
      some ⟨"k", .string, true⟩ := rfl
  obtain ⟨accepted, received⟩ := text_is_verbatim_iff cut first unquoted read declared rfl "g"
  have text : Params.text? [("k", v)] "k" = some (String.ofList written) := rfl
  rw [trimmed] at received
  exact ⟨cut, first, unquoted, read, accepted.2 (by decide), text,
    (received [("k", v)] rfl).2.1 text⟩

/-- Zeros in front of an integer are not received. -/
theorem text_loses_zeros :
    coerce "k=007" = .ok ("k", .ofInt64 7) ∧
      Params.refusal? [("k", .ofInt64 7)] [⟨"k", .string, true⟩] "g" = none ∧
      Params.text? [("k", .ofInt64 7)] "k" = some "7" :=
  ⟨rfl, rfl, rfl⟩

end Param

end Fabricate
