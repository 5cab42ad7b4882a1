import Fabricate.Param.Coerce
import Fabricate.Proofs.Decimal.Literal
import Fabricate.Proofs.Text.Digit

/-!
# How a raw parameter is read

A raw parameter is refused for one of two reasons or is a key and a value (`Coerced`). The text of
the value is asked in turn whether it is quoted, spells a truth value, denotes an integer that fits a
word, and denotes a finite real; the first question that is answered with yes decides its type, and
a text that answers none of them stands for itself (`ReadAs`).

Each question is put here to the text alone, without the functions that answer it, and each of these
functions is shown to answer its question. Reading is then determined: every text is read as exactly
one value.
-/

namespace Fabricate

namespace Text

/-- A text has one trimmed form. -/
theorem IsTrim.eq_trim {t cs : List Char} (h : IsTrim t cs) : trim cs = t := by
  obtain ⟨⟨a, b, rfl, blankLeft, blankRight⟩, head, last⟩ := h
  cases t with
  | nil =>
      rw [trim_eq_nil_iff]
      intro c member
      rw [List.append_nil] at member
      exact (List.mem_append.1 member).elim (blankLeft c) (blankRight c)
  | cons d r =>
      have start : trimStart (a ++ (d :: r) ++ b) = d :: r ++ b := by
        rw [List.append_assoc]
        refine dropWhile_append blankLeft fun c first => head c ?_
        rw [← first]
        rfl
      have back : (d :: r ++ b).reverse.dropWhile isBlank = (d :: r).reverse := by
        rw [List.reverse_append]
        refine dropWhile_append (fun c member => blankRight c (List.mem_reverse.1 member)) ?_
        intro c first
        rw [List.head?_reverse] at first
        exact last c first
      rw [trim, start, trimEnd, back, List.reverse_reverse]

theorem splitFirst?_eq_none_iff {sep : Char} {cs : List Char} :
    splitFirst? sep cs = none ↔ sep ∉ cs := by
  induction cs with
  | nil => simp [splitFirst?]
  | cons c r ih =>
      by_cases same : c = sep
      · simp [splitFirst?, same]
      · simp [splitFirst?, same, ih, Ne.symm same]

theorem splitFirst?_eq_some_iff {sep : Char} {cs a b : List Char} :
    splitFirst? sep cs = some (a, b) ↔ cs = a ++ sep :: b ∧ sep ∉ a := by
  constructor
  · intro h
    induction cs generalizing a with
    | nil => cases h
    | cons c r ih =>
        rw [splitFirst?] at h
        split at h
        · next same =>
            cases h
            exact ⟨congrArg (· :: b) same, List.not_mem_nil⟩
        · next other =>
            obtain ⟨⟨front, back⟩, cut, same⟩ := Option.map_eq_some_iff.1 h
            cases same
            obtain ⟨parts, free⟩ := ih cut
            refine ⟨congrArg (c :: ·) parts, ?_⟩
            rw [List.mem_cons, not_or]
            exact ⟨Ne.symm other, free⟩
  · rintro ⟨rfl, free⟩
    exact splitFirst?_append free b

end Text

namespace Param

open Json Decimal

/-- The text is this one between two quotes of one kind. -/
def Quotes (t inner : List Char) : Prop :=
  t = '"' :: (inner ++ ['"']) ∨ t = '\'' :: (inner ++ ['\''])

/-- The text spells the truth value, in any case of its letters. -/
def Spells (t : List Char) (b : Bool) : Prop :=
  Text.asciiLower t = (if b then "true" else "false").toList

/-- The text denotes an integer that fits a signed word. -/
def DenotesWord (t : List Char) (n : Int64) : Prop :=
  DenotesInt t n.toInt

/-- The text denotes a finite real. -/
def DenotesFinite (t : List Char) (x : Float) : Prop :=
  DenotesReal t x ∧ x.isFinite = true

/-- What a trimmed text is read as. -/
inductive ReadAs (t : List Char) : Value → Prop
  | quoted {inner : List Char} (quotes : Quotes t inner) : ReadAs t (.string (String.ofList inner))
  | truth {b : Bool} (unquoted : ∀ inner, ¬ Quotes t inner) (spells : Spells t b) :
      ReadAs t (.bool b)
  | integer {n : Int64} (unquoted : ∀ inner, ¬ Quotes t inner) (noTruth : ∀ b, ¬ Spells t b)
      (denotes : DenotesWord t n) : ReadAs t (.ofInt64 n)
  | real {x : Float} (unquoted : ∀ inner, ¬ Quotes t inner) (noTruth : ∀ b, ¬ Spells t b)
      (noInteger : ∀ n, ¬ DenotesWord t n) (denotes : DenotesFinite t x) :
      ReadAs t (.number (.real x))
  | text (unquoted : ∀ inner, ¬ Quotes t inner) (noTruth : ∀ b, ¬ Spells t b)
      (noInteger : ∀ n, ¬ DenotesWord t n) (noReal : ∀ x, ¬ DenotesFinite t x) :
      ReadAs t (.string (String.ofList t))

/-- What a raw parameter is read as: without an equals sign or with a blank key it is refused, and
otherwise it is the trimmed text before the first equals sign with what the trimmed text behind this
sign is read as. -/
inductive Coerced (raw : String) : Except ParamError (String × Value) → Prop
  | missingSeparator (free : '=' ∉ raw.toList) : Coerced raw (.error (.missingSeparator raw))
  | emptyKey {before after : List Char} (cut : raw.toList = before ++ '=' :: after)
      (first : '=' ∉ before) (blank : ∀ c ∈ before, Text.isBlank c = true) :
      Coerced raw (.error (.emptyKey raw))
  | pair {before after key t : List Char} {v : Value} (cut : raw.toList = before ++ '=' :: after)
      (first : '=' ∉ before) (trimmedKey : Text.IsTrim key before) (filled : key ≠ [])
      (trimmedValue : Text.IsTrim t after) (reads : ReadAs t v) :
      Coerced raw (.ok (String.ofList key, v))

/-! ### The questions -/

theorem unquotedBy?_eq_some_iff {quote : Char} {t inner : List Char} :
    unquotedBy? quote t = some inner ↔ t = quote :: (inner ++ [quote]) := by
  cases t with
  | nil => simp [unquotedBy?]
  | cons c r =>
      rw [unquotedBy?, List.cons.injEq]
      constructor
      · intro h
        split at h
        · next ends =>
            cases h
            refine ⟨ends.1, ?_⟩
            obtain ⟨front, rfl⟩ := List.getLast?_eq_some_iff.1 ends.2
            rw [List.dropLast_concat]
        · cases h
      · rintro ⟨rfl, rfl⟩
        rw [if_pos ⟨rfl, List.getLast?_concat⟩, List.dropLast_concat]

theorem unquoted?_eq_some_iff {t inner : List Char} :
    unquoted? t = some inner ↔ Quotes t inner := by
  rw [unquoted?, Option.or_eq_some_iff, unquotedBy?_eq_some_iff, unquotedBy?_eq_some_iff, Quotes]
  constructor
  · exact Or.imp_right And.right
  · rintro (double | single)
    · exact .inl double
    · refine .inr ⟨?_, single⟩
      rw [single, unquotedBy?, if_neg fun both => absurd both.1 (by decide)]

theorem truth?_eq_some_iff {t : List Char} {b : Bool} : truth? t = some b ↔ Spells t b := by
  rw [truth?, Spells]
  by_cases yes : Text.asciiLower t = "true".toList
  · rw [if_pos yes, yes]
    cases b <;> decide
  · rw [if_neg yes]
    cases b with
    | true =>
        simp only [if_true, yes, iff_false]
        split <;> simp
    | false => simp

theorem signedWord?_eq_some_iff {t : List Char} {n : Int64} :
    signedWord? t = some n ↔ DenotesWord t n := by
  rw [signedWord?, Option.bind_eq_some_iff, DenotesWord, ← int?_eq_some_iff]
  constructor
  · rintro ⟨m, read, word⟩
    rw [Word.toInt_of_signed? word, read]
  · intro read
    exact ⟨n.toInt, read, Word.signed?_toInt n⟩

theorem finite?_eq_some_iff {t : List Char} {x : Float} :
    finite? t = some x ↔ DenotesFinite t x := by
  rw [finite?, Option.filter_eq_some_iff, literal?_eq_some_iff, DenotesFinite]

/-- A question without an answer has none of the answers. -/
theorem forall_not_of_eq_none {α : Type} {o : Option α} {p : α → Prop}
    (answers : ∀ {a}, o = some a ↔ p a) (h : o = none) (a : α) : ¬ p a := by
  intro holds
  rw [answers.2 holds] at h
  cases h

theorem eq_none_of_forall_not {α : Type} {o : Option α} {p : α → Prop}
    (answers : ∀ {a}, o = some a ↔ p a) (h : ∀ a, ¬ p a) : o = none :=
  Option.eq_none_iff_forall_ne_some.2 fun a some => h a (answers.1 some)

section

variable {c : Char}

/-- A text that starts with a digit or a sign is not quoted. -/
theorem not_quotes_of_start (start : c.isDigit = true ∨ c = '-' ∨ c = '+') (r inner : List Char) :
    ¬ Quotes (c :: r) inner := by
  rintro (double | single)
  · exact Text.ne_of_start start rfl (by decide) (by decide) (List.cons.inj double).1
  · exact Text.ne_of_start start rfl (by decide) (by decide) (List.cons.inj single).1

/-- A text that starts with no letter spells no truth value. -/
theorem not_spells_of_isAlpha (other : c.isAlpha = false) (r : List Char) (b : Bool) :
    ¬ Spells (c :: r) b := by
  have yes : 't'.isAlpha = true := rfl
  have no : 'f'.isAlpha = true := rfl
  cases b with
  | true => exact Text.asciiLower_cons_ne other yes r "rue".toList
  | false => exact Text.asciiLower_cons_ne other no r "alse".toList

end

/-! ### Values and parameters -/

theorem readAs_coerceValue (t : List Char) : ReadAs t (coerceValue t) := by
  unfold coerceValue
  split
  · next inner quoted => exact .quoted (unquoted?_eq_some_iff.1 quoted)
  · next unquoted =>
    have plain := forall_not_of_eq_none unquoted?_eq_some_iff unquoted
    split
    · next b spelled => exact .truth plain (truth?_eq_some_iff.1 spelled)
    · next noTruth =>
      have unspelled := forall_not_of_eq_none truth?_eq_some_iff noTruth
      split
      · next n word => exact .integer plain unspelled (signedWord?_eq_some_iff.1 word)
      · next noWord =>
        have broken := forall_not_of_eq_none signedWord?_eq_some_iff noWord
        split
        · next x finite => exact .real plain unspelled broken (finite?_eq_some_iff.1 finite)
        · next noReal =>
          exact .text plain unspelled broken (forall_not_of_eq_none finite?_eq_some_iff noReal)

/-- A text is read as exactly one value. -/
theorem coerceValue_eq_iff {t : List Char} {v : Value} : coerceValue t = v ↔ ReadAs t v := by
  constructor
  · rintro rfl
    exact readAs_coerceValue t
  · intro h
    cases h with
    | quoted quotes => rw [coerceValue, unquoted?_eq_some_iff.2 quotes]
    | truth unquoted spells =>
        rw [coerceValue, eq_none_of_forall_not unquoted?_eq_some_iff unquoted,
          truth?_eq_some_iff.2 spells]
    | integer unquoted noTruth denotes =>
        rw [coerceValue, eq_none_of_forall_not unquoted?_eq_some_iff unquoted,
          eq_none_of_forall_not truth?_eq_some_iff noTruth, signedWord?_eq_some_iff.2 denotes]
    | real unquoted noTruth noInteger denotes =>
        rw [coerceValue, eq_none_of_forall_not unquoted?_eq_some_iff unquoted,
          eq_none_of_forall_not truth?_eq_some_iff noTruth,
          eq_none_of_forall_not signedWord?_eq_some_iff noInteger, finite?_eq_some_iff.2 denotes]
    | text unquoted noTruth noInteger noReal =>
        rw [coerceValue, eq_none_of_forall_not unquoted?_eq_some_iff unquoted,
          eq_none_of_forall_not truth?_eq_some_iff noTruth,
          eq_none_of_forall_not signedWord?_eq_some_iff noInteger,
          eq_none_of_forall_not finite?_eq_some_iff noReal]

theorem coerced_coerce (raw : String) : Coerced raw (coerce raw) := by
  unfold coerce
  split
  · next free => exact .missingSeparator (Text.splitFirst?_eq_none_iff.1 free)
  · next before after parts =>
    obtain ⟨cut, first⟩ := Text.splitFirst?_eq_some_iff.1 parts
    split
    · next empty =>
      rw [List.isEmpty_iff, Text.trim_eq_nil_iff] at empty
      exact .emptyKey cut first empty
    · next filled =>
      rw [List.isEmpty_iff] at filled
      exact .pair cut first (Text.isTrim_trim before) filled (Text.isTrim_trim after)
        (readAs_coerceValue _)

/-- A raw parameter is read in exactly one way. -/
theorem coerce_eq_iff (raw : String) (r : Except ParamError (String × Value)) :
    coerce raw = r ↔ Coerced raw r := by
  constructor
  · rintro rfl
    exact coerced_coerce raw
  · intro h
    cases h with
    | missingSeparator free => rw [coerce, Text.splitFirst?_eq_none_iff.2 free]
    | emptyKey cut first blank =>
        rw [coerce, Text.splitFirst?_eq_some_iff.2 ⟨cut, first⟩]
        dsimp only
        rw [(Text.trim_eq_nil_iff _).2 blank]
        rfl
    | pair cut first trimmedKey filled trimmedValue reads =>
        rw [coerce, Text.splitFirst?_eq_some_iff.2 ⟨cut, first⟩]
        dsimp only
        rw [trimmedKey.eq_trim, trimmedValue.eq_trim, coerceValue_eq_iff.2 reads,
          if_neg (by rwa [List.isEmpty_iff])]

end Param

end Fabricate
