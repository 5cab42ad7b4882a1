import Fabricate.Proofs.Json.Number
import Fabricate.Proofs.Json.String
import Fabricate.Proofs.Text.Cut
import Fabricate.Proofs.Text.Digit

/-!
# The tokens of a value's text

The text of a value is cut into the marks, strings and scalars that it was written with
(`tokens_compact`). Strings and marks are read whatever follows them; a number or a constant needs
to be followed by something that cannot belong to it, which the marks between values are.

This holds of values without reals only: the text of a real is not read back digit by digit.
-/

namespace Fabricate.Json

mutual

/-- No number of the value is a real. -/
def Value.RealFree : Value → Prop
  | .number (.real _) => False
  | .array items => Value.RealFreeItems items
  | .object fields => Value.RealFreeFields fields
  | _ => True

/-- No number of the items is a real. -/
def Value.RealFreeItems : List Value → Prop
  | [] => True
  | v :: rest => v.RealFree ∧ Value.RealFreeItems rest

/-- No number of the field values is a real. -/
def Value.RealFreeFields : List (String × Value) → Prop
  | [] => True
  | (_, v) :: rest => v.RealFree ∧ Value.RealFreeFields rest

end

mutual

/-- The tokens that a value is written with. -/
def Value.tokens : Value → List Token
  | .null => [.scalar .null]
  | .bool b => [.scalar (.bool b)]
  | .number n => [.scalar (.number n)]
  | .string s => [.string s]
  | .array items => .openArray :: (Value.itemTokens items ++ [.closeArray])
  | .object fields => .openObject :: (Value.fieldTokens fields ++ [.closeObject])

/-- The tokens of the items with commas between them. -/
def Value.itemTokens : List Value → List Token
  | [] => []
  | [v] => v.tokens
  | v :: rest => v.tokens ++ .comma :: Value.itemTokens rest

/-- The tokens of the fields with commas between them. -/
def Value.fieldTokens : List (String × Value) → List Token
  | [] => []
  | [(name, v)] => .string name :: .colon :: v.tokens
  | (name, v) :: rest =>
      .string name :: .colon :: (v.tokens ++ .comma :: Value.fieldTokens rest)

end

/-- No scalar goes on at the start of the characters. -/
def Ends (rest : List Char) : Prop :=
  ∀ c, rest.head? = some c → isNumberChar c = false ∧ c.isAlpha = false

/-! ### Single tokens -/

theorem tokens_mark {c : Char} {t : Token} (solid : isSpace c = false) (mark : mark? c = some t)
    (rest : List Char) : tokens (c :: rest) = t :: tokens rest := by
  rw [tokens, if_neg (by simp [solid]), mark]

theorem tokens_comma (rest : List Char) : tokens (',' :: rest) = .comma :: tokens rest :=
  tokens_mark rfl rfl rest

theorem tokens_colon (rest : List Char) : tokens (':' :: rest) = .colon :: tokens rest :=
  tokens_mark rfl rfl rest

theorem tokens_quotedText (s : String) (rest : List Char) :
    tokens (quotedText s ++ rest) = .string s :: tokens rest := by
  have text : quotedText s ++ rest = '"' :: (s.toList.flatMap escapedChar ++ '"' :: rest) := by
    simp [quotedText]
  have behind : (s.toList.flatMap escapedChar ++ '"' :: rest).drop
      ((s.toList.flatMap escapedChar).length + 1) = rest := by
    rw [List.drop_append]
    simp
  have solid : isSpace '"' = false := rfl
  have mark : mark? '"' = none := rfl
  rw [text, tokens, if_neg (by simp [solid]), mark]
  dsimp only
  rw [if_pos rfl, stringBody_quoted]
  dsimp only
  rw [behind, String.ofList_toList]

/-- What starts a token other than a number or a constant. -/
def markers : List Char :=
  [' ', '\t', '\n', '\r', '[', ']', '\x7b', '\x7d', ',', ':', '"']

theorem scalar_of_notMem_markers {c : Char} (h : c ∉ markers) :
    isSpace c = false ∧ mark? c = none ∧ c ≠ '"' := by
  simp only [markers, List.mem_cons, List.not_mem_nil, or_false, not_or] at h
  obtain ⟨space, tab, line, back, openArray, closeArray, openObject, closeObject, comma, colon,
    quote⟩ := h
  refine ⟨by simp [isSpace, space, tab, line, back], ?_, quote⟩
  rw [mark?, if_neg openArray, if_neg closeArray, if_neg openObject, if_neg closeObject,
    if_neg comma, if_neg colon]

/-- What starts a number or a constant starts no other token. -/
theorem notMem_markers {c : Char} (h : (c.isAlpha || c.isDigit || c = '-') = true) :
    c ∉ markers := by
  intro member
  have others : markers.any (fun d => d.isAlpha || d.isDigit || d = '-') = false := by decide
  exact List.any_eq_false.1 others c member h

/-- A constant is read up to the first character that is no letter. -/
theorem tokens_constant {c : Char} {cs rest : List Char} {v : Value} (ends : Ends rest)
    (letters : (c :: cs).all Char.isAlpha = true)
    (read : ∀ atEnd, constant (c :: cs) atEnd = .ok v) :
    tokens (c :: cs ++ rest) = .scalar v :: tokens rest := by
  rw [List.all_cons, Bool.and_eq_true] at letters
  obtain ⟨letter, others⟩ := letters
  have inside : ∀ d ∈ cs, d.isAlpha = true := List.all_eq_true.1 others
  have outside : ∀ d, rest.head? = some d → d.isAlpha = false := fun d first => (ends d first).2
  obtain ⟨solid, mark, quote⟩ :=
    scalar_of_notMem_markers (notMem_markers (by rw [letter, Bool.true_or, Bool.true_or]))
  rw [List.cons_append, tokens, if_neg (by simp [solid]), mark]
  dsimp only
  rw [if_neg quote, if_pos letter, Text.takeWhile_append inside outside,
    Text.dropWhile_append inside outside, read]

theorem isNumberChar_of_mem_ofInt {n : Int} {c : Char} (h : c ∈ Decimal.ofInt n) :
    isNumberChar c = true := by
  rcases Decimal.mem_ofInt h with digit | rfl
  · simp [isNumberChar, digit]
  · rfl

/-- An integer is read up to the first character that no number holds. -/
theorem tokens_ofInt {rest : List Char} (ends : Ends rest) (n : Integer) :
    tokens (Decimal.ofInt n.val ++ rest) = .scalar (.number (.integer n)) :: tokens rest := by
  obtain ⟨c, r, written, start⟩ := Decimal.exists_ofInt_eq_cons n.val
  have inside : ∀ d ∈ r, isNumberChar d = true := by
    intro d member
    refine isNumberChar_of_mem_ofInt (n := n.val) ?_
    rw [written]
    exact List.mem_cons_of_mem c member
  have outside : ∀ d, rest.head? = some d → isNumberChar d = false :=
    fun d first => (ends d first).1
  have letter : c.isAlpha = false := by
    rcases start with digit | rfl
    · exact Text.isAlpha_of_isDigit digit
    · rfl
  have sign : (c = '-' || c.isDigit) = true := by
    rcases start with digit | dash
    · simp [digit]
    · simp [dash]
  have starts : c ∉ markers := by
    refine notMem_markers ?_
    rw [letter, Bool.false_or, Bool.or_comm, sign]
  obtain ⟨solid, mark, quote⟩ := scalar_of_notMem_markers starts
  have read := numeral_ofInt n
  rw [written] at read
  rw [written, List.cons_append, tokens, if_neg (by simp [solid]), mark]
  dsimp only
  rw [if_neg quote, if_neg (by simp [letter]), if_pos sign, Text.takeWhile_append inside outside,
    Text.dropWhile_append inside outside, read]

/-! ### Values -/

theorem ends_mark {c : Char} {r : List Char} (h : isNumberChar c = false ∧ c.isAlpha = false) :
    Ends (c :: r) := by
  rintro d ⟨⟩
  exact h

theorem ends_nil : Ends [] := by
  rintro d ⟨⟩

mutual

/-- The text of a value is cut into the tokens of the value. -/
theorem tokens_compact :
    ∀ v : Value, v.RealFree → ∀ rest, Ends rest →
      tokens (v.compact ++ rest) = v.tokens ++ tokens rest
  | .null, _, rest, ends => tokens_constant ends (by decide) fun _ => rfl
  | .bool true, _, rest, ends => tokens_constant ends (by decide) fun _ => rfl
  | .bool false, _, rest, ends => tokens_constant ends (by decide) fun _ => rfl
  | .number (.integer n), _, rest, ends => tokens_ofInt ends n
  | .string s, _, rest, _ => tokens_quotedText s rest
  | .array items, free, rest, _ => by
      have closing : Ends (']' :: rest) := ends_mark (by decide)
      have mark : tokens (']' :: rest) = .closeArray :: tokens rest := tokens_mark rfl rfl rest
      rw [Value.compact, List.cons_append, List.append_assoc, List.singleton_append,
        tokens_mark (t := .openArray) rfl rfl, tokens_compactItems items free _ closing, mark]
      simp [Value.tokens]
  | .object fields, free, rest, _ => by
      have closing : Ends ('\x7d' :: rest) := ends_mark (by decide)
      have mark : tokens ('\x7d' :: rest) = .closeObject :: tokens rest := tokens_mark rfl rfl rest
      rw [Value.compact, List.cons_append, List.append_assoc, List.singleton_append,
        tokens_mark (t := .openObject) rfl rfl, tokens_compactFields fields free _ closing, mark]
      simp [Value.tokens]

theorem tokens_compactItems :
    ∀ vs : List Value, Value.RealFreeItems vs → ∀ rest, Ends rest →
      tokens (Value.compactItems vs ++ rest) = Value.itemTokens vs ++ tokens rest
  | [], _, rest, _ => rfl
  | [v], free, rest, ends => tokens_compact v free.1 rest ends
  | v :: w :: vs, free, rest, ends => by
      have comma : Ends (',' :: (Value.compactItems (w :: vs) ++ rest)) := ends_mark (by decide)
      have later := tokens_compactItems (w :: vs) free.2 rest ends
      have text : Value.compactItems (v :: w :: vs) =
          v.compact ++ ',' :: Value.compactItems (w :: vs) := rfl
      rw [text, List.append_assoc, List.cons_append, tokens_compact v free.1 _ comma,
        tokens_comma, later]
      simp [Value.itemTokens]

theorem tokens_compactFields :
    ∀ fields : List (String × Value), Value.RealFreeFields fields → ∀ rest, Ends rest →
      tokens (Value.compactFields fields ++ rest) = Value.fieldTokens fields ++ tokens rest
  | [], _, rest, _ => rfl
  | [(name, v)], free, rest, ends => by
      rw [Value.compactFields, List.append_assoc, tokens_quotedText, List.cons_append, tokens_colon,
        tokens_compact v free.1 rest ends]
      rfl
  | (name, v) :: field :: fields, free, rest, ends => by
      have comma : Ends (',' :: (Value.compactFields (field :: fields) ++ rest)) :=
        ends_mark (by decide)
      have later := tokens_compactFields (field :: fields) free.2 rest ends
      have text : Value.compactFields ((name, v) :: field :: fields) =
          quotedText name ++ ':' :: (v.compact ++ ',' :: Value.compactFields (field :: fields)) :=
        rfl
      rw [text, List.append_assoc, tokens_quotedText, List.cons_append, tokens_colon,
        List.append_assoc, List.cons_append, tokens_compact v free.1 _ comma, tokens_comma, later]
      simp [Value.fieldTokens]

end

end Fabricate.Json
