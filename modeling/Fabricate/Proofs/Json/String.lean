import Fabricate.Json.Printer
import Fabricate.Json.Token

/-!
# Strings read back

A string is written character by character: some characters after a backslash, control characters
by their code, and all others as they are. Each written character is read as itself, whatever
follows it (`stringBody_escapedChar`), so a string between quotes is read up to its closing quote.
-/

namespace Fabricate.Json

theorem hexValue?_hexDigit : ∀ n < 16, hexValue? (hexDigit n) = some n := by
  decide

/-- The code of a character below 256 is read as the character. -/
theorem unicodeEscape_code {c : Char} (small : c.toNat < 256) (r : List Char) :
    unicodeEscape ('0' :: '0' :: hexDigit (c.toNat / 16) :: hexDigit (c.toNat % 16) :: r) =
      .ok (c, 4) := by
  have code : fourHex ('0' :: '0' :: hexDigit (c.toNat / 16) :: hexDigit (c.toNat % 16) :: r) =
      .ok c.toNat := by
    have zero : hexValue? '0' = some 0 := rfl
    rw [fourHex, zero, hexValue?_hexDigit _ (by omega), hexValue?_hexDigit _ (by omega)]
    dsimp only
    congr 1
    omega
  have below : (c.toNat < 0xD800 || 0xDFFF < c.toNat) = true := by simp; omega
  rw [unicodeEscape, code]
  simp only [bind, Except.bind]
  rw [below, if_pos rfl, Char.ofNat_toNat]
  rfl

/-- A character is written as itself, or as a backslash and an escape that stands for it. -/
theorem escapedChar_cases (c : Char) :
    (escapedChar c = [c] ∧ c ≠ '"' ∧ c ≠ '\\' ∧ ¬c.toNat < 0x20) ∨
      ∃ e, escapedChar c = '\\' :: e ∧ ∀ r, escape (e ++ r) = .ok (c, e.length) := by
  have ofCode : ∀ {n : Nat}, c.toNat = n → c = Char.ofNat n := by
    rintro n rfl
    exact (Char.ofNat_toNat c).symm
  unfold escapedChar
  by_cases quote : c = '"'
  · exact .inr ⟨['"'], if_pos quote, fun r => by rw [quote]; rfl⟩
  by_cases backslash : c = '\\'
  · exact .inr ⟨['\\'], (if_neg quote).trans (if_pos backslash), fun r => by rw [backslash]; rfl⟩
  rw [if_neg quote, if_neg backslash]
  by_cases control : c.toNat < 0x20
  · right
    rw [if_pos control]
    -- Five control characters have letters of their own.
    split
    · next code => exact ⟨['b'], rfl, fun r => by rw [ofCode code]; rfl⟩
    split
    · next code => exact ⟨['t'], rfl, fun r => by rw [ofCode code]; rfl⟩
    split
    · next code => exact ⟨['n'], rfl, fun r => by rw [ofCode code]; rfl⟩
    split
    · next code => exact ⟨['f'], rfl, fun r => by rw [ofCode code]; rfl⟩
    split
    · next code => exact ⟨['r'], rfl, fun r => by rw [ofCode code]; rfl⟩
    · refine ⟨_, rfl, fun r => ?_⟩
      have read := unicodeEscape_code (c := c) (by omega) r
      simp only [List.cons_append, List.nil_append, escape]
      rw [read]
      rfl
  · rw [if_neg control]
    exact .inl ⟨rfl, quote, backslash, control⟩

/-- A written character is read as the character, whatever follows. -/
theorem stringBody_escapedChar (c : Char) (r : List Char) :
    stringBody (escapedChar c ++ r) =
      (stringBody r).map fun (s, m) => (c :: s, m + (escapedChar c).length) := by
  rcases escapedChar_cases c with ⟨written, quote, backslash, control⟩ | ⟨e, written, reads⟩
  · rw [written, List.singleton_append, stringBody, if_neg quote, if_neg backslash,
      if_neg control]
    rfl
  · rw [written, List.cons_append, stringBody, if_neg (by decide), if_pos rfl, reads]
    dsimp only
    rw [List.drop_left]
    rfl

/-- A written string is read up to its closing quote. -/
theorem stringBody_quoted (cs rest : List Char) :
    stringBody (cs.flatMap escapedChar ++ '"' :: rest) =
      .ok (cs, (cs.flatMap escapedChar).length + 1) := by
  induction cs with
  | nil =>
      rw [List.flatMap_nil, List.nil_append, stringBody, if_pos rfl]
      rfl
  | cons c cs ih =>
      have length : (List.flatMap escapedChar (c :: cs)).length + 1 =
          (List.flatMap escapedChar cs).length + 1 + (escapedChar c).length := by
        rw [List.flatMap_cons, List.length_append]
        omega
      rw [length, List.flatMap_cons, List.append_assoc, stringBody_escapedChar, ih]
      rfl

end Fabricate.Json
