import Fabricate.Text.Blank

/-!
# Digits and letters

The ASCII digits and letters are no blanks, and digits are no letters. The signs, with which numbers
and dates may start, are like digits in this (`isAlpha_of_start`). Small letters stand only where
there were letters before, so no word is found where a number or a date is (`asciiLower_cons_ne`).
-/

namespace Fabricate.Text

theorem isBlank_of_isDigit {c : Char} (h : c.isDigit = true) : isBlank c = false := by
  rw [Char.isDigit, Bool.and_eq_true, decide_eq_true_eq, decide_eq_true_eq] at h
  have low : 48 ≤ c.toNat := h.1
  have high : c.toNat ≤ 57 := h.2
  simp only [isBlank, Bool.or_eq_false_iff, Bool.and_eq_false_iff, decide_eq_false_iff_not,
    beq_eq_false_iff_ne]
  omega

theorem isBlank_of_isAlpha {c : Char} (h : c.isAlpha = true) : isBlank c = false := by
  have inside : 65 ≤ c.toNat ∧ c.toNat ≤ 122 := by
    rcases Bool.or_eq_true_iff.1 h with upper | lower
    · have bounds := of_decide_eq_true upper
      exact ⟨bounds.1, Nat.le_trans bounds.2 (by decide)⟩
    · obtain ⟨low, high⟩ := Bool.and_eq_true_iff.1 lower
      exact ⟨Nat.le_trans (by decide) (of_decide_eq_true low), of_decide_eq_true high⟩
  simp only [isBlank, Bool.or_eq_false_iff, Bool.and_eq_false_iff, decide_eq_false_iff_not,
    beq_eq_false_iff_ne]
  omega

theorem isAlpha_of_isDigit {c : Char} (h : c.isDigit = true) : c.isAlpha = false := by
  rw [Char.isDigit, Bool.and_eq_true, decide_eq_true_eq, decide_eq_true_eq] at h
  have upper : c.isUpper = false :=
    decide_eq_false fun both => absurd (UInt32.le_trans both.1 h.2) (by decide)
  have beforeLower : ¬ 'a'.val ≤ c.val := fun low => absurd (UInt32.le_trans low h.2) (by decide)
  have lower : c.isLower = false := Bool.and_eq_false_iff.2 (.inl (decide_eq_false beforeLower))
  exact Bool.or_eq_false_iff.2 ⟨upper, lower⟩

section

variable {c : Char} (h : c.isDigit = true ∨ c = '-' ∨ c = '+')

include h

theorem isBlank_of_start : isBlank c = false := by
  rcases h with digit | rfl | rfl
  · exact isBlank_of_isDigit digit
  · rfl
  · rfl

theorem isAlpha_of_start : c.isAlpha = false := by
  rcases h with digit | rfl | rfl
  · exact isAlpha_of_isDigit digit
  · rfl
  · rfl

theorem ne_of_start {x : Char} (digit : x.isDigit = false) (minus : x ≠ '-') (plus : x ≠ '+') :
    c ≠ x := by
  rintro rfl
  rcases h with inside | sign | sign
  · rw [digit] at inside
    cases inside
  · exact minus sign
  · exact plus sign

end

/-- What becomes a letter is one. -/
theorem isAlpha_of_toLower {c : Char} (h : c.toLower.isAlpha = true) : c.isAlpha = true := by
  by_cases upper : c.isUpper = true
  · exact Bool.or_eq_true_iff.2 (.inl upper)
  · have kept : c.toLower = c := dif_neg fun inside => upper (decide_eq_true ⟨inside.1, inside.2⟩)
    rwa [kept] at h

/-- What starts with no letter does not start with one in small letters either. -/
theorem asciiLower_cons_ne {c d : Char} (other : c.isAlpha = false) (letter : d.isAlpha = true)
    (r r' : List Char) : asciiLower (c :: r) ≠ d :: r' := by
  intro same
  rw [← (List.cons.inj same).1] at letter
  rw [isAlpha_of_toLower letter] at other
  cases other

end Fabricate.Text
