import Fabricate.Json.Token
import Fabricate.Proofs.Decimal.Integer

/-!
# Integers read back

An integer is written with its decimal digits, and a minus sign when it is negative. All its digits
fit the significand, because it fits a word, so the number that is read is the same integer and
not the double nearest to it.
-/

namespace Fabricate.Json

open Fabricate.Decimal

/-! ### Parts -/

theorem takeWhile_isDigit_ofNat (n : Nat) : (ofNat n).takeWhile Char.isDigit = ofNat n := by
  have whole : (ofNat n ++ []).takeWhile Char.isDigit = ofNat n ++ [].takeWhile Char.isDigit :=
    List.takeWhile_append_of_pos fun _ => isDigit_of_mem_ofNat
  simpa using whole

theorem dropWhile_isDigit_ofNat (n : Nat) : (ofNat n).dropWhile Char.isDigit = [] := by
  have whole : (ofNat n ++ []).dropWhile Char.isDigit = [].dropWhile Char.isDigit :=
    List.dropWhile_append_of_pos fun _ => isDigit_of_mem_ofNat
  simpa using whole

theorem someDigits_ofNat (n : Nat) : someDigits (ofNat n) = .ok (ofNat n, []) := by
  obtain ⟨c, r, written, -⟩ := exists_ofNat_eq_cons n
  rw [someDigits, takeWhile_isDigit_ofNat, dropWhile_isDigit_ofNat, written]

/-- No zero stands needlessly in front. -/
theorem zero_alone_ofNat (n : Nat) :
    ((ofNat n).head? = some '0' && (ofNat n).length ≠ 1) = false := by
  by_cases zero : (ofNat n).head? = some '0'
  · rw [ofNat_of_head?_eq_zero zero]
    rfl
  · simp [zero]

/-- The parts of a number that is written with digits alone after its sign. -/
theorem numberParts_of_sign {form : List Char} {negative : Bool} {n : Nat}
    (sign : (if form.head? = some '-' then (true, form.tail) else (false, form)) =
      (negative, ofNat n)) :
    numberParts form = .ok ⟨negative, ofNat n, none, none⟩ := by
  unfold numberParts
  rw [sign]
  dsimp only
  rw [someDigits_ofNat]
  simp only [bind, Except.bind]
  rw [zero_alone_ofNat]
  rfl

/-! ### Values -/

theorem le_ofDigitChars (significand : Nat) (ds : List Char) :
    significand ≤ Nat.ofDigitChars 10 ds significand := by
  rw [Nat.ofDigitChars_eq_ofDigitChars_zero]
  have scaled : significand ≤ 10 ^ ds.length * significand :=
    Nat.le_mul_of_pos_left _ (Nat.pow_pos (by decide))
  omega

/-- Digits whose number fits a word are all appended. -/
theorem appendDigits_of_lt {significand : Nat} {ds : List Char}
    (h : Nat.ofDigitChars 10 ds significand < 18446744073709551616) :
    appendDigits significand ds = (Nat.ofDigitChars 10 ds significand, 0) := by
  induction ds generalizing significand with
  | nil => rfl
  | cons d ds ih =>
      have next : Nat.ofDigitChars 10 (d :: ds) significand =
          Nat.ofDigitChars 10 ds (significand * 10 + (d.toNat - 48)) := by
        rw [Nat.ofDigitChars_cons, Nat.mul_comm]
        rfl
      rw [next] at h ⊢
      have fits : Word.fitsUnsigned (significand * 10 + (d.toNat - 48)) = true :=
        decide_eq_true (Nat.lt_of_le_of_lt (le_ofDigitChars _ ds) h)
      rw [appendDigits, if_pos fits, ih h]

theorem appendDigits_ofNat {n : Nat} (h : n < 18446744073709551616) :
    appendDigits 0 (ofNat n) = (n, 0) := by
  have denotes : Nat.ofDigitChars 10 (ofNat n) 0 = n := natOf_ofNat n
  rw [appendDigits_of_lt (by rwa [denotes]), denotes]

theorem Integer.ofInt?_val (n : Integer) : Integer.ofInt? n.val = some n := by
  rw [ofInt?, dif_pos ⟨n.least_le, n.lt_bound⟩]

/-- A minus sign before a number other than zero gives an integer, and so does no sign. -/
theorem value?_of_sign {n : Integer} {negative : Bool} {m : Nat}
    (denotes : (if negative then -(m : Int) else m) = n.val) (nonzero : negative = true → m ≠ 0) :
    NumberParts.value? ⟨negative, ofNat m, none, none⟩ = some (.integer n) := by
  have small : m < 18446744073709551616 := by
    have := n.least_le
    have := n.lt_bound
    split at denotes <;> omega
  have plain : (negative && m == 0) = false := by
    cases negative with
    | false => rfl
    | true => simpa using nonzero rfl
  have none : appendDigits m [] = (m, 0) := rfl
  simp only [NumberParts.value?, Option.getD_none, appendDigits_ofNat small, none, denotes, plain,
    Integer.ofInt?_val]
  rfl

/-- The text of an integer is read as the integer. -/
theorem read_ofInt (n : Integer) : Number.read (ofInt n.val) = .ok (.integer n) := by
  have reads : ∀ (negative : Bool) (m : Nat),
      (if (ofInt n.val).head? = some '-' then (true, (ofInt n.val).tail)
        else (false, ofInt n.val)) = (negative, ofNat m) →
      (if negative then -(m : Int) else m) = n.val → (negative = true → m ≠ 0) →
      Number.read (ofInt n.val) = .ok (.integer n) := by
    intro negative m sign denotes nonzero
    rw [Number.read, numberParts_of_sign sign]
    dsimp only [bind, Except.bind]
    rw [value?_of_sign denotes nonzero]
    rfl
  cases sign : n.val with
  | ofNat m =>
      rw [sign] at reads
      obtain ⟨c, r, written, digit⟩ := exists_ofNat_eq_cons m
      have unsigned : (ofInt (.ofNat m)).head? ≠ some '-' := by
        rw [ofInt, written]
        rintro ⟨⟩
        cases digit
      exact reads false m (if_neg unsigned) rfl (by simp)
  | negSucc m =>
      rw [sign] at reads
      exact reads true (m + 1) rfl rfl (by simp)

theorem numeral_ofInt (n : Integer) (atEnd : Bool) :
    numeral (ofInt n.val) atEnd = .ok (.number (.integer n)) := by
  rw [numeral, read_ofInt]

end Fabricate.Json
