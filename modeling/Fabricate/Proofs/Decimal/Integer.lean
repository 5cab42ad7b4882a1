import Mathlib.Algebra.Group.Int.Defs
import Mathlib.Algebra.Group.Nat.Defs
import Fabricate.Decimal.Integer

/-!
# Decimal integers read back

The digits of a natural number are a non-empty row of digits without a needless zero in front, and
they denote the number. The text of an integer is therefore read as the integer, and its first
character, a digit or the minus sign, tells it from every other kind of text.
-/

namespace Fabricate.Decimal

theorem ofNat_ne_nil (n : Nat) : ofNat n ≠ [] :=
  Nat.toDigits_ne_nil

theorem isDigit_of_mem_ofNat {n : Nat} {c : Char} (h : c ∈ ofNat n) : c.isDigit = true :=
  Nat.isDigit_of_mem_toDigits (by decide) (by decide) h

theorem isDigits_iff {ds : List Char} :
    isDigits ds = true ↔ ds ≠ [] ∧ ∀ d ∈ ds, d.isDigit = true := by
  rw [isDigits, Bool.and_eq_true, Bool.not_eq_true', List.isEmpty_eq_false_iff, List.all_eq_true]

theorem isDigits_ofNat (n : Nat) : isDigits (ofNat n) = true :=
  isDigits_iff.2 ⟨ofNat_ne_nil n, fun _ => isDigit_of_mem_ofNat⟩

theorem natOf_ofNat (n : Nat) : natOf (ofNat n) = n :=
  Nat.ofDigitChars_ten_toDigits

theorem nat?_ofNat (n : Nat) : nat? (ofNat n) = some n := by
  rw [nat?, if_pos (isDigits_ofNat n), natOf_ofNat]

theorem exists_ofNat_eq_cons (n : Nat) : ∃ c r, ofNat n = c :: r ∧ c.isDigit = true := by
  cases written : ofNat n with
  | nil => exact absurd written (ofNat_ne_nil n)
  | cons c r => exact ⟨c, r, rfl, isDigit_of_mem_ofNat (written ▸ List.mem_cons_self)⟩

/-- Only zero is written with a zero in front. -/
theorem ofNat_of_head?_eq_zero {n : Nat} (h : (ofNat n).head? = some '0') : ofNat n = ['0'] := by
  induction n using Nat.strongRecOn with
  | ind n ih =>
      rw [ofNat, Nat.toDigits_eq_if (by decide)] at h ⊢
      by_cases small : n < 10
      · rw [if_pos small] at h ⊢
        exact congrArg (· :: []) (Option.some.inj h)
      · rw [if_neg small, ← ofNat] at h
        obtain ⟨d, r, written, -⟩ := exists_ofNat_eq_cons (n / 10)
        have first : (ofNat (n / 10)).head? = some '0' := by
          rw [written] at h ⊢
          exact h
        have denotes := natOf_ofNat (n / 10)
        rw [ih (n / 10) (by omega) first] at denotes
        have : natOf ['0'] = 0 := rfl
        omega

/-- The text of an integer starts with a digit or with the minus sign. -/
theorem exists_ofInt_eq_cons (n : Int) :
    ∃ c r, ofInt n = c :: r ∧ (c.isDigit = true ∨ c = '-') := by
  cases n with
  | ofNat n =>
      obtain ⟨c, r, written, digit⟩ := exists_ofNat_eq_cons n
      exact ⟨c, r, written, .inl digit⟩
  | negSucc n => exact ⟨'-', ofNat (n + 1), rfl, .inr rfl⟩

theorem mem_ofInt {n : Int} {c : Char} (h : c ∈ ofInt n) : c.isDigit = true ∨ c = '-' := by
  cases n with
  | ofNat n => exact .inl (isDigit_of_mem_ofNat h)
  | negSucc n =>
      rcases List.mem_cons.1 h with rfl | digit
      · exact .inr rfl
      · exact .inl (isDigit_of_mem_ofNat digit)

theorem splitSign_of_isDigit {c : Char} {r : List Char} (h : c.isDigit = true) :
    splitSign (c :: r) = (false, c :: r) := by
  unfold splitSign
  split
  · next same =>
      cases same
      cases h
  · next same =>
      cases same
      cases h
  · rfl

/-- The text of an integer is read as the integer. -/
theorem int?_ofInt (n : Int) : int? (ofInt n) = some n := by
  cases n with
  | ofNat n =>
      obtain ⟨c, r, written, digit⟩ := exists_ofNat_eq_cons n
      have sign : splitSign (ofNat n) = (false, ofNat n) := by
        rw [written]
        exact splitSign_of_isDigit digit
      rw [ofInt, int?, sign]
      dsimp only
      rw [nat?_ofNat]
      rfl
  | negSucc n =>
      rw [ofInt, int?, splitSign]
      dsimp only
      rw [nat?_ofNat]
      rfl

/-- What is read as an integer is a row of digits, with or without a sign before it. -/
theorem exists_cons_of_int? {cs : List Char} {n : Int} (h : int? cs = some n) :
    ∃ c r, cs = c :: r ∧ (c.isDigit = true ∨ (c = '-' ∨ c = '+') ∧ r ≠ []) ∧
      ∀ d ∈ r, d.isDigit = true := by
  have digits : ∀ ds m, nat? ds = some m → ds ≠ [] ∧ ∀ d ∈ ds, d.isDigit = true := by
    intro ds m read
    rw [nat?] at read
    split at read
    · next row => exact isDigits_iff.1 row
    · cases read
  unfold int? at h
  dsimp only at h
  obtain ⟨m, read, -⟩ := Option.map_eq_some_iff.1 h
  obtain ⟨k, number, -⟩ := Option.bind_eq_some_iff.1 read
  obtain ⟨ne_nil, row⟩ := digits _ _ number
  clear h read number
  unfold splitSign at ne_nil row
  split at row
  · next r => exact ⟨'-', r, rfl, .inr ⟨.inl rfl, ne_nil⟩, row⟩
  · next r => exact ⟨'+', r, rfl, .inr ⟨.inr rfl, ne_nil⟩, row⟩
  · cases cs with
    | nil => exact absurd rfl ne_nil
    | cons c r =>
        exact ⟨c, r, rfl, .inl (row c List.mem_cons_self), fun d member =>
          row d (List.mem_cons_of_mem c member)⟩

/-! ### Widths -/

theorem length_ofNat_le_iff {n width : Nat} (positive : 0 < width) :
    (ofNat n).length ≤ width ↔ n < 10 ^ width :=
  Nat.length_toDigits_le_iff (by decide) positive

theorem isDigit_of_mem_padded {width n : Nat} {c : Char} (h : c ∈ padded width n) :
    c.isDigit = true := by
  rcases List.mem_append.1 h with zero | digit
  · rw [(List.mem_replicate.1 zero).2]
    rfl
  · exact isDigit_of_mem_ofNat digit

theorem padded_ne_nil (width n : Nat) : padded width n ≠ [] :=
  List.append_ne_nil_of_right_ne_nil _ (ofNat_ne_nil n)

/-- Zeros in front do not count. -/
theorem natOf_padded (width n : Nat) : natOf (padded width n) = n := by
  have zeros : ∀ k, Nat.ofDigitChars 10 (List.replicate k '0') 0 = 0 := by
    intro k
    induction k with
    | zero => rfl
    | succ k ih => exact ih
  rw [natOf, padded, Nat.ofDigitChars_append, zeros]
  exact natOf_ofNat n

theorem length_padded_le {width n : Nat} (positive : 0 < width) (h : n < 10 ^ width) :
    (padded width n).length ≤ width := by
  have := (length_ofNat_le_iff positive).2 h
  rw [padded, List.length_append, List.length_replicate]
  omega

end Fabricate.Decimal
