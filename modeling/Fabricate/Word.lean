/-!
# Words

A word has 64 bits, signed or unsigned. An integer becomes a word only if it fits, and a word that
came from an integer stands for that integer. Two halves of 32 bits make up a word.
-/

namespace Fabricate.Word

/-- Whether an integer fits a signed word. -/
def fitsSigned (n : Int) : Bool :=
  -9223372036854775808 ≤ n && n < 9223372036854775808

/-- The nearest integer that fits a signed word. -/
def nearestSigned (n : Int) : Int :=
  max (-9223372036854775808) (min n 9223372036854775807)

/-- The signed word of an integer, if it fits. -/
def signed? (n : Int) : Option Int64 :=
  if fitsSigned n then some (Int64.ofInt n) else none

/-- Whether a natural number fits an unsigned word. -/
def fitsUnsigned (n : Nat) : Bool :=
  n < 18446744073709551616

/-- The unsigned word of a natural number, if it fits. -/
def unsigned? (n : Nat) : Option UInt64 :=
  if fitsUnsigned n then some (UInt64.ofNat n) else none

theorem fitsSigned_iff {n : Int} :
    fitsSigned n = true ↔ -9223372036854775808 ≤ n ∧ n < 9223372036854775808 := by
  rw [fitsSigned, Bool.and_eq_true, decide_eq_true_eq, decide_eq_true_eq]

theorem toInt_ofInt_of_fits {n : Int} (h : fitsSigned n = true) : (Int64.ofInt n).toInt = n := by
  rw [fitsSigned_iff] at h
  exact Int64.toInt_ofInt_of_le (by omega) (by omega)

theorem fitsSigned_toInt (w : Int64) : fitsSigned w.toInt = true :=
  fitsSigned_iff.2 ⟨w.le_toInt, w.toInt_lt⟩

theorem signed?_toInt (w : Int64) : signed? w.toInt = some w := by
  simp [signed?, fitsSigned_toInt]

theorem toInt_of_signed? {n : Int} {w : Int64} (h : signed? n = some w) : w.toInt = n := by
  unfold signed? at h
  split at h
  case isTrue fits =>
    cases h
    exact toInt_ofInt_of_fits fits
  case isFalse => cases h

theorem fitsSigned_nearestSigned (n : Int) : fitsSigned (nearestSigned n) = true := by
  rw [fitsSigned_iff]
  unfold nearestSigned
  omega

/-- What fits is nearest to itself. -/
theorem nearestSigned_of_fits {n : Int} (h : fitsSigned n = true) : nearestSigned n = n := by
  rw [fitsSigned_iff] at h
  unfold nearestSigned
  omega

/-- What is not negative is never made larger. -/
theorem nearestSigned_mem {n : Int} (h : 0 ≤ n) : 0 ≤ nearestSigned n ∧ nearestSigned n ≤ n := by
  unfold nearestSigned
  omega

theorem unsigned?_toNat (w : UInt64) : unsigned? w.toNat = some w := by
  have := w.toNat_lt
  have fits : fitsUnsigned w.toNat = true := by
    simp only [fitsUnsigned, decide_eq_true_eq]
    omega
  simp [unsigned?, fits]

theorem toNat_of_unsigned? {n : Nat} {w : UInt64} (h : unsigned? n = some w) : w.toNat = n := by
  unfold unsigned? at h
  split at h
  case isTrue fits =>
    cases h
    simp only [fitsUnsigned, decide_eq_true_eq] at fits
    exact UInt64.toNat_ofNat_of_lt (by omega)
  case isFalse => cases h

/-- Two halves side by side. -/
theorem toNat_join (low high : UInt32) :
    (low.toUInt64 ||| (high.toUInt64 <<< 32)).toNat = low.toNat + 4294967296 * high.toNat := by
  have small := high.toNat_lt
  have shifted : (high.toUInt64 <<< 32).toNat = 4294967296 * high.toNat := by
    rw [UInt64.toNat_shiftLeft, UInt32.toNat_toUInt64, Nat.shiftLeft_eq, Nat.mul_comm]
    exact Nat.mod_eq_of_lt (show 4294967296 * high.toNat < 18446744073709551616 by omega)
  rw [UInt64.toNat_or, UInt32.toNat_toUInt64, shifted, Nat.or_comm]
  exact (Nat.two_pow_add_eq_or_of_lt low.toNat_lt _).symm.trans (Nat.add_comm _ _)

end Fabricate.Word
