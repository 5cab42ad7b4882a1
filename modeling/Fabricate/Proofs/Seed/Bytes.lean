import Mathlib.Data.BitVec
import Mathlib.Tactic.IntervalCases
import Fabricate.Seed.Derive
import Fabricate.Word

/-!
# Words and digests as bytes

The lowest bytes of a number tell it up to the higher ones (`lowBytes_eq_iff`), so a row of words
can be read back from the bytes of its words (`flatMap_littleEndian_injective`).

A digest is written with the highest byte of each of its words first. The seed that is taken from it
has the first eight of these bytes as its own, the lowest first (`littleEndian_seed`).
-/

namespace Fabricate.Seed

/-! ### Lowest bytes -/

theorem length_lowBytes (size n : Nat) : (lowBytes size n).length = size := by
  induction size generalizing n with
  | zero => rfl
  | succ size ih => rw [lowBytes, List.length_cons, ih]

theorem lowBytes_eq_iff {size n m : Nat} :
    lowBytes size n = lowBytes size m ↔ n % 256 ^ size = m % 256 ^ size := by
  induction size generalizing n m with
  | zero => simp [lowBytes, Nat.mod_one]
  | succ size ih =>
      have lowest : UInt8.ofNat n = UInt8.ofNat m ↔ n % 256 = m % 256 := by
        rw [← UInt8.toNat_inj, UInt8.toNat_ofNat', UInt8.toNat_ofNat']
      rw [lowBytes, lowBytes, List.cons.injEq, lowest, ih, Nat.pow_succ', Nat.mod_mul, Nat.mod_mul]
      omega

theorem lowBytes_add (j k n : Nat) :
    lowBytes (j + k) n = lowBytes j n ++ lowBytes k (n / 256 ^ j) := by
  induction j generalizing n with
  | zero => simp [lowBytes]
  | succ j ih =>
      rw [Nat.succ_add, lowBytes, lowBytes, ih, List.cons_append, Nat.div_div_eq_div_mul,
        Nat.pow_succ']

theorem getElem_lowBytes {size n i : Nat} (inside : i < (lowBytes size n).length) :
    (lowBytes size n)[i] = UInt8.ofNat (n / 256 ^ i) := by
  induction size generalizing n i with
  | zero => cases inside
  | succ size ih =>
      cases i with
      | zero => simp [lowBytes]
      | succ i =>
          simp only [lowBytes, List.getElem_cons_succ]
          rw [ih, Nat.div_div_eq_div_mul, Nat.pow_succ']

/-! ### Words -/

theorem length_littleEndian (n : UInt64) : (littleEndian n).length = 8 :=
  length_lowBytes 8 _

theorem littleEndian_injective : Function.Injective littleEndian := by
  intro n m same
  have small := n.toNat_lt
  have small' := m.toNat_lt
  rw [littleEndian, littleEndian, lowBytes_eq_iff] at same
  exact UInt64.toNat_inj.1 (by omega)

/-- Every word has the same number of bytes, so rows of words need nothing between them. -/
theorem flatMap_littleEndian_injective :
    Function.Injective fun parts : List UInt64 => parts.flatMap littleEndian := by
  intro parts others same
  induction parts generalizing others with
  | nil =>
      cases others with
      | nil => rfl
      | cons other others => cases same
  | cons part parts ih =>
      cases others with
      | nil => cases same
      | cons other others =>
          obtain ⟨first, rest⟩ := List.append_inj same
            ((length_littleEndian part).trans (length_littleEndian other).symm)
          rw [littleEndian_injective first, ih rest]

/-! ### Digests -/

/-- The four bytes of a word, the highest first. -/
def bigEndian (x : UInt32) : List UInt8 :=
  (lowBytes 4 x.toNat).reverse

/-- The 32 bytes of a digest. -/
def Digest.bytes (s : Digest) : List UInt8 :=
  [s.a, s.b, s.c, s.d, s.e, s.f, s.g, s.h].flatMap bigEndian

theorem length_bigEndian (x : UInt32) : (bigEndian x).length = 4 := by
  rw [bigEndian, List.length_reverse, length_lowBytes]

/-- The bits of a byte are those of the word from the place of the byte on. -/
theorem getLsbD_byte (x : UInt32) (byte : Nat) {bit : Nat} (inside : bit < 8) :
    (UInt8.ofNat (x.toNat / 256 ^ byte)).toBitVec.getLsbD bit =
      x.toBitVec.getLsbD (8 * byte + bit) := by
  have place : 256 ^ byte = 2 ^ (8 * byte) := (Nat.pow_mul 2 8 byte).symm
  rw [UInt8.toBitVec_ofNat', BitVec.getLsbD_ofNat, decide_eq_true inside, Bool.true_and, place,
    Nat.testBit_div_two_pow, Nat.add_comm, ← UInt32.toNat_toBitVec, BitVec.testBit_toNat]

/-- With its bytes in the opposite order a word has the bits of each of them at the other end. -/
theorem getLsbD_swapBytes (x : UInt32) {byte bit : Nat} (few : byte < 4) (inside : bit < 8) :
    (swapBytes x).toBitVec.getLsbD (8 * byte + bit) =
      x.toBitVec.getLsbD (8 * (3 - byte) + bit) := by
  -- The masks of the swap are numerals, so there is one case for each of the 32 bits.
  interval_cases byte <;> interval_cases bit <;> simp [swapBytes]

theorem lowBytes_swapBytes (x : UInt32) : lowBytes 4 (swapBytes x).toNat = bigEndian x := by
  refine List.ext_getElem ?_ fun byte inside inside' => ?_
  · rw [length_lowBytes, length_bigEndian]
  · have few : byte < 4 := by rwa [length_lowBytes] at inside
    simp only [bigEndian, List.getElem_reverse, getElem_lowBytes, length_lowBytes]
    refine UInt8.eq_of_toBitVec_eq (BitVec.eq_of_getLsbD_eq fun bit inside => ?_)
    rw [getLsbD_byte _ _ inside, getLsbD_byte _ _ inside]
    exact getLsbD_swapBytes x few inside

/-- The first eight bytes of a digest are those of its seed, the lowest first. -/
theorem littleEndian_seed (s : Digest) : littleEndian s.seed = s.bytes.take 8 := by
  have small := (swapBytes s.a).toNat_lt
  have joined : s.seed.toNat = (swapBytes s.a).toNat + 4294967296 * (swapBytes s.b).toNat :=
    Word.toNat_join _ _
  have first : lowBytes 4 s.seed.toNat = bigEndian s.a := by
    rw [← lowBytes_swapBytes, lowBytes_eq_iff, joined]
    omega
  have second : lowBytes 4 (s.seed.toNat / 256 ^ 4) = bigEndian s.b := by
    rw [← lowBytes_swapBytes, lowBytes_eq_iff, joined]
    omega
  have eight : (bigEndian s.a ++ bigEndian s.b).length = 8 := by
    rw [List.length_append, length_bigEndian, length_bigEndian]
  rw [littleEndian, lowBytes_add 4 4, first, second, Digest.bytes, List.flatMap_cons,
    List.flatMap_cons, ← List.append_assoc, List.take_left' eight]

/-- The digest of no bytes begins with these. -/
example : littleEndian (derive [] []) = [0xe3, 0xb0, 0xc4, 0x42, 0x98, 0xfc, 0x1c, 0x14] := by
  decide +kernel

/-- Seeds tell the first eight bytes of digests. -/
theorem Digest.seed_eq_iff {s t : Digest} :
    s.seed = t.seed ↔ s.bytes.take 8 = t.bytes.take 8 := by
  rw [← littleEndian_seed, ← littleEndian_seed, littleEndian_injective.eq_iff]

end Fabricate.Seed
