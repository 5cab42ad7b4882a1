import Fabricate.Random.Stream
import Fabricate.Word

/-!
# What can be drawn

A number is drawn below `n` as the high half of the product of a word and `n`, with a carry that a
second word decides (`scaledOf`). The high half is below `n`, and where it is the last number below
`n` the low half is too small for a carry, so the answer is always below `n` (`scaledOf_lt`). Every
number below `n` is the high half of some word's product, and a second word of zero keeps it
(`scaledOf_wordFor`).

So what can be drawn between two bounds is exactly what lies between them (`between64_mem`,
`exists_between64`).
-/

namespace Fabricate.Random

theorem Draw.run_bind {α β : Type} {draw : Draw α} {f : α → Draw β} {s t : Stream} {a : α}
    (h : draw.run s = (a, t)) : (draw >>= f).run s = (f a).run t := by
  rw [StateT.run_bind, h]
  rfl

theorem Draw.answer_bind {α β : Type} {draw : Draw α} {f : α → Draw β} {s t : Stream} {a : α}
    (h : draw.run s = (a, t)) : (draw >>= f).answer s = (f a).answer t :=
  congrArg Prod.fst (Draw.run_bind h)

/-! ### Scaled words -/

/-- The answer for the first word and the second one, should it be drawn. -/
def scaledOf (bound n first second : Nat) : Nat :=
  let high := first * n / bound
  let low := first * n % bound
  if bound - n < low ∧ bound ≤ low + second * n / bound then high + 1 else high

theorem answer_scaled (bound n : Nat) (draw : Draw Nat) (s : Stream) :
    (scaled bound draw n).answer s =
      scaledOf bound n (draw.run s).1 (draw.answer (draw.run s).2) := by
  cases first : draw.run s with
  | mk x t =>
      rw [scaled, Draw.answer_bind first]
      dsimp only [scaledOf]
      by_cases near : bound - n < x * n % bound
      · simp only [near, if_true, true_and]
        cases second : draw.run t with
        | mk y u =>
            have value : draw.answer t = y := congrArg Prod.fst second
            rw [Draw.answer_bind second, value]
            rfl
      · simp only [near, if_false, false_and]
        rfl

theorem scaledOf_lt {bound n first : Nat} (positive : 0 < n) (fits : n ≤ bound)
    (word : first < bound) (second : Nat) : scaledOf bound n first second < n := by
  have product : bound * (first * n / bound) + first * n % bound = first * n :=
    Nat.div_add_mod (first * n) bound
  have largest : first * n + n ≤ bound * n := by
    rw [← Nat.succ_mul]
    exact Nat.mul_le_mul_right n word
  have high : first * n / bound < n := by
    apply Nat.div_lt_of_lt_mul
    omega
  unfold scaledOf
  dsimp only
  split
  · next carry =>
    -- With the last number as its high half, the product leaves no room for such a low half.
    apply Nat.lt_of_le_of_ne high
    intro last
    have : bound * (first * n / bound) + bound = bound * n := by
      rw [← Nat.mul_succ, last]
    omega
  · exact high

/-- The least word whose product with `n` has the high half `v`. -/
def wordFor (bound n v : Nat) : Nat :=
  (v * bound + (n - 1)) / n

theorem wordFor_spec (bound : Nat) {n v : Nat} (h : v < n) :
    v * bound ≤ wordFor bound n v * n ∧ wordFor bound n v * n < v * bound + n := by
  have split := Nat.div_add_mod (v * bound + (n - 1)) n
  have := Nat.mod_lt (v * bound + (n - 1)) (Nat.zero_lt_of_lt h)
  rw [← wordFor, Nat.mul_comm] at split
  omega

theorem wordFor_lt {bound n v : Nat} (fits : n ≤ bound) (h : v < n) :
    wordFor bound n v < bound := by
  have upper := (wordFor_spec bound h).2
  have : (v + 1) * bound ≤ n * bound := Nat.mul_le_mul_right bound h
  rw [Nat.succ_mul, Nat.mul_comm n] at this
  have below : wordFor bound n v * n < bound * n := by omega
  exact Nat.lt_of_mul_lt_mul_right below

theorem scaledOf_wordFor {bound n v : Nat} (fits : n ≤ bound) (h : v < n) :
    scaledOf bound n (wordFor bound n v) 0 = v := by
  obtain ⟨lower, upper⟩ := wordFor_spec bound h
  have low : wordFor bound n v * n % bound < bound := Nat.mod_lt _ (by omega)
  have high : wordFor bound n v * n / bound = v := by
    apply Nat.div_eq_of_lt_le
    · exact lower
    · rw [Nat.succ_mul]
      omega
  unfold scaledOf
  dsimp only
  rw [Nat.zero_mul, Nat.zero_div, if_neg (by omega), high]

/-! ### Words of 64 bits -/

/-- The halves of a word make it up. -/
theorem halves_join (w : UInt64) :
    w.toUInt32.toUInt64 ||| ((w >>> 32).toUInt32.toUInt64 <<< 32) = w := by
  apply UInt64.toNat.inj
  have small := w.toNat_lt
  have high : (w >>> 32).toUInt32.toNat = w.toNat / 2 ^ 32 % 2 ^ 32 := by
    rw [UInt64.toNat_toUInt32, UInt64.toNat_shiftRight, Nat.shiftRight_eq_div_pow]
    rfl
  rw [Word.toNat_join, UInt64.toNat_toUInt32, high]
  omega

/-- A stream that starts with the two halves of a word and goes on with zeros. -/
def Stream.ofWord (w : UInt64) : Stream where
  word i := if i = 0 then w.toUInt32 else if i = 1 then (w >>> 32).toUInt32 else 0
  used := 0

theorem run_next64_ofWord (w : UInt64) :
    next64.run (Stream.ofWord w) = (w, { Stream.ofWord w with used := 2 }) := by
  change ((w.toUInt32.toUInt64 ||| ((w >>> 32).toUInt32.toUInt64 <<< 32) : UInt64), _) = _
  rw [halves_join]
  rfl

theorem answer_next64_ofWord (w : UInt64) :
    next64.answer { Stream.ofWord w with used := 2 } = 0 := by
  change ((0 : UInt32).toUInt64 ||| ((0 : UInt32).toUInt64 <<< 32) : UInt64) = 0
  decide

/-! ### Numbers between bounds -/

theorem below32_lt {n : Nat} (positive : 0 < n) (fits : n ≤ 4294967296) (s : Stream) :
    (below32 n).answer s < n := by
  rw [below32, answer_scaled]
  exact scaledOf_lt positive fits (next32.run s).1.toNat_lt _

theorem below64_lt {n : Nat} (positive : 0 < n) (fits : n ≤ 18446744073709551616) (s : Stream) :
    (below64 n).answer s < n := by
  rw [below64, answer_scaled]
  exact scaledOf_lt positive fits (next64.run s).1.toNat_lt _

theorem exists_below64 {n v : Nat} (fits : n ≤ 18446744073709551616) (h : v < n) :
    ∃ s, (below64 n).answer s = v := by
  let w := UInt64.ofNat (wordFor 18446744073709551616 n v)
  refine ⟨Stream.ofWord w, ?_⟩
  have first : (do return (← next64).toNat : Draw Nat).run (Stream.ofWord w) =
      (w.toNat, { Stream.ofWord w with used := 2 }) := by
    rw [StateT.run_bind, run_next64_ofWord]
    rfl
  have zero : (do return (← next64).toNat : Draw Nat).answer { Stream.ofWord w with used := 2 } =
      0 := congrArg UInt64.toNat (answer_next64_ofWord w)
  have word : w.toNat = wordFor 18446744073709551616 n v :=
    UInt64.toNat_ofNat_of_lt (wordFor_lt fits h)
  rw [below64, answer_scaled, first]
  dsimp only
  rw [zero, word, scaledOf_wordFor fits h]

variable {lo hi : Int} (h : lo ≤ hi) (fits : hi - lo < 18446744073709551616)

theorem answer_between64 (lo hi : Int) (s : Stream) :
    (between64 lo hi).answer s = lo + (below64 (hi - lo + 1).toNat).answer s := rfl

include h fits in
/-- What is drawn lies between the bounds. -/
theorem between64_mem (s : Stream) :
    lo ≤ (between64 lo hi).answer s ∧ (between64 lo hi).answer s ≤ hi := by
  have below := @below64_lt (hi - lo + 1).toNat (by omega) (by omega) s
  rw [answer_between64]
  omega

include fits in
/-- Whatever lies between the bounds can be drawn. -/
theorem exists_between64 {v : Int} (lower : lo ≤ v) (upper : v ≤ hi) :
    ∃ s, (between64 lo hi).answer s = v := by
  obtain ⟨s, drawn⟩ := @exists_below64 (hi - lo + 1).toNat (v - lo).toNat (by omega) (by omega)
  refine ⟨s, ?_⟩
  rw [answer_between64, drawn]
  omega

end Fabricate.Random
