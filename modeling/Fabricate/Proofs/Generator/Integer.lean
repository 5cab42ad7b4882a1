import Fabricate.Proofs.Decimal.Integer
import Fabricate.Proofs.Generator.Produce

/-!
# Integers in their bounds

An integer between two bounds is the lower one and a number of steps. The span of the bounds can be
twice as wide as what fits a signed word, so the number of steps is moved to the nearest word, and
so is what the steps come to. Both are not negative, and such an integer is only ever made smaller
by this (`nearestSigned_mem`). So no more than the span is put on top of the lower bound, and the
sum itself always fits (`stepped_mem`).

A number has at most `k` digits exactly if it is below the power of ten with the exponent `k`, so
the bounds between which a number is drawn are bounds of its length (`length_ofNat_eq`).
-/

namespace Fabricate

open Fabricate.Random

/-! ### Numbers of a length -/

namespace Decimal

/-- A number between two neighbouring powers of ten has as many digits as the exponents say. -/
theorem length_ofNat_eq {n digits : Nat} (positive : 1 ≤ digits) (lower : 10 ^ (digits - 1) ≤ n)
    (upper : n < 10 ^ digits) : (ofNat n).length = digits := by
  have most := (length_ofNat_le_iff positive).2 upper
  by_cases one : digits = 1
  · obtain ⟨c, r, written, -⟩ := exists_ofNat_eq_cons n
    rw [written, List.length_cons] at most ⊢
    omega
  · have more : ¬ (ofNat n).length ≤ digits - 1 := by
      rw [length_ofNat_le_iff (by omega)]
      exact Nat.not_lt.2 lower
    omega

end Decimal

namespace Generator

/-! ### Steps -/

/-- All the steps together come to no more than the span. -/
theorem stepCount_mem {min max step : Int} (order : min ≤ max) (positive : 0 < step) :
    0 ≤ stepCount min max step ∧ stepCount min max step * step ≤ max - min := by
  have span : 0 ≤ (max - min) / step := Int.ediv_nonneg (by omega) (Int.le_of_lt positive)
  obtain ⟨least, most⟩ := Word.nearestSigned_mem span
  exact ⟨least, Int.mul_le_of_le_ediv positive most⟩

/-- The steps of the widest range are more than fit a word. -/
example : stepCount (-9223372036854775808) 9223372036854775807 1 = 9223372036854775807 := by
  decide

/-- Only what the steps come to is moved to the nearest word; the sum fits. -/
theorem stepped_mem {min max step steps : Int} (low : Word.fitsSigned min = true)
    (high : Word.fitsSigned max = true) (order : min ≤ max) (positive : 0 < step)
    (least : 0 ≤ steps) (most : steps ≤ stepCount min max step) :
    stepped min step steps = min + Word.nearestSigned (steps * step) ∧
      min ≤ stepped min step steps ∧ stepped min step steps ≤ max := by
  have product : steps * step ≤ max - min :=
    Int.le_trans (Int.mul_le_mul_of_nonneg_right most (Int.le_of_lt positive))
      (stepCount_mem order positive).2
  obtain ⟨above, below⟩ := Word.nearestSigned_mem (Int.mul_nonneg least (Int.le_of_lt positive))
  have fits : Word.fitsSigned (min + Word.nearestSigned (steps * step)) = true := by
    rw [Word.fitsSigned_iff] at low high ⊢
    omega
  rw [stepped, Word.nearestSigned_of_fits fits]
  exact ⟨rfl, by omega, by omega⟩

/-- The lower bound: zero where none is given. -/
def lowest (params : Params) (key : String) : Int64 :=
  (params.int? key).getD 0

/-- The upper bound: 9999 where none is given. -/
def highest (params : Params) (key : String) : Int64 :=
  (params.int? key).getD 9999

/-- The width of a step: one where none is given. -/
def stepWidth (params : Params) : Int64 :=
  (params.int? "step").getD 1

theorem getD_map_toInt (given : Option Int64) {default : Int64} {n : Int}
    (h : default.toInt = n) : (given.map Int64.toInt).getD n = (given.getD default).toInt := by
  rw [← h, Option.getD_map]

theorem toInt_lowest (params : Params) (key : String) :
    (lowest params key).toInt = ((params.int? key).map Int64.toInt).getD 0 :=
  (getD_map_toInt _ (by decide)).symm

theorem toInt_highest (params : Params) (key : String) :
    (highest params key).toInt = ((params.int? key).map Int64.toInt).getD 9999 :=
  (getD_map_toInt _ (by decide)).symm

theorem toInt_stepWidth (params : Params) :
    (stepWidth params).toInt = ((params.int? "step").map Int64.toInt).getD 1 :=
  (getD_map_toInt _ (by decide)).symm

/-- An integer of a range: the lower bound and a number of steps that the upper one leaves room
for, as far as their number and what they come to fit a word. -/
structure InRange (min max step : Int64) (n : Int64) : Prop where
  lower : min ≤ n
  upper : n ≤ max
  steps : ∃ steps, 0 ≤ steps ∧ steps ≤ stepCount min.toInt max.toInt step.toInt ∧
    n.toInt = min.toInt + Word.nearestSigned (steps * step.toInt)

section

variable {min max step : Int64}

/-- What is drawn is a possible number of steps. -/
theorem steps_mem (order : min ≤ max) (positive : 0 < step) (s : Stream) :
    0 ≤ (between64 0 (stepCount min.toInt max.toInt step.toInt)).answer s ∧
      (between64 0 (stepCount min.toInt max.toInt step.toInt)).answer s ≤
        stepCount min.toInt max.toInt step.toInt := by
  obtain ⟨least, -⟩ := stepCount_mem (Int64.le_iff_toInt_le.1 order)
    (Int64.lt_iff_toInt_lt.1 positive)
  have word := Word.fitsSigned_iff.1
    (Word.fitsSigned_nearestSigned ((max.toInt - min.toInt) / step.toInt))
  exact between64_mem least (by rw [stepCount]; omega) s

/-- What the steps lead to fits, so as a word it is the same integer. -/
theorem toInt_stepped (order : min ≤ max) (positive : 0 < step) {steps : Int} (least : 0 ≤ steps)
    (most : steps ≤ stepCount min.toInt max.toInt step.toInt) :
    (Int64.ofInt (stepped min.toInt step.toInt steps)).toInt =
      stepped min.toInt step.toInt steps := by
  have low := Word.fitsSigned_toInt min
  have high := Word.fitsSigned_toInt max
  obtain ⟨-, above, below⟩ := stepped_mem low high (Int64.le_iff_toInt_le.1 order)
    (Int64.lt_iff_toInt_lt.1 positive) least most
  apply Word.toInt_ofInt_of_fits
  rw [Word.fitsSigned_iff] at low high ⊢
  omega

theorem inRange_stepped (order : min ≤ max) (positive : 0 < step) {steps : Int} (least : 0 ≤ steps)
    (most : steps ≤ stepCount min.toInt max.toInt step.toInt) :
    InRange min max step (Int64.ofInt (stepped min.toInt step.toInt steps)) := by
  have word := toInt_stepped order positive least most
  obtain ⟨sum, above, below⟩ := stepped_mem (Word.fitsSigned_toInt min) (Word.fitsSigned_toInt max)
    (Int64.le_iff_toInt_le.1 order) (Int64.lt_iff_toInt_lt.1 positive) least most
  constructor
  · rw [Int64.le_iff_toInt_le, word]
    exact above
  · rw [Int64.le_iff_toInt_le, word]
    exact below
  · exact ⟨steps, least, most, word.trans sum⟩

end

section

variable (id : String) {minKey maxKey : String} {context : Context} {params : Params}
  {world : World} {s : Stream}

theorem outcome_intRange_of_lt (inverted : highest params maxKey < lowest params minKey) :
    ((intRange id minKey maxKey).generate context params world s).outcome =
      .refused (.constraint (id ++ ": " ++ minKey ++ " must be <= " ++ maxKey)) := by
  refine outcome_of_answer_error ?_ world
  rw [← toInt_lowest, ← toInt_highest]
  dsimp only
  rw [if_pos (Int64.lt_iff_toInt_lt.1 inverted)]
  rfl

theorem outcome_intRange_of_le (order : lowest params minKey ≤ highest params maxKey)
    (still : stepWidth params ≤ 0) :
    ((intRange id minKey maxKey).generate context params world s).outcome =
      .refused (.constraint (id ++ ": step must be positive")) := by
  have flat : (stepWidth params).toInt ≤ 0 := Int64.le_iff_toInt_le.1 still
  refine outcome_of_answer_error ?_ world
  rw [← toInt_lowest, ← toInt_highest, ← toInt_stepWidth]
  dsimp only
  rw [if_neg (Int.not_lt.2 (Int64.le_iff_toInt_le.1 order)), if_pos flat]
  rfl

/-- In a range that is not empty the lower bound and a number of steps are given. -/
theorem outcome_intRange (order : lowest params minKey ≤ highest params maxKey)
    (positive : 0 < stepWidth params) :
    ((intRange id minKey maxKey).generate context params world s).outcome =
      .value (.int (Int64.ofInt (stepped (lowest params minKey).toInt (stepWidth params).toInt
        ((between64 0 (stepCount (lowest params minKey).toInt (highest params maxKey).toInt
          (stepWidth params).toInt)).answer s)))) := by
  have wide : 0 < (stepWidth params).toInt := Int64.lt_iff_toInt_lt.1 positive
  refine outcome_of_answer_ok ?_ world
  rw [← toInt_lowest, ← toInt_highest, ← toInt_stepWidth]
  dsimp only
  rw [if_neg (Int.not_lt.2 (Int64.le_iff_toInt_le.1 order)), if_neg (Int.not_le.2 wide)]
  exact answer_map (answer_lift _ s) _

/-- An integer of a range is refused when the range is empty or the step leads nowhere, and is one
of the range otherwise. -/
theorem answers_intRange :
    Answers (highest params maxKey < lowest params minKey ∨ stepWidth params ≤ 0)
      (fun v => ∃ n, v = .int n ∧
        InRange (lowest params minKey) (highest params maxKey) (stepWidth params) n)
      ((intRange id minKey maxKey).generate context params world s).outcome := by
  by_cases inverted : highest params maxKey < lowest params minKey
  · rw [outcome_intRange_of_lt id inverted]
    exact .of_refused (.inl inverted)
  have order := Int64.not_lt.1 inverted
  by_cases still : stepWidth params ≤ 0
  · rw [outcome_intRange_of_le id order still]
    exact .of_refused (.inr still)
  · have positive := Int64.not_le.1 still
    obtain ⟨least, most⟩ := steps_mem order positive s
    rw [outcome_intRange id order positive]
    exact .of_value (not_or.2 ⟨inverted, still⟩)
      ⟨_, rfl, inRange_stepped order positive least most⟩

end

/-! ### Digits -/

/-- The digits that are asked for are none or more than eighteen. -/
def BadDigits (params : Params) : Prop :=
  ∃ n, params.int? "digits" = some n ∧ ¬(1 ≤ n.toInt ∧ n.toInt ≤ 18)

/-- The number of digits: the one that is asked for, or else one from one to nine. -/
structure DigitCount (params : Params) (digits : Nat) : Prop where
  pos : 1 ≤ digits
  le : digits ≤ 18
  given : ∀ n, params.int? "digits" = some n → n.toInt = digits
  drawn : params.int? "digits" = none → digits ≤ 9

theorem drawDigits_of_none {params : Params} (missing : params.int? "digits" = none) :
    drawDigits params = liftM (below32 9) >>= fun k => pure (k + 1) := by
  rw [drawDigits, missing]
  rfl

theorem drawDigits_of_some {params : Params} {n : Int64} (given : params.int? "digits" = some n) :
    drawDigits params = bounded params "digits" 0 1 18 := by
  rw [drawDigits, given]
  rfl

/-- A number of digits is refused exactly when it is a bad one. -/
theorem drawDigits_cases (params : Params) (s : Stream) :
    (BadDigits params ∧ ∃ reason, drawDigits params = refuse reason) ∨
      ¬ BadDigits params ∧
        ∃ digits, (drawDigits params).run.answer s = .ok digits ∧ DigitCount params digits := by
  cases given : params.int? "digits" with
  | none =>
      have below := @below32_lt 9 (by decide) (by decide) s
      refine .inr ⟨?_, (below32 9).answer s + 1, ?_, by omega, by omega, ?_, fun _ => by omega⟩
      · rintro ⟨n, found, -⟩
        cases given.symm.trans found
      · rw [drawDigits_of_none given]
        exact answer_map (answer_lift _ s) _
      · intro n found
        cases given.symm.trans found
  | some n =>
      have asked : ((params.int? "digits").map Int64.toInt).getD 0 = n.toInt := by
        rw [given]
        rfl
      by_cases fits : 1 ≤ n.toInt ∧ n.toInt ≤ 18
      · have natural : (n.toInt.toNat : Int) = n.toInt := Int.toNat_of_nonneg (by omega)
        refine .inr ⟨?_, n.toInt.toNat, ?_, by omega, by omega, ?_, ?_⟩
        · rintro ⟨m, found, bad⟩
          cases given.symm.trans found
          exact bad fits
        · rw [drawDigits_of_some given, bounded_of_mem (asked.trans natural.symm) (by omega)
            (by omega)]
          rfl
        · intro m found
          cases given.symm.trans found
          exact natural.symm
        · intro missing
          cases given.symm.trans missing
      · have bad : BadDigits params := ⟨n, given, fits⟩
        rw [← asked] at fits
        exact .inl ⟨bad, _, (drawDigits_of_some given).trans (bounded_of_notMem fits)⟩

/-- A number of the given digits, with all of them where the length is fixed. -/
structure HasDigits (digits : Nat) (fixed : Bool) (n : Int64) : Prop where
  nonneg : 0 ≤ n.toInt
  lt : n.toInt < 10 ^ digits
  length : fixed = true → (Decimal.ofInt n.toInt).length = digits

/-- The least number that is drawn. -/
def leastNumber (digits : Nat) (fixed : Bool) : Nat :=
  if fixed then Nat.pow 10 (digits - 1) else 0

section

variable {digits : Nat} (fixed : Bool)

/-- What is drawn lies between the least number and the greatest one. -/
theorem numbers_mem (pos : 1 ≤ digits) (le : digits ≤ 18) (s : Stream) :
    ∃ n : Nat, (between64 (leastNumber digits fixed) ((Nat.pow 10 digits : Nat) - 1)).answer s = n ∧
      leastNumber digits fixed ≤ n ∧ n < 10 ^ digits := by
  have widest : 10 ^ digits ≤ 10 ^ 18 := Nat.pow_le_pow_right (by decide) le
  have room : leastNumber digits fixed < Nat.pow 10 digits := by
    unfold leastNumber
    split
    · exact Nat.pow_lt_pow_right (by decide) (by omega)
    · exact Nat.pow_pos (by decide)
  have power : Nat.pow 10 digits = 10 ^ digits := rfl
  obtain ⟨lower, upper⟩ := @between64_mem (leastNumber digits fixed) ((Nat.pow 10 digits : Nat) - 1)
    (by omega) (by omega) s
  obtain ⟨n, drawn⟩ := Int.eq_ofNat_of_zero_le (Int.le_trans (Int.natCast_nonneg _) lower)
  rw [drawn] at lower upper
  exact ⟨n, drawn, by omega, by omega⟩

theorem hasDigits_of_mem {n : Nat} (pos : 1 ≤ digits) (le : digits ≤ 18)
    (lower : leastNumber digits fixed ≤ n) (upper : n < 10 ^ digits) :
    HasDigits digits fixed (Int64.ofInt n) := by
  have widest : 10 ^ digits ≤ 10 ^ 18 := Nat.pow_le_pow_right (by decide) le
  have word : (Int64.ofInt n).toInt = n := by
    apply Word.toInt_ofInt_of_fits
    rw [Word.fitsSigned_iff]
    omega
  constructor
  · rw [word]
    exact Int.natCast_nonneg n
  · rw [word]
    exact_mod_cast upper
  · rintro rfl
    rw [word]
    exact Decimal.length_ofNat_eq pos lower upper

end

/-- A number is refused when the digits are bad, and has the digits otherwise. -/
theorem answers_randomNumber (context : Context) (params : Params) (world : World) (s : Stream) :
    Answers (BadDigits params)
      (fun v => ∃ digits n, DigitCount params digits ∧ v = .int n ∧
        HasDigits digits ((params.bool? "fix_len").getD false) n)
      (randomNumber.generate context params world s).outcome := by
  rcases drawDigits_cases params s with ⟨bad, reason, refused⟩ | ⟨fine, digits, drawn, counted⟩
  · have outcome : (randomNumber.generate context params world s).outcome =
        .refused (.constraint reason) := by
      refine outcome_of_answer_error ?_ world
      rw [refused]
      rfl
    rw [outcome]
    exact .of_refused bad
  · let fixed := (params.bool? "fix_len").getD false
    -- The number is drawn from what the choice of the digits left of the stream.
    obtain ⟨t, rest⟩ := exists_answer_bind drawn fun digits => do
      return Datum.int (Int64.ofInt
        (← between64 (leastNumber digits fixed) ((Nat.pow 10 digits : Nat) - 1)))
    obtain ⟨n, number, lower, upper⟩ := numbers_mem fixed counted.pos counted.le t
    have outcome : (randomNumber.generate context params world s).outcome =
        .value (.int (Int64.ofInt n)) := by
      refine outcome_of_answer_ok (rest.trans ?_) world
      rw [← number]
      exact answer_map (answer_lift _ t) _
    rw [outcome]
    exact .of_value fine
      ⟨digits, _, counted, rfl, hasDigits_of_mem fixed counted.pos counted.le lower upper⟩

/-- Integers stay within the bounds that are asked for, wherever these lie among the words, and
numbers have the digits that are asked for. Nothing is refused but an empty range, a step that
leads nowhere, and a number of digits that is none or beyond eighteen. -/
theorem integers_stay_in_bounds (context : Context) (params : Params) (world : World)
    (s : Stream) :
    (∀ id minKey maxKey : String,
      Answers (highest params maxKey < lowest params minKey ∨ stepWidth params ≤ 0)
        (fun v => ∃ n, v = .int n ∧
          InRange (lowest params minKey) (highest params maxKey) (stepWidth params) n)
        ((intRange id minKey maxKey).generate context params world s).outcome) ∧
      Answers (BadDigits params)
        (fun v => ∃ digits n, DigitCount params digits ∧ v = .int n ∧
          HasDigits digits ((params.bool? "fix_len").getD false) n)
        (randomNumber.generate context params world s).outcome :=
  ⟨fun id _ _ => answers_intRange id, answers_randomNumber context params world s⟩

end Generator

end Fabricate
