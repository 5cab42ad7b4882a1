import Mathlib.Data.Int.Init
import Fabricate.Proofs.Generator.Integer

/-!
# Integers on a grid

The integers that a step leads to from the lower bound of a range form a grid, and an integer of the
range is the lower bound and what some steps come to. It lies on the grid as long as this product
fits a signed word. A product that does not fit is moved to the greatest word, and then the integer
is on the grid only if the greatest word itself is a whole number of steps (`onGrid_stepped_iff`).

All steps together come to no more than the span of the range, so a span that fits a word keeps
every integer on the grid. In a wider range the step decides: every number of steps can be drawn, the
largest included, so some integer leaves the grid unless the largest product fits or the greatest
word is a whole number of steps (`forall_onGrid_iff`).
-/

namespace Fabricate

open Fabricate.Random

namespace Word

/-- What is too large is moved to the greatest word. -/
theorem nearestSigned_of_not_fits {n : Int} (nonneg : 0 ≤ n) (far : ¬ fitsSigned n = true) :
    nearestSigned n = 9223372036854775807 := by
  rw [fitsSigned_iff] at far
  unfold nearestSigned
  omega

end Word

namespace Generator

/-- The integer is a whole number of steps above the lower bound. -/
def OnGrid (min step n : Int64) : Prop :=
  (n.toInt - min.toInt) % step.toInt = 0

instance (min step n : Int64) : Decidable (OnGrid min step n) :=
  inferInstanceAs <| Decidable <| (n.toInt - min.toInt) % step.toInt = 0

/-- What that many steps come to is not cut, or is cut where the grid has a point. -/
def StaysOnGrid (steps : Int) (step : Int64) : Prop :=
  Word.fitsSigned (steps * step.toInt) = true ∨ 9223372036854775807 % step.toInt = 0

instance (steps : Int) (step : Int64) : Decidable (StaysOnGrid steps step) :=
  inferInstanceAs <| Decidable <|
    Word.fitsSigned (steps * step.toInt) = true ∨ 9223372036854775807 % step.toInt = 0

section

variable {min max step : Int64} (order : min ≤ max) (positive : 0 < step) {steps : Int}
  (least : 0 ≤ steps)

/-- Fewer steps are no worse than more of them. -/
theorem StaysOnGrid.mono {fewer : Int} (positive : 0 < step) (least : 0 ≤ fewer)
    (order : fewer ≤ steps) (h : StaysOnGrid steps step) : StaysOnGrid fewer step := by
  refine h.imp_left fun fits => ?_
  have wide : 0 < step.toInt := Int64.lt_iff_toInt_lt.1 positive
  have product : fewer * step.toInt ≤ steps * step.toInt :=
    Int.mul_le_mul_of_nonneg_right order (Int.le_of_lt wide)
  have nonneg : 0 ≤ fewer * step.toInt := Int.mul_nonneg least (Int.le_of_lt wide)
  rw [Word.fitsSigned_iff] at fits ⊢
  omega

include order positive least in
/-- An integer is on the grid exactly when the product of its steps is not cut off the grid. -/
theorem onGrid_stepped_iff (most : steps ≤ stepCount min.toInt max.toInt step.toInt) :
    OnGrid min step (Int64.ofInt (stepped min.toInt step.toInt steps)) ↔
      StaysOnGrid steps step := by
  have wide : 0 < step.toInt := Int64.lt_iff_toInt_lt.1 positive
  have nonneg : 0 ≤ steps * step.toInt := Int.mul_nonneg least (Int.le_of_lt wide)
  obtain ⟨sum, -, -⟩ := stepped_mem (Word.fitsSigned_toInt min) (Word.fitsSigned_toInt max)
    (Int64.le_iff_toInt_le.1 order) wide least most
  have above : min.toInt + Word.nearestSigned (steps * step.toInt) - min.toInt =
      Word.nearestSigned (steps * step.toInt) := by omega
  rw [OnGrid, toInt_stepped order positive least most, sum, above, StaysOnGrid]
  by_cases fits : Word.fitsSigned (steps * step.toInt) = true
  · rw [Word.nearestSigned_of_fits fits]
    simp only [Int.mul_emod_left, fits, true_or]
  · rw [Word.nearestSigned_of_not_fits nonneg fits]
    simp only [fits, false_or, Bool.false_eq_true]

include order positive in
/-- All the steps of a span that fits a word come to no more than this span. -/
theorem staysOnGrid_of_fits (narrow : Word.fitsSigned (max.toInt - min.toInt) = true) :
    StaysOnGrid (stepCount min.toInt max.toInt step.toInt) step := by
  have wide : 0 < step.toInt := Int64.lt_iff_toInt_lt.1 positive
  obtain ⟨nonneg, inside⟩ := stepCount_mem (Int64.le_iff_toInt_le.1 order) wide
  have product : 0 ≤ stepCount min.toInt max.toInt step.toInt * step.toInt :=
    Int.mul_nonneg nonneg (Int.le_of_lt wide)
  refine .inl ?_
  rw [Word.fitsSigned_iff] at narrow ⊢
  omega

end

section

variable {minKey maxKey : String} {params : Params}

/-- The number of steps that is drawn for a range. -/
def drawnSteps (minKey maxKey : String) (params : Params) (s : Stream) : Int :=
  (between64 0 (stepCount (lowest params minKey).toInt (highest params maxKey).toInt
    (stepWidth params).toInt)).answer s

variable (order : lowest params minKey ≤ highest params maxKey) (positive : 0 < stepWidth params)

include order positive

theorem drawnSteps_mem (s : Stream) :
    0 ≤ drawnSteps minKey maxKey params s ∧
      drawnSteps minKey maxKey params s ≤ stepCount (lowest params minKey).toInt
        (highest params maxKey).toInt (stepWidth params).toInt :=
  steps_mem order positive s

/-- The largest number of steps can be drawn. -/
theorem exists_drawnSteps :
    ∃ s, drawnSteps minKey maxKey params s = stepCount (lowest params minKey).toInt
      (highest params maxKey).toInt (stepWidth params).toInt := by
  obtain ⟨nonneg, -⟩ := stepCount_mem (Int64.le_iff_toInt_le.1 order)
    (Int64.lt_iff_toInt_lt.1 positive)
  refine exists_between64 ?_ nonneg (Int.le_refl _)
  have word := Word.fitsSigned_iff.1 (Word.fitsSigned_nearestSigned
    (((highest params maxKey).toInt - (lowest params minKey).toInt) / (stepWidth params).toInt))
  rw [← stepCount] at word
  omega

/-- From each stream an integer is given, and it is on the grid exactly when the product of the
steps drawn is not cut off the grid. -/
theorem exists_onGrid_iff (id : String) (context : Context) (world : World) (s : Stream) :
    ∃ n, ((intRange id minKey maxKey).generate context params world s).outcome =
        .value (.int n) ∧
      (OnGrid (lowest params minKey) (stepWidth params) n ↔
        StaysOnGrid (drawnSteps minKey maxKey params s) (stepWidth params)) := by
  obtain ⟨least, most⟩ := drawnSteps_mem order positive s
  exact ⟨_, outcome_intRange id order positive, onGrid_stepped_iff order positive least most⟩

/-- All integers of a range are on the grid exactly when the largest product is not cut off it. -/
theorem forall_onGrid_iff (id : String) (context : Context) (world : World) :
    (∀ s n, ((intRange id minKey maxKey).generate context params world s).outcome =
        .value (.int n) → OnGrid (lowest params minKey) (stepWidth params) n) ↔
      StaysOnGrid (stepCount (lowest params minKey).toInt (highest params maxKey).toInt
        (stepWidth params).toInt) (stepWidth params) := by
  constructor
  · intro always
    obtain ⟨s, largest⟩ := exists_drawnSteps order positive
    obtain ⟨n, given, exactly⟩ := exists_onGrid_iff order positive id context world s
    rw [← largest]
    exact exactly.1 (always s n given)
  · intro stays s n given
    obtain ⟨m, given', exactly⟩ := exists_onGrid_iff order positive id context world s
    rw [given] at given'
    cases given'
    obtain ⟨least, most⟩ := drawnSteps_mem order positive s
    exact exactly.2 (stays.mono positive least most)

end

/-- A step is kept as far as a word reaches. What a range gives from a stream is on the grid of its
step exactly when the product of the steps drawn fits a word or the greatest word is a whole number
of steps; everything that it gives is, exactly when this holds of the largest number of steps, and so
always where the span of the range fits a word. -/
theorem step_is_kept_iff (id minKey maxKey : String) (context : Context) (params : Params)
    (world : World) (order : lowest params minKey ≤ highest params maxKey)
    (positive : 0 < stepWidth params) :
    (∀ s, ∃ n, ((intRange id minKey maxKey).generate context params world s).outcome =
        .value (.int n) ∧
      (OnGrid (lowest params minKey) (stepWidth params) n ↔
        StaysOnGrid (drawnSteps minKey maxKey params s) (stepWidth params))) ∧
    ((∀ s n, ((intRange id minKey maxKey).generate context params world s).outcome =
        .value (.int n) → OnGrid (lowest params minKey) (stepWidth params) n) ↔
      StaysOnGrid (stepCount (lowest params minKey).toInt (highest params maxKey).toInt
        (stepWidth params).toInt) (stepWidth params)) ∧
    (Word.fitsSigned ((highest params maxKey).toInt - (lowest params minKey).toInt) = true →
      ∀ s n, ((intRange id minKey maxKey).generate context params world s).outcome =
        .value (.int n) → OnGrid (lowest params minKey) (stepWidth params) n) := by
  refine ⟨exists_onGrid_iff order positive id context world,
    forall_onGrid_iff order positive id context world, fun narrow => ?_⟩
  exact (forall_onGrid_iff order positive id context world).2
    (staysOnGrid_of_fits order positive narrow)

/-- In the widest range with a step of two, everything given from the steps that fit is on the
grid. -/
theorem step_is_kept_iff_widest :
    let params : Params := [("min", .ofInt64 (-9223372036854775808)),
      ("max", .ofInt64 9223372036854775807), ("step", .ofInt64 2)]
    let outcome := fun s => ((intRange "random_int" "min" "max").generate
      ⟨.enUS, ⟨2024, 6, 1, by decide, by decide, by decide⟩⟩ params ⟨[], false⟩ s).outcome
    lowest params "min" ≤ highest params "max" ∧ 0 < stepWidth params ∧
      (∀ s, Word.fitsSigned (drawnSteps "min" "max" params s * 2) = true →
        ∃ n, outcome s = .value (.int n) ∧ OnGrid (-9223372036854775808) 2 n) ∧
      ¬ ∀ s n, outcome s = .value (.int n) → OnGrid (-9223372036854775808) 2 n := by
  intro params outcome
  have order : lowest params "min" ≤ highest params "max" := by decide
  have positive : 0 < stepWidth params := by decide
  obtain ⟨each, all, -⟩ := step_is_kept_iff "random_int" "min" "max"
    ⟨.enUS, ⟨2024, 6, 1, by decide, by decide, by decide⟩⟩ params ⟨[], false⟩ order positive
  refine ⟨order, positive, fun s fits => ?_, fun always => ?_⟩
  · obtain ⟨n, given, exactly⟩ := each s
    exact ⟨n, given, exactly.2 (.inl fits)⟩
  · exact absurd (all.1 always) (by decide)

/-- A step of two over the widest range leads from the least word, which is even, to minus one. -/
theorem wide_range_leaves_grid :
    let params : Params := [("min", .ofInt64 (-9223372036854775808)),
      ("max", .ofInt64 9223372036854775807), ("step", .ofInt64 2)]
    ((intRange "random_int" "min" "max").generate
        ⟨.enUS, ⟨2024, 6, 1, by decide, by decide, by decide⟩⟩ params ⟨[], false⟩
        (Stream.ofSeed 0)).outcome = .value (.int (-1)) ∧
      ¬ OnGrid (-9223372036854775808) 2 (-1) := by
  intro params
  have order : lowest params "min" ≤ highest params "max" := by decide
  have positive : 0 < stepWidth params := by decide
  have drawn : (between64 0 (stepCount (lowest params "min").toInt (highest params "max").toInt
      (stepWidth params).toInt)).answer (Stream.ofSeed 0) = 6540066358666534326 := by
    decide +kernel
  refine ⟨?_, by decide⟩
  rw [outcome_intRange "random_int" order positive, drawn]
  rfl

end Generator

end Fabricate
