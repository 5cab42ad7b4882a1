import Mathlib.Order.Bounds.Basic
import Mathlib.Order.WellFounded
import Fabricate.Generator.Lorem
import Fabricate.Proofs.Generator.Produce

/-!
# Texts of whole sentences

A text is made of the sentences that are drawn one after another, with a blank between any two of
them. It gets longer with every sentence (`strictMono_rowSize`), and a sentence is added as long as
the text then fits, so what is made of the sentences is the longest of these texts that fits
(`exists_run_fittingSentences`). Since the length grows at least by one with each of them, no more
sentences are drawn than there is room for characters, and one more that no longer fits.
-/

namespace Fabricate.Generator

open Fabricate.Random

variable (next : Draw Sentence) (s : Stream)

/-- The text of the first sentences that are drawn, with blanks between them. -/
def rowText (n : Nat) : List Char :=
  joined [' '] (((repeated next n).answer s).map Sentence.text)

/-- The number of characters when the first sentences that are drawn are added to so many. -/
def rowSize (used n : Nat) : Nat :=
  ((repeated next n).answer s).foldl (fun used sentence => sentence.sizeAfter used) used

/-- The stream behind the first sentences that are drawn. -/
def behind (n : Nat) : Stream :=
  ((repeated next n).run s).2

theorem rowSize_succ (used n : Nat) :
    rowSize next s used (n + 1) =
      rowSize next (next.run s).2 ((next.answer s).sizeAfter used) n := rfl

/-! ### Lengths -/

/-- Two texts and the blank between them are one text among the others. -/
theorem joined_cons_cons (p q : List Char) (rest : List (List Char)) :
    joined [' '] (p :: q :: rest) = joined [' '] ((p ++ ' ' :: q) :: rest) := by
  unfold joined
  cases rest with
  | nil => simp [List.intercalate_cons_cons]
  | cons r rest => simp [List.intercalate_cons_cons]

theorem length_joined (first : Sentence) (sentences : List Sentence) :
    (joined [' '] (first.text :: sentences.map Sentence.text)).length =
      sentences.foldl (fun used sentence => sentence.sizeAfter used) first.text.length := by
  induction sentences generalizing first with
  | nil => simp [joined]
  | cons sentence sentences ih =>
      have merged : first.text ++ ' ' :: sentence.text ≠ [] := by simp
      have grown : sentence.sizeAfter first.text.length =
          (first.text ++ ' ' :: sentence.text).length := by
        rw [Sentence.sizeAfter, if_neg (mt List.length_eq_zero_iff.1 first.ne_nil)]
        rw [List.length_append, List.length_cons]
        omega
      rw [List.map_cons, joined_cons_cons, List.foldl_cons, grown]
      exact ih ⟨_, merged⟩

/-- The characters that are counted are those of the text. -/
theorem length_rowText (n : Nat) : (rowText next s n).length = rowSize next s 0 n := by
  cases n with
  | zero => rfl
  | succ n => exact length_joined _ _

theorem strictMono_rowSize (used : Nat) : StrictMono (rowSize next s used) := by
  refine strictMono_nat_of_lt_succ fun n => ?_
  induction n generalizing s used with
  | zero => exact (next.answer s).lt_sizeAfter used
  | succ n ih =>
      rw [rowSize_succ, rowSize_succ]
      exact ih _ _

/-! ### Runs -/

theorem run_fittingSentences (max used : Nat) :
    (fittingSentences next max used).run s =
      if max < (next.answer s).sizeAfter used then
        (if used = 0 then [(next.answer s).text.take max] else [], behind next s 1)
      else
        let (rest, t) := (fittingSentences next max ((next.answer s).sizeAfter used)).run
          (next.run s).2
        ((next.answer s).text :: rest, t) := by
  cases drawn : next.run s with
  | mk sentence t =>
      have value : next.answer s = sentence := congrArg Prod.fst drawn
      have left : behind next s 1 = t := congrArg Prod.snd drawn
      rw [fittingSentences, Draw.run_bind drawn, value, left]
      by_cases full : max < sentence.sizeAfter used
      · rw [dif_pos full, if_pos full]
        rfl
      · rw [dif_neg full, if_neg full]
        rfl

/-- Unless the very first sentence does not fit, sentences are taken while they fit, and one more is
drawn. -/
theorem exists_run_fittingSentences {max used : Nat} (fits : used ≤ max)
    (first : used = 0 → (next.answer s).text.length ≤ max) :
    ∃ n, (fittingSentences next max used).run s =
        (((repeated next n).answer s).map Sentence.text, behind next s (n + 1)) ∧
      rowSize next s used n ≤ max ∧ max < rowSize next s used (n + 1) := by
  induction left : max - used using Nat.strongRecOn generalizing used s with
  | ind left ih =>
      rw [run_fittingSentences]
      by_cases full : max < (next.answer s).sizeAfter used
      · have some : used ≠ 0 := by
          rintro rfl
          exact Nat.not_lt.2 (first rfl) full
        rw [if_pos full, if_neg some]
        exact ⟨0, rfl, fits, full⟩
      · have longer := (next.answer s).lt_sizeAfter used
        obtain ⟨n, ran, below, above⟩ := ih (max - (next.answer s).sizeAfter used) (by omega)
          (next.run s).2 (Nat.not_lt.1 full) (fun none => by omega) rfl
        rw [if_neg full, ran]
        exact ⟨n + 1, rfl, below, above⟩

theorem run_boundedText (max : Nat) :
    (boundedText next max).run s =
      let (sentences, t) := (fittingSentences next max 0).run s
      (joined [' '] sentences, t) := rfl

/-- What a text of at most `max` characters can be, and the number of sentences that are drawn for
it: the longest row of whole sentences that fits, or the beginning of a first sentence that does not
fit. -/
inductive Fills (max : Nat) : List Char → Nat → Prop
  | whole {n : Nat} (some : 0 < n) (longest : IsGreatest {n | (rowText next s n).length ≤ max} n) :
      Fills max (rowText next s n) (n + 1)
  | cut (long : max < (next.answer s).text.length) : Fills max ((next.answer s).text.take max) 1

theorem exists_run_boundedText (max : Nat) :
    ∃ text reads, (boundedText next max).run s = (text, behind next s reads) ∧
      Fills next s max text reads := by
  rw [run_boundedText]
  by_cases first : (next.answer s).text.length ≤ max
  · obtain ⟨n, ran, below, above⟩ := exists_run_fittingSentences next s (Nat.zero_le max)
      fun _ => first
    have grows := strictMono_rowSize next s 0
    have alone : rowSize next s 0 1 ≤ max := first
    rw [ran]
    refine ⟨rowText next s n, n + 1, rfl, .whole ?_ ⟨?_, fun k fits => ?_⟩⟩
    · exact Nat.lt_of_succ_lt_succ (grows.lt_iff_lt.1 (alone.trans_lt above))
    · exact (length_rowText next s n).trans_le below
    · have fits : (rowText next s k).length ≤ max := fits
      rw [length_rowText] at fits
      exact Nat.le_of_lt_succ (grows.lt_iff_lt.1 (fits.trans_lt above))
  · have full : max < (next.answer s).sizeAfter 0 := Nat.lt_of_not_le first
    rw [run_fittingSentences, if_pos full, if_pos rfl]
    exact ⟨(next.answer s).text.take max, 1, by simp [joined], .cut full⟩

variable {next s}

theorem Fills.length_mem {max reads : Nat} {text : List Char} (h : Fills next s max text reads)
    (positive : 0 < max) : 0 < text.length ∧ text.length ≤ max := by
  cases h with
  | whole some longest =>
      refine ⟨some.trans_le ?_, longest.1⟩
      rw [length_rowText]
      exact (strictMono_rowSize next s 0).le_apply
  | cut long =>
      rw [List.length_take]
      omega

/-- Every sentence takes a character at least. -/
theorem Fills.reads_le {max reads : Nat} {text : List Char} (h : Fills next s max text reads) :
    reads ≤ max + 1 := by
  cases h with
  | whole some longest =>
      have short := longest.1
      rw [Set.mem_ofPred_eq, length_rowText] at short
      exact Nat.succ_le_succ ((strictMono_rowSize next s 0).le_apply.trans short)
  | cut long => omega

theorem length_answer_boundedText (next : Draw Sentence) {max : Nat} (positive : 0 < max)
    (s : Stream) : 0 < ((boundedText next max).answer s).length ∧
      ((boundedText next max).answer s).length ≤ max := by
  obtain ⟨text, reads, ran, fills⟩ := exists_run_boundedText next s max
  rw [Draw.answer, ran]
  exact fills.length_mem positive

/-- The number of characters that a text is asked to keep to. -/
def maxChars (params : Params) : Int :=
  ((params.int? "max_nb_chars").map Int64.toInt).getD 200

/-- A text has a character at least and keeps to the number that is asked for. -/
theorem answers_text (source : TextSource) (context : Context) (params : Params) (world : World)
    (s : Stream) :
    Answers (maxChars params < 5 ∨ 100000 < maxChars params)
      (fun v => ∃ t : String, v = .text t ∧ 0 < t.length ∧ t.length ≤ maxChars params)
      ((text source).generate context params world s).outcome := by
  let sentences := source.sentence 3 10 context.locale
  by_cases fits : 5 ≤ maxChars params ∧ maxChars params ≤ 100000
  · obtain ⟨max, asked⟩ := Int.eq_ofNat_of_zero_le (show 0 ≤ maxChars params by omega)
    have counted : bounded params "max_nb_chars" 200 5 100000 = pure max :=
      bounded_of_mem asked (by omega) (by omega)
    have outcome : ((text source).generate context params world s).outcome =
        .value (.text (String.ofList ((boundedText sentences max).answer s))) := by
      refine outcome_of_answer_ok ?_ world
      rw [counted, pure_bind]
      exact answer_map (answer_lift _ s) _
    obtain ⟨some, short⟩ := @length_answer_boundedText sentences max (by omega) s
    rw [outcome]
    refine .of_value (by omega) ⟨_, rfl, ?_⟩
    rw [String.length_ofList]
    omega
  · obtain ⟨reason, refused⟩ : ∃ reason, bounded params "max_nb_chars" 200 5 100000 =
        refuse reason := ⟨_, bounded_of_notMem fits⟩
    have outcome : ((text source).generate context params world s).outcome =
        .refused (.constraint reason) := by
      refine outcome_of_answer_error ?_ world
      rw [refused]
      rfl
    rw [outcome]
    exact .of_refused (by omega)

/-- Sentences are drawn until one does not fit, which is after as many as there is room for
characters at the latest. The text is the longest row of whole sentences that fits, or the beginning
of a first sentence that does not. -/
theorem bounded_text_is_longest (next : Draw Sentence) {max : Nat} (positive : 0 < max)
    (s : Stream) :
    ∃ text reads, (boundedText next max).run s = (text, behind next s reads) ∧ reads ≤ max + 1 ∧
      0 < text.length ∧ text.length ≤ max ∧ Fills next s max text reads := by
  obtain ⟨text, reads, ran, fills⟩ := exists_run_boundedText next s max
  obtain ⟨some, short⟩ := fills.length_mem positive
  exact ⟨text, reads, ran, fills.reads_le, some, short, fills⟩

/-- Sentences of three characters in a text of nine at most. -/
theorem bounded_text_is_longest_nine :
    let next : Draw Sentence := fun s =>
      (⟨['a', 'b', '.'], by decide⟩, { s with used := s.used + 1 })
    let s : Stream := ⟨fun _ => 0, 0⟩
    0 < 9 ∧ ∃ text reads, (boundedText next 9).run s = (text, behind next s reads) ∧ reads ≤ 10 ∧
      0 < text.length ∧ text.length ≤ 9 ∧ Fills next s 9 text reads := by
  intro next s
  have positive : 0 < 9 := by decide
  exact ⟨positive, bounded_text_is_longest next positive s⟩

end Fabricate.Generator
