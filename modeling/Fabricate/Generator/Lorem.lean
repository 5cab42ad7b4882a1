import Fabricate.Generator.Number
import Fabricate.Generator.Source
import Fabricate.Text.LowerCase

/-!
# Made-up prose

Words, sentences and paragraphs as a source has them, and texts of as many whole sentences as fit a
number of characters.
-/

namespace Fabricate.Generator

open Fabricate.Random

/-- Texts with a separator between them. -/
def joined (separator : List Char) (parts : List (List Char)) : List Char :=
  List.intercalate separator parts

/-- The number of characters when a sentence is added to so many of them, with a blank between. -/
def Sentence.sizeAfter (sentence : Sentence) (used : Nat) : Nat :=
  if used = 0 then sentence.text.length else used + 1 + sentence.text.length

/-- A sentence makes a text longer. -/
theorem Sentence.lt_sizeAfter (sentence : Sentence) (used : Nat) :
    used < sentence.sizeAfter used := by
  have := List.length_pos_iff.2 sentence.ne_nil
  unfold sizeAfter
  split <;> omega

/-- The sentences that fit into `max` characters with blanks between them, after `used` characters;
a first sentence that does not fit is cut. Every sentence makes the text longer, so one of them does
not fit in the end. -/
def fittingSentences (next : Draw Sentence) (max used : Nat) : Draw (List (List Char)) := do
  let sentence ← next
  if _full : max < sentence.sizeAfter used then
    return if used = 0 then [sentence.text.take max] else []
  else
    let rest ← fittingSentences next max (sentence.sizeAfter used)
    return sentence.text :: rest
termination_by max - used
decreasing_by
  have := sentence.lt_sizeAfter used
  omega

/-- Whole sentences of at most `max` characters in all. -/
def boundedText (next : Draw Sentence) (max : Nat) : Draw (List Char) := do
  return joined [' '] (← fittingSentences next max 0)

section

variable (source : TextSource)

/-- A word. -/
def word : Generator :=
  textGenerator "word" "lorem" (source.text .word)

/-- A list of words. -/
def words : Generator :=
  .ofProduce "words" "lorem" [⟨"nb", .int, false⟩] fun context params => do
    let n ← bounded params "nb" 3 1 1000
    return .list ((← repeated (source.text .word context.locale) n).map .text)

/-- A sentence of a number of words. -/
def sentence : Generator :=
  .ofProduce "sentence" "lorem" [⟨"nb_words", .int, false⟩] fun context params => do
    let n ← bounded params "nb_words" 6 1 1000
    return .text (String.ofList (← source.sentence n (n + 1) context.locale).text)

/-- A paragraph of a number of sentences. -/
def paragraph : Generator :=
  .ofProduce "paragraph" "lorem" [⟨"nb_sentences", .int, false⟩] fun context params => do
    let n ← bounded params "nb_sentences" 3 1 1000
    return .text (← source.paragraph n (n + 1) context.locale)

/-- Whole sentences up to a number of characters. -/
def text : Generator :=
  .ofProduce "text" "lorem" [⟨"max_nb_chars", .int, false⟩] fun context params => do
    let max ← bounded params "max_nb_chars" 200 5 100000
    return .text (String.ofList (← boundedText (source.sentence 3 10 context.locale) max))

/-- Three words in small letters with dashes between them. -/
def slug : Generator :=
  textGenerator "slug" "lorem" fun l => do
    let words ← repeated (source.text .word l) 3
    return String.ofList (joined ['-'] (words.map fun w => Text.lower w.toList))

end

end Fabricate.Generator
