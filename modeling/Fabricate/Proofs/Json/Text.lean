import Fabricate.Json.Printer
import Fabricate.Proofs.Decimal.Integer

/-!
# Texts without characters

No value is written as the empty text. For a double that is a fact about its layout: digits are
never missing, and the values that are no numbers have names.
-/

namespace Fabricate

namespace Decimal

theorem positionalText_ne_nil (keepsPoint : Bool) {digits : List Char} (some : digits ≠ [])
    (point : Int) : positionalText keepsPoint digits point ≠ [] := by
  unfold positionalText
  dsimp only
  split
  · simp
  · split <;> simp [some]

theorem exponentText_ne_nil (digits : List Char) (e : Int) : exponentText digits e ≠ [] := by
  unfold exponentText
  dsimp only
  split
  · simp
  · split <;> simp

theorem Layout.ofScaled_ne_nil (l : Layout) (s : Scaled) : l.ofScaled s ≠ [] := by
  unfold ofScaled
  dsimp only
  split
  · exact positionalText_ne_nil _ (ofNat_ne_nil _) _
  · exact exponentText_ne_nil _ _

theorem Layout.text_ne_nil {l : Layout} (notANumber : l.notANumber.toList ≠ [])
    (infinity : l.infinity.toList ≠ []) (x : Float) : l.text x ≠ [] := by
  unfold text
  dsimp only
  split
  · exact notANumber
  · refine List.append_ne_nil_of_right_ne_nil _ ?_
    split
    · exact infinity
    · split
      · exact List.cons_ne_nil _ _
      · exact l.ofScaled_ne_nil _

end Decimal

namespace Json

theorem Number.text_ne_nil (n : Number) : n.text ≠ [] := by
  cases n with
  | integer n =>
      rw [text]
      cases n.val with
      | ofNat m => exact Decimal.ofNat_ne_nil m
      | negSucc m => exact List.cons_ne_nil _ _
  | real x =>
      rw [text]
      split
      · exact Decimal.Layout.text_ne_nil (by decide) (by decide) x
      · decide

theorem Value.compact_ne_nil (v : Value) : v.compact ≠ [] := by
  cases v with
  | null => decide
  | bool b => cases b <;> decide
  | number n => exact n.text_ne_nil
  | string s => exact List.cons_ne_nil _ _
  | array items => exact List.cons_ne_nil _ _
  | object fields => exact List.cons_ne_nil _ _

theorem Value.render_ne_empty (v : Value) : v.render ≠ "" := by
  intro empty
  have none := congrArg String.toList empty
  rw [render, String.toList_ofList] at none
  exact v.compact_ne_nil none

end Json

end Fabricate
