import Mathlib.Order.Bounds.Defs
import Fabricate.Name.EditDistance

/-!
# The edit distance is least

An edit inserts, deletes or replaces one character (`Edit`), and the distance of two texts is the
length of a shortest row of edits from one to the other (`distance_isLeast`).

Between the rows of numbers and the rows of edits stands `cost`, the recursion on the first
characters of both texts. A row holds the costs to all prefixes. It is filled from the left, so the
recursion meets the characters from the last one on, and the costs in it are those of the texts read
backwards (`extendRow_costs`). No edit changes a cost by more than one (`cost_le_of_edit`), so no
row of edits is shorter than the cost, and the recursion itself says which edits reach it.
-/

namespace Fabricate.Name

/-! ### Edits -/

/-- One character inserted, deleted or replaced. -/
inductive Edit : List Char → List Char → Prop
  | insert (before after : List Char) (c : Char) : Edit (before ++ after) (before ++ c :: after)
  | delete (before after : List Char) (c : Char) : Edit (before ++ c :: after) (before ++ after)
  | replace (before after : List Char) (c d : Char) :
      Edit (before ++ c :: after) (before ++ d :: after)

/-- A row of so many edits, one after the other. -/
inductive Edits : Nat → List Char → List Char → Prop
  | refl (as : List Char) : Edits 0 as as
  | step {n : Nat} {as bs cs : List Char} : Edit as bs → Edits n bs cs → Edits (n + 1) as cs

theorem Edit.cons {as bs : List Char} (h : Edit as bs) (x : Char) : Edit (x :: as) (x :: bs) := by
  cases h with
  | insert before after c => exact .insert (x :: before) after c
  | delete before after c => exact .delete (x :: before) after c
  | replace before after c d => exact .replace (x :: before) after c d

theorem Edit.reverse {as bs : List Char} (h : Edit as bs) : Edit as.reverse bs.reverse := by
  cases h with
  | insert before after c => simpa using Edit.insert after.reverse before.reverse c
  | delete before after c => simpa using Edit.delete after.reverse before.reverse c
  | replace before after c d => simpa using Edit.replace after.reverse before.reverse c d

theorem Edits.cons {n : Nat} {as bs : List Char} (h : Edits n as bs) (x : Char) :
    Edits n (x :: as) (x :: bs) := by
  induction h with
  | refl as => exact .refl (x :: as)
  | step edit _ ih => exact .step (edit.cons x) ih

theorem Edits.reverse {n : Nat} {as bs : List Char} (h : Edits n as bs) :
    Edits n as.reverse bs.reverse := by
  induction h with
  | refl as => exact .refl as.reverse
  | step edit _ ih => exact .step edit.reverse ih

theorem edits_reverse_iff {n : Nat} {as bs : List Char} :
    Edits n as.reverse bs.reverse ↔ Edits n as bs := by
  refine ⟨fun h => ?_, Edits.reverse⟩
  have back := h.reverse
  rwa [List.reverse_reverse, List.reverse_reverse] at back

/-- A last edit after the others. -/
theorem Edits.concat {n : Nat} {as bs cs : List Char} (h : Edits n as bs) (edit : Edit bs cs) :
    Edits (n + 1) as cs := by
  induction h with
  | refl as => exact .step edit (.refl cs)
  | step first _ ih => exact .step first (ih edit)

/-- Of two rows of edits the shorter one. -/
theorem Edits.min {m n : Nat} {as bs : List Char} (h : Edits m as bs) (h' : Edits n as bs) :
    Edits (min m n) as bs := by
  rcases Nat.le_total m n with fewer | more
  · rwa [Nat.min_eq_left fewer]
  · rwa [Nat.min_eq_right more]

/-! ### Costs -/

/-- The least number of edits, found from the first characters on: they are matched, or the first
one of either text has no match. -/
def cost : List Char → List Char → Nat
  | [], bs => bs.length
  | c :: as, [] => (c :: as).length
  | c :: as, d :: bs =>
      min (min (cost as bs + if c = d then 0 else 1) (cost as (d :: bs) + 1))
        (cost (c :: as) bs + 1)
termination_by as bs => as.length + bs.length

theorem cost_nil_left (bs : List Char) : cost [] bs = bs.length := by
  rw [cost]

theorem cost_nil_right (as : List Char) : cost as [] = as.length := by
  cases as with
  | nil => rw [cost]
  | cons c as => rw [cost]

theorem cost_cons_cons (c d : Char) (as bs : List Char) :
    cost (c :: as) (d :: bs) =
      min (min (cost as bs + if c = d then 0 else 1) (cost as (d :: bs) + 1))
        (cost (c :: as) bs + 1) := by
  rw [cost]

/-- The edits that the recursion chooses. -/
theorem edits_cost (as bs : List Char) : Edits (cost as bs) as bs := by
  fun_induction cost as bs with
  | case1 bs =>
      induction bs with
      | nil => exact .refl []
      | cons d bs ih => exact ih.concat (.insert [] bs d)
  | case2 c as =>
      induction as generalizing c with
      | nil => exact .step (.delete [] [] c) (.refl [])
      | cons c' as ih => exact .step (.delete [] (c' :: as) c) (ih c')
  | case3 c as d bs matched deleted inserted =>
      have replace : Edits (cost as bs + if c = d then 0 else 1) (c :: as) (d :: bs) := by
        split
        · next same => exact same ▸ matched.cons c
        · exact .step (.replace [] as c d) (matched.cons d)
      have delete : Edits (cost as (d :: bs) + 1) (c :: as) (d :: bs) :=
        .step (.delete [] as c) deleted
      have insert : Edits (cost (c :: as) bs + 1) (c :: as) (d :: bs) :=
        inserted.concat (.insert [] bs d)
      exact (replace.min delete).min insert

/-! ### No edit saves more than one -/

theorem cost_self (as : List Char) : cost as as = 0 := by
  induction as with
  | nil => exact cost_nil_left []
  | cons c as ih =>
      rw [cost_cons_cons, ih, if_pos rfl]
      omega

theorem cost_cons_left_le (c : Char) (as bs : List Char) :
    cost (c :: as) bs ≤ cost as bs + 1 := by
  cases bs with
  | nil => exact Nat.le_of_eq (by rw [cost_nil_right, cost_nil_right, List.length_cons])
  | cons d bs =>
      rw [cost_cons_cons]
      omega

theorem cost_cons_right_le (as : List Char) (d : Char) (bs : List Char) :
    cost as (d :: bs) ≤ cost as bs + 1 := by
  cases as with
  | nil => exact Nat.le_of_eq (by rw [cost_nil_left, cost_nil_left, List.length_cons])
  | cons c as =>
      rw [cost_cons_cons]
      omega

theorem cost_le_cons_left (c : Char) (as bs : List Char) :
    cost as bs ≤ cost (c :: as) bs + 1 := by
  induction bs with
  | nil =>
      rw [cost_nil_right, cost_nil_right, List.length_cons]
      omega
  | cons d bs ih =>
      have := cost_cons_right_le as d bs
      rw [cost_cons_cons]
      omega

theorem cost_replace_le (c d : Char) (as bs : List Char) :
    cost (c :: as) bs ≤ cost (d :: as) bs + 1 := by
  induction bs with
  | nil =>
      rw [cost_nil_right, cost_nil_right, List.length_cons, List.length_cons]
      omega
  | cons e bs ih =>
      rw [cost_cons_cons, cost_cons_cons]
      split <;> split <;> omega

/-- What holds of the costs of two texts holds behind one more character. -/
theorem cost_cons_le {as as' : List Char} (h : ∀ bs, cost as bs ≤ cost as' bs + 1) (c : Char)
    (bs : List Char) : cost (c :: as) bs ≤ cost (c :: as') bs + 1 := by
  induction bs with
  | nil =>
      have := h []
      rw [cost_nil_right, cost_nil_right] at this ⊢
      rw [List.length_cons, List.length_cons]
      omega
  | cons d bs ih =>
      have := h bs
      have := h (d :: bs)
      rw [cost_cons_cons, cost_cons_cons]
      omega

theorem cost_append_le {as as' : List Char} (h : ∀ bs, cost as bs ≤ cost as' bs + 1)
    (before bs : List Char) : cost (before ++ as) bs ≤ cost (before ++ as') bs + 1 := by
  induction before generalizing bs with
  | nil => exact h bs
  | cons c before ih => exact cost_cons_le ih c bs

theorem cost_le_of_edit {as as' : List Char} (h : Edit as as') (bs : List Char) :
    cost as bs ≤ cost as' bs + 1 := by
  cases h with
  | insert before after c => exact cost_append_le (cost_le_cons_left c after) before bs
  | delete before after c => exact cost_append_le (cost_cons_left_le c after) before bs
  | replace before after c d => exact cost_append_le (cost_replace_le c d after) before bs

theorem cost_le_of_edits {n : Nat} {as bs : List Char} (h : Edits n as bs) : cost as bs ≤ n := by
  induction h with
  | refl as => exact Nat.le_of_eq (cost_self as)
  | @step n as bs cs edit _ ih => exact Nat.le_trans (cost_le_of_edit edit cs) (Nat.succ_le_succ ih)

/-! ### Rows -/

/-- The costs of a text to the prefixes of another one, both read backwards: to what was already
read of it, and to each longer prefix. -/
def costs (as before : List Char) : List Char → List Nat
  | [] => [cost as before]
  | d :: ds => cost as before :: costs as (d :: before) ds

theorem costs_eq_cons (as before ds : List Char) :
    costs as before ds = cost as before :: (costs as before ds).tail := by
  cases ds <;> rfl

/-- One more character of the text extends the row by its costs. -/
theorem extendRow_costs (c : Char) (as before ds : List Char) :
    extendRow c (cost (c :: as) before) ds (costs as before ds) =
      (costs (c :: as) before ds).tail := by
  induction ds generalizing before with
  | nil => rfl
  | cons d ds ih =>
      rw [costs, costs_eq_cons as (d :: before), extendRow, ← cost_cons_cons, ← costs_eq_cons,
        ih (d :: before), costs, List.tail_cons, ← costs_eq_cons]

theorem nextRow_costs (c : Char) (as ds : List Char) :
    nextRow ds (costs as [] ds) c = costs (c :: as) [] ds := by
  have corner : cost as [] + 1 = cost (c :: as) [] := by
    rw [cost_nil_right, cost_nil_right, List.length_cons]
  rw [costs_eq_cons as, nextRow, corner, ← costs_eq_cons, extendRow_costs, ← costs_eq_cons]

theorem range_eq_costs (before ds : List Char) :
    List.range' before.length (ds.length + 1) = costs [] before ds := by
  induction ds generalizing before with
  | nil => rw [costs, cost_nil_left, List.length_nil, List.range'_one]
  | cons d ds ih =>
      rw [costs, cost_nil_left, ← ih (d :: before), List.length_cons, List.length_cons,
        List.range'_succ]

theorem foldl_nextRow_costs (cs as ds : List Char) :
    cs.foldl (nextRow ds) (costs as [] ds) = costs (cs.reverse ++ as) [] ds := by
  induction cs generalizing as with
  | nil => rfl
  | cons c cs ih =>
      rw [List.foldl_cons, nextRow_costs, ih, List.reverse_cons, List.append_assoc,
        List.singleton_append]

theorem getLast?_costs (as before ds : List Char) :
    (costs as before ds).getLast? = some (cost as (ds.reverse ++ before)) := by
  induction ds generalizing before with
  | nil => rfl
  | cons d ds ih =>
      rw [costs, costs_eq_cons as (d :: before), List.getLast?_cons_cons, ← costs_eq_cons, ih,
        List.reverse_cons, List.append_assoc, List.singleton_append]

/-- The distance is the cost of the texts read backwards. -/
theorem distance_eq_cost (cs ds : List Char) : distance cs ds = cost cs.reverse ds.reverse := by
  have start : List.range (ds.length + 1) = costs [] [] ds := by
    rw [List.range_eq_range']
    exact range_eq_costs [] ds
  rw [distance, distanceRow, start, foldl_nextRow_costs, List.getLastD_eq_getLast?, getLast?_costs,
    List.append_nil, List.append_nil]
  rfl

/-- The distance of two texts is the least number of edits that turn one into the other. -/
theorem distance_isLeast (a b : String) :
    IsLeast {n | Edits n a.toList b.toList} (distance a.toList b.toList) := by
  rw [distance_eq_cost]
  constructor
  · exact edits_reverse_iff.1 (edits_cost _ _)
  · intro n edits
    exact cost_le_of_edits edits.reverse

example : distance "kitten".toList "sitting".toList = 3 := by decide

end Fabricate.Name
