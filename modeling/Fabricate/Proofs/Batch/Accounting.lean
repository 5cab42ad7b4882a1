import Mathlib.Data.List.Nodup
import Fabricate.Proofs.Batch.Items
import Fabricate.Proofs.Template.Detection

/-!
# The calls of a batch

Every item of a batch that succeeds makes the calls that the entries of its template stand for, and
so does every other item: the numbers do not depend on seeds or worlds. What a batch counts and what
it calls are therefore both the number of its items times `callsAsked`, however the items were
shared among workers and whatever the flag was in between.

The counts come from the items in order and the calls from the items as they were done; the two rows
of items are permutations of each other because no item is done twice.
-/

namespace Fabricate.Batch

open Json Template

section

variable {s : Setting} {heeded : Bool} {template : Value} {count : Nat} {seeds : Seeds}
  {schedule : List Nat} {world : World}

/-- While no item has failed, every item that was done made the same number of calls. -/
theorem calls_final (good : (final s heeded template count seeds schedule world).failed = false) :
    ∃ made, (final s heeded template count seeds schedule world).world.calls =
        made ++ world.calls ∧
      ∀ id, (made.countP fun c => c.generator = id) =
        (final s heeded template count seeds schedule world).done.length *
          callsAsked s template id := by
  revert good
  refine State.done_induction (P := fun done failed w => failed = false →
    ∃ made, w.calls = made ++ world.calls ∧ ∀ id, (made.countP fun c => c.generator = id) =
      done.length * callsAsked s template id) ?_ ?_ passes_final
  · intro done failed w n result later walked before good
    rw [Bool.or_eq_false_iff] at good
    obtain ⟨made, calls, number⟩ := before good.1
    cases result with
    | error f => cases good.2
    | ok filled =>
        obtain ⟨-, more, calls', number'⟩ := calls_of_walk walked
        refine ⟨more ++ made, by rw [calls', calls, List.append_assoc], fun id => ?_⟩
        rw [List.countP_append, number, number', List.length_cons, Nat.succ_mul, Nat.add_comm]
  · intro _
    exact ⟨[], rfl, fun id => (Nat.zero_mul _).symm⟩

theorem usage_final :
    ∀ d ∈ (final s heeded template count seeds schedule world).done, ∀ filled : Filled,
      d.2 = .ok filled → filled.usage.Counts (callsAsked s template) :=
  forall_done_of_walk fun _ _ _ _ walked => (calls_of_walk walked).1

/-- A batch that succeeds has done each item once, and none of them failed. -/
theorem length_done_of_ok {output : Output} {later : World}
    (h : generate s heeded template count seeds schedule world = (.ok output, later)) :
    (final s heeded template count seeds schedule world).done.length = count ∧
      (final s heeded template count seeds schedule world).failed = false := by
  obtain ⟨positive, -, fs, length, -, done⟩ := done_of_ok h
  have result : ∀ i < count, ∃ f : Filled,
      (i, .ok f) ∈ (final s heeded template count seeds schedule world).done := by
    intro i inside
    have bound : i < fs.length := length ▸ inside
    exact ⟨fs[i], done i _ (List.getElem?_eq_getElem bound)⟩
  -- No item is done twice, so those that were done are the items of the batch in some order.
  have perm : ((final s heeded template count seeds schedule world).done.map Prod.fst).Perm
      (List.range count) := by
    refine (done_final_subperm positive).antisymm (List.nodup_range.subperm fun i inside => ?_)
    obtain ⟨f, here⟩ := result i (List.mem_range.1 inside)
    exact List.mem_map_of_mem here
  constructor
  · simpa using perm.length_eq
  · rw [failed_eq_any passes_final, List.any_eq_false]
    intro d member
    obtain ⟨f, here⟩ := result d.1 (List.mem_range.1 (perm.mem_iff.1 (List.mem_map_of_mem member)))
    have same : d = (d.1, .ok f) :=
      List.inj_on_of_nodup_map (perm.nodup_iff.2 List.nodup_range) member here rfl
    rw [same]
    simp [Except.isOk, Except.toBool]

end

/-- A batch that succeeds counts for every generator the calls that were made of it: for each item,
one for every element of an array and one for every other placeholder whose name stands for it. -/
theorem usage_counts_calls (s : Setting) (heeded : Bool) (template : Value) (count : Nat)
    (seeds : Seeds) (schedule : List Nat) (world later : World) (output : Output)
    (h : generate s heeded template count seeds schedule world = (.ok output, later)) :
    (output.usage.Counts fun id => count * callsAsked s template id) ∧
      ∃ made, later.calls = made ++ world.calls ∧
        ∀ id, (made.countP fun c => c.generator = id) = count * callsAsked s template id := by
  obtain ⟨-, rfl, fs, length, rfl, done⟩ := done_of_ok h
  obtain ⟨number, good⟩ := length_done_of_ok h
  constructor
  · have counted : ∀ u ∈ fs.map Filled.usage, u.Counts (callsAsked s template) := by
      intro u member
      obtain ⟨f, here, rfl⟩ := List.mem_map.1 member
      obtain ⟨i, at_i⟩ := List.getElem?_of_mem here
      exact usage_final _ (done i f at_i) f rfl
    have sum := Usage.counts_foldr_add counted
    rwa [List.length_map, length] at sum
  · have calls := calls_final good
    rwa [number] at calls

/-- Two workers share four items of one plain name, one dotted name, a text with two placeholders
and an array. -/
theorem usage_counts_calls_constant :
    let s : Setting := { Setting.constant "n" [] (.int 5) with options := .standard 2 }
    let template : Value := .object
      [("a", .string "\x7b\x7bn\x7d\x7d"), ("b", .string "\x7b\x7bx.n\x7d\x7d \x7b\x7bN\x7d\x7d"),
        ("c", .string "\x7b\x7b[n]:count=3\x7d\x7d")]
    ∃ output later,
      generate s true template 4 ⟨some 7, fun _ => 0⟩ [1, 0, 1] ⟨[], false⟩ = (.ok output, later) ∧
        callsAsked s template "n" = 6 ∧
        (output.usage.Counts fun id => 4 * callsAsked s template id) ∧
        ∃ made, later.calls = made ++ [] ∧
          ∀ id, (made.countP fun c => c.generator = id) = 4 * callsAsked s template id := by
  intro s template
  have succeeds : (generate s true template 4 ⟨some 7, fun _ => 0⟩ [1, 0, 1]
      ⟨[], false⟩).1.isOk = true := by
    decide +kernel
  cases result : generate s true template 4 ⟨some 7, fun _ => 0⟩ [1, 0, 1] ⟨[], false⟩ with
  | mk outcome later =>
      rw [result] at succeeds
      cases outcome with
      | error f => cases succeeds
      | ok output =>
          have asked : callsAsked s template "n" = 6 := by
            rw [callsAsked, fields_check]
            decide +kernel
          exact ⟨output, later, rfl, asked,
            usage_counts_calls s true template 4 _ _ ⟨[], false⟩ later output result⟩

end Fabricate.Batch
