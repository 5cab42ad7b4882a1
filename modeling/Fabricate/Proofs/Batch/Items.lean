import Mathlib.Data.List.Perm.Subperm
import Mathlib.Data.Nat.Find
import Mathlib.Data.Set.List
import Fabricate.Proofs.Batch.Turn

/-!
# The items of a batch

The items that are done and those that the workers still have before them are the items of a state.
A turn moves an item from the ones to the others; only a worker that leaves its run drops items, and
it does so only when the work is to stop (`Turns.items`). At the start the runs of the workers make
up the whole batch (`items_start`), so no item is ever done twice, and when nothing stops the work
every item is done in the end.

The outcome of a batch is read off the items in order: the documents of all of them, or the failure
of the first one that failed.
-/

namespace Fabricate.Batch

open Json Template

/-- The items that a worker has before it. -/
def Worker.left (w : Worker) : List Nat :=
  match w.task with
  | .take n => List.range' n (w.stop - n)
  | .finish n => n :: List.range' (n + 1) (w.stop - (n + 1))
  | .stopped => []

/-- The items that are done and those that are left. -/
def State.items (b : State) : List Nat :=
  b.done.map Prod.fst ++ b.workers.flatMap Worker.left

theorem Worker.left_finish {stop n : Nat} (inside : n < stop) :
    left ⟨stop, .finish n⟩ = left ⟨stop, .take n⟩ := by
  have length : stop - n = stop - (n + 1) + 1 := by omega
  simp [left, length, List.range'_succ]

/-- A row of rows in which one entry is replaced. -/
theorem exists_perm_flatMap_set {α β : Type} {g : α → List β} {as : List α} {i : Nat} {a : α}
    (here : as[i]? = some a) (a' : α) :
    ∃ rest, (as.flatMap g).Perm (g a ++ rest) ∧ ((as.set i a').flatMap g).Perm (g a' ++ rest) := by
  obtain ⟨inside, same⟩ := List.getElem?_eq_some_iff.1 here
  obtain ⟨before, after, parts, -, set⟩ := List.exists_of_set inside
  rw [same] at parts
  refine ⟨before.flatMap g ++ after.flatMap g, ?_, ?_⟩
  · rw [parts, List.flatMap_append, List.flatMap_cons]
    exact List.perm_append_comm_assoc _ _ _
  · rw [set, List.flatMap_append, List.flatMap_cons]
    exact List.perm_append_comm_assoc _ _ _

/-- A turn adds no item, and it drops none unless the work is to stop. -/
theorem Turns.items {s : Setting} {heeded : Bool} {template : Value} {seeds : Seeds}
    {b b' : State} {i : Nat} (h : Turns s heeded template seeds b i b') :
    b'.items.Subperm b.items ∧ (b.halted heeded = false → b'.items.Perm b.items) := by
  suffices b'.items.Perm b.items ∨ b.halted heeded = true ∧ b'.items.Subperm b.items by
    rcases this with same | ⟨halted, fewer⟩
    · exact ⟨same.subperm, fun _ => same⟩
    · exact ⟨fewer, fun running => by simp [running] at halted⟩
  cases h with
  | idle _ => exact .inl (.refl _)
  | start here inside _ =>
      obtain ⟨rest, old, new⟩ := exists_perm_flatMap_set (g := Worker.left) here ⟨_, .finish _⟩
      rw [Worker.left_finish inside] at new
      exact .inl ((new.trans old.symm).append_left _)
  | @leave stop n here wait =>
      obtain ⟨rest, old, new⟩ := exists_perm_flatMap_set (g := Worker.left) here ⟨stop, .stopped⟩
      change (List.flatMap _ _).Perm rest at new
      rcases wait with past | halted
      · have nothing : Worker.left ⟨stop, .take n⟩ = [] := by
          simp [Worker.left, Nat.sub_eq_zero_of_le past]
        rw [nothing] at old
        exact .inl ((new.trans old.symm).append_left _)
      · refine .inr ⟨halted, ?_⟩
        rw [State.items, State.items, List.subperm_append_left]
        exact new.subperm.trans ((List.sublist_append_right _ _).subperm.trans old.symm.subperm)
  | @finish stop n result later here _ =>
      obtain ⟨rest, old, new⟩ :=
        exists_perm_flatMap_set (g := Worker.left) here ⟨stop, .take (n + 1)⟩
      change (b.workers.flatMap Worker.left).Perm (n :: _) at old
      refine .inl ?_
      rw [State.items, State.items, List.map_cons, List.cons_append]
      exact ((new.append_left _).cons n).trans
        (List.perm_middle.symm.trans (old.symm.append_left _))

/-! ### The start -/

/-- Runs of the same length, one after the other, make up a row. -/
theorem flatMap_runs (count size m : Nat) :
    (((List.range m).filter fun i => i * size < count).flatMap fun i =>
        List.range' (i * size) (min count ((i + 1) * size) - i * size)) =
      List.range (min count (m * size)) := by
  induction m with
  | zero => simp
  | succ m ih =>
      have step : (m + 1) * size = m * size + size := Nat.succ_mul m size
      rw [List.range_succ, List.filter_append, List.flatMap_append, ih]
      -- The last run is cut off at the end of the row, or there is nothing left for it.
      by_cases inside : m * size < count
      · have low : min count (m * size) = m * size := by omega
        have joined := @List.range'_append 0 (m * size)
          (min count ((m + 1) * size) - m * size) 1
        have length : m * size + (min count ((m + 1) * size) - m * size) =
            min count ((m + 1) * size) := by omega
        rw [Nat.zero_add, Nat.one_mul, length] at joined
        simpa [inside, low, List.range_eq_range'] using joined
      · have low : min count (m * size) = count := by omega
        have high : min count ((m + 1) * size) = count := by omega
        simp [inside, low, high]

theorem workerCount_pos (concurrency : Nat) {count : Nat} (positive : 0 < count) :
    0 < workerCount concurrency count := by
  unfold workerCount
  omega

/-- As many runs as there are workers are enough for the batch. -/
theorem le_mul_runLength (count : Nat) {workers : Nat} (positive : 0 < workers) :
    count ≤ workers * runLength count workers := by
  have parts := Nat.div_add_mod (count + workers - 1) workers
  have rest := Nat.mod_lt (count + workers - 1) positive
  unfold runLength
  omega

theorem flatMap_startWorkers (count : Nat) {workers : Nat} (positive : 0 < workers) :
    (startWorkers count workers).flatMap Worker.left = List.range count := by
  have enough := le_mul_runLength count positive
  have runs := flatMap_runs count (runLength count workers) workers
  rw [Nat.min_eq_left enough] at runs
  rw [← runs, startWorkers, List.flatMap_map]
  rfl

theorem bounded_startWorkers (count workers : Nat) (world : World) :
    State.Bounded count ⟨[], false, startWorkers count workers, world⟩ := by
  intro i w here
  have member := List.mem_of_getElem? here
  dsimp only [startWorkers] at member
  obtain ⟨k, -, rfl⟩ := List.mem_map.1 member
  exact Nat.min_le_left _ _

/-! ### Final states -/

section

variable {s : Setting} {heeded : Bool} {template : Value} {count : Nat} {seeds : Seeds}
  {schedule : List Nat} {world : World}

theorem generate_of_count (positive : 0 < count) (small : count ≤ s.options.maxCount) :
    generate s heeded template count seeds schedule world =
      if heeded && (final s heeded template count seeds schedule world).world.cancelled then
        (.error .cancelled, (final s heeded template count seeds schedule world).world)
      else
        (collect
            ((List.range count).map (final s heeded template count seeds schedule world).result?),
          (final s heeded template count seeds schedule world).world) := by
  unfold generate perform
  rw [if_neg (by omega)]
  rfl

theorem generate_of_outside (outside : count = 0 ∨ s.options.maxCount < count) :
    generate s heeded template count seeds schedule world =
      (.error (.badStructure "count" (countReason s.options.maxCount count)), world) := by
  unfold generate perform
  rw [if_pos outside]

theorem passes_final :
    (start s count world).Passes s heeded template seeds count schedule
      (final s heeded template count seeds schedule world) :=
  State.passes_finish _

/-- What every turn keeps of a batch holds of its final state. -/
theorem final_induction {P : State → Prop}
    (step : ∀ b i b', (start s count world).Passes s heeded template seeds count schedule b →
      Turns s heeded template seeds b i b' → P b → P b')
    (first : P (start s count world)) :
    P (final s heeded template count seeds schedule world) :=
  State.passes_induction step first passes_final

/-- In the end all items of a state are done ones. -/
theorem items_final (positive : 0 < count) :
    (final s heeded template count seeds schedule world).items =
      (final s heeded template count seeds schedule world).done.map Prod.fst := by
  have stopped : ∀ w ∈ (final s heeded template count seeds schedule world).workers,
      w.task = .stopped :=
    stopped_finish positive schedule (bounded_startWorkers count _ world)
  have nothing : (final s heeded template count seeds schedule world).workers.flatMap
      Worker.left = [] := by
    rw [List.flatMap_eq_nil_iff]
    intro w member
    simp [Worker.left, stopped w member]
  rw [State.items, nothing, List.append_nil]

theorem items_start (positive : 0 < count) : (start s count world).items = List.range count :=
  flatMap_startWorkers count (workerCount_pos _ positive)

/-- A batch has failed when an item that is done has no document. -/
theorem failed_eq_any {b : State}
    (passed : (start s count world).Passes s heeded template seeds count schedule b) :
    b.failed = b.done.any fun d => !d.2.isOk := by
  refine State.done_induction (P := fun done failed _ => failed = done.any fun d => !d.2.isOk)
    ?_ rfl passed
  intro done failed w n result later _ same
  rw [List.any_cons, same, Bool.or_comm]

/-- What holds of every document that a walk of the template makes holds of those that are done. -/
theorem forall_done_of_walk {P : Filled → Prop}
    (each : ∀ seed w later filled, walk s template seed w = (.ok filled, later) → P filled) :
    ∀ d ∈ (final s heeded template count seeds schedule world).done, ∀ filled : Filled,
      d.2 = .ok filled → P filled := by
  refine State.done_induction (P := fun done _ _ => ∀ d ∈ done, ∀ filled : Filled,
    d.2 = .ok filled → P filled) ?_ (fun d member => absurd member List.not_mem_nil) passes_final
  intro done failed w n result later walked held d member filled good
  rcases List.mem_cons.1 member with rfl | earlier
  · subst good
    exact each _ w later filled walked
  · exact held d earlier filled good

/-- The items done in the end are items of the batch, each of them once. -/
theorem done_final_subperm (positive : 0 < count) :
    ((final s heeded template count seeds schedule world).done.map Prod.fst).Subperm
      (List.range count) := by
  rw [← items_final positive, ← items_start positive]
  refine final_induction (P := fun b => b.items.Subperm (start s count world).items) ?_ ?_
  · exact fun b i b' _ turn fewer => turn.items.1.trans fewer
  · exact List.Subperm.refl _

end

/-! ### Outcomes -/

theorem State.mem_of_result? {b : State} {i : Nat} {r : Except Failure Filled}
    (h : b.result? i = some r) : (i, r) ∈ b.done := by
  obtain ⟨⟨j, t⟩, found, rfl⟩ := Option.map_eq_some_iff.1 h
  have same := List.find?_some found
  rw [decide_eq_true_eq] at same
  exact same ▸ List.mem_of_find?_eq_some found

theorem State.exists_result? {b : State} {i : Nat} (h : i ∈ b.done.map Prod.fst) :
    ∃ r, b.result? i = some r := by
  obtain ⟨⟨j, r⟩, member, rfl⟩ := List.mem_map.1 h
  rw [← Option.isSome_iff_exists, State.result?, Option.isSome_map, List.find?_isSome]
  exact ⟨(j, r), member, by simp⟩

/-- The outcome of items that all have documents. -/
theorem collect_map_ok (fs : List Filled) :
    collect (fs.map fun f => some (.ok f)) =
      .ok ⟨fs.map Filled.document, (fs.map Filled.usage).foldr Usage.add []⟩ := by
  induction fs with
  | nil => rfl
  | cons f fs ih =>
      rw [List.map_cons, collect, ih]
      rfl

theorem exists_of_collect_ok {rs : List (Option (Except Failure Filled))} {o : Output}
    (h : collect rs = .ok o) : ∃ fs : List Filled, rs = fs.map fun f => some (.ok f) := by
  induction rs generalizing o with
  | nil => exact ⟨[], rfl⟩
  | cons r rs ih =>
      cases r with
      | none =>
          rw [collect] at h
          split at h <;> cases h
      | some result =>
          cases result with
          | error f => cases h
          | ok f =>
              rw [collect] at h
              cases rest : collect rs with
              | error g =>
                  rw [rest] at h
                  cases h
              | ok others =>
                  obtain ⟨fs, rfl⟩ := ih rest
                  exact ⟨f :: fs, rfl⟩

/-- The outcome of items among which one failed is the first failure, whatever was not done. -/
theorem collect_of_first_error {rs : List (Option (Except Failure Filled))} {j : Nat} {f : Failure}
    (here : rs[j]? = some (some (.error f)))
    (earlier : ∀ k < j, ∀ g, rs[k]? ≠ some (some (.error g))) : collect rs = .error f := by
  induction rs generalizing j with
  | nil => cases here
  | cons r rs ih =>
      cases j with
      | zero =>
          cases here
          rfl
      | succ j =>
          have rest : collect rs = .error f :=
            ih here fun k before => earlier (k + 1) (Nat.succ_lt_succ before)
          cases r with
          | none => rw [collect, rest]
          | some result =>
              cases result with
              | error g => exact absurd rfl (earlier 0 (Nat.succ_pos j) g)
              | ok filled =>
                  rw [collect, rest]
                  rfl

theorem State.exists_first_error {b : State} {count : Nat}
    (h : ∃ i, i < count ∧ ∃ f, b.result? i = some (.error f)) :
    ∃ j < count, ∃ f, b.result? j = some (.error f) ∧
      collect ((List.range count).map b.result?) = .error f ∧
        ∀ k < j, ∀ g, b.result? k ≠ some (.error g) := by
  classical
  obtain ⟨inside, f, here⟩ := Nat.find_spec h
  have least : ∀ k < Nat.find h, ∀ g, b.result? k ≠ some (.error g) :=
    fun k before g bad => Nat.find_min h before ⟨before.trans inside, g, bad⟩
  refine ⟨Nat.find h, inside, f, here, collect_of_first_error (j := Nat.find h) ?_ ?_, least⟩
  · rw [List.getElem?_map, List.getElem?_range inside, Option.map_some, here]
  · intro k before g bad
    rw [List.getElem?_map, List.getElem?_range (before.trans inside), Option.map_some] at bad
    exact least k before g (Option.some.inj bad)

theorem exists_map_some_ok {rs : List (Option (Except Failure Filled))}
    (h : ∀ r ∈ rs, ∃ f, r = some (.ok f)) :
    ∃ fs : List Filled, rs = fs.map fun f => some (.ok f) := by
  have member : rs ∈ Set.range (List.map fun f : Filled => some (Except.ok f)) := by
    rw [Set.range_list_map]
    intro r here
    obtain ⟨f, rfl⟩ := h r here
    exact ⟨f, rfl⟩
  obtain ⟨fs, rfl⟩ := member
  exact ⟨fs, rfl⟩

/-- A batch that succeeds has done all its items, and its documents are theirs in order. -/
theorem done_of_ok {s : Setting} {heeded : Bool} {template : Value} {count : Nat} {seeds : Seeds}
    {schedule : List Nat} {world later : World} {output : Output}
    (h : generate s heeded template count seeds schedule world = (.ok output, later)) :
    0 < count ∧ later = (final s heeded template count seeds schedule world).world ∧
      ∃ fs : List Filled, fs.length = count ∧
        output = ⟨fs.map Filled.document, (fs.map Filled.usage).foldr Usage.add []⟩ ∧
        ∀ (i : Nat) (f : Filled), fs[i]? = some f →
          (i, .ok f) ∈ (final s heeded template count seeds schedule world).done := by
  by_cases inside : 0 < count ∧ count ≤ s.options.maxCount
  · obtain ⟨positive, small⟩ := inside
    rw [generate_of_count positive small] at h
    split at h
    · cases h
    · obtain ⟨collected, rfl⟩ := Prod.mk.inj h
      obtain ⟨fs, results⟩ := exists_of_collect_ok collected
      rw [results, collect_map_ok] at collected
      cases collected
      have length := congrArg List.length results
      rw [List.length_map, List.length_map, List.length_range] at length
      refine ⟨positive, rfl, fs, length.symm, rfl, fun i f here => ?_⟩
      have inside : i < count := by
        rw [length]
        exact (List.getElem?_eq_some_iff.1 here).1
      have at_i := congrArg (·[i]?) results
      simp only [List.getElem?_map, List.getElem?_range inside, here, Option.map_some,
        Option.some.injEq] at at_i
      exact State.mem_of_result? at_i
  · rw [generate_of_outside (by omega)] at h
    cases h

end Fabricate.Batch
