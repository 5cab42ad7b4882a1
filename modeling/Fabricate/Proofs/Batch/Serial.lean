import Fabricate.Proofs.Batch.Items

/-!
# Batches of one worker

One worker does the items in order, each in the world that the one before it left behind. So the
whole batch is told by how many items were started: the worlds and results of these items are those
of walks done one after the other (`worldBefore`, `resultAt`), none of them was started after a
failure or with the flag set, and the batch ended there because no item was left or because it was
to stop (`exists_inOrder_final`).

`InOrder` is the invariant of a turn. An item that was taken up is finished in the same world, since
there is no other worker that could change it in between.
-/

namespace Fabricate.Batch

open Json Template

/-- The world before an item when the items are done in order. -/
def worldBefore (s : Setting) (template : Value) (seeds : Seeds) (world : World) : Nat → World
  | 0 => world
  | k + 1 => (walk s template (seeds.item k) (worldBefore s template seeds world k)).2

/-- The result of an item when the items are done in order. -/
def resultAt (s : Setting) (template : Value) (seeds : Seeds) (world : World) (k : Nat) :
    Except Failure Filled :=
  (walk s template (seeds.item k) (worldBefore s template seeds world k)).1

/-- What the only worker does next when the items before a position are done. -/
inductive NextTask (count m : Nat) (halted : Bool) : Task → Prop
  | take : NextTask count m halted (.take m)
  | finish : m < count → halted = false → NextTask count m halted (.finish m)
  | stopped : m = count ∨ halted = true → NextTask count m halted .stopped

/-- The items before a position have been started and done in order, by the only worker. -/
structure InOrder (s : Setting) (heeded : Bool) (template : Value) (seeds : Seeds) (count : Nat)
    (world : World) (b : State) (m : Nat) : Prop where
  inside : m ≤ count
  worker : ∃ task, b.workers = [⟨count, task⟩] ∧ NextTask count m (b.halted heeded) task
  world_eq : b.world = worldBefore s template seeds world m
  done_eq : b.done = ((List.range m).map fun k => (k, resultAt s template seeds world k)).reverse
  started : ∀ k < m, (heeded = true → (worldBefore s template seeds world k).cancelled = false) ∧
    ∀ j < k, (resultAt s template seeds world j).isOk = true

section

variable {s : Setting} {heeded : Bool} {template : Value} {seeds : Seeds} {count : Nat}
  {world : World}

theorem startWorkers_one (positive : 0 < count) : startWorkers count 1 = [⟨count, .take 0⟩] := by
  simp [startWorkers, runLength, positive]

theorem inOrder_start (positive : 0 < count) (one : workerCount s.options.concurrency count = 1) :
    InOrder s heeded template seeds count world (start s count world) 0 where
  inside := Nat.zero_le count
  worker := ⟨.take 0, by rw [start, one, startWorkers_one positive], .take⟩
  world_eq := rfl
  done_eq := rfl
  started := fun k before => absurd before (Nat.not_lt_zero k)

namespace InOrder

variable {b b' : State} {m : Nat} (h : InOrder s heeded template seeds count world b m)

include h

theorem failed_iff {schedule : List Nat}
    (passed : (start s count world).Passes s heeded template seeds count schedule b) :
    b.failed = true ↔ ∃ k < m, (resultAt s template seeds world k).isOk = false := by
  rw [failed_eq_any passed, h.done_eq]
  simp

theorem mem_done_iff (k : Nat) : k ∈ b.done.map Prod.fst ↔ k < m := by
  rw [h.done_eq]
  simp

/-- A turn keeps the order. -/
theorem turn {schedule : List Nat}
    (passed : (start s count world).Passes s heeded template seeds count schedule b) {i : Nat}
    (turn : Turns s heeded template seeds b i b') :
    ∃ n, InOrder s heeded template seeds count world b' n := by
  obtain ⟨task, only, upcoming⟩ := h.worker
  -- Every turn that does something is one of the only worker.
  have here : ∀ {w : Worker}, b.workers[i]? = some w → w = ⟨count, task⟩ ∧ i = 0 := by
    intro w at_i
    rw [only, List.getElem?_singleton] at at_i
    split at at_i
    · next zero => exact ⟨(Option.some.inj at_i).symm, zero⟩
    · cases at_i
  cases turn with
  | idle _ => exact ⟨m, h⟩
  | start at_i inside running =>
      obtain ⟨same, rfl⟩ := here at_i
      cases same
      cases upcoming with
      | take =>
          refine ⟨m, { h with worker := ⟨.finish m, ?_, .finish inside running⟩ }⟩
          rw [only]
          rfl
  | leave at_i wait =>
      obtain ⟨same, rfl⟩ := here at_i
      cases same
      cases upcoming with
      | take =>
          have reason := wait.imp_left fun past => Nat.le_antisymm h.inside past
          refine ⟨m, { h with worker := ⟨.stopped, ?_, .stopped reason⟩ }⟩
          rw [only]
          rfl
  | @finish stop n result later at_i walked =>
      obtain ⟨same, rfl⟩ := here at_i
      cases same
      cases upcoming with
      | finish inside running =>
          -- The world is still the one in which the item was taken up.
          rw [h.world_eq] at walked
          have result_eq : resultAt s template seeds world m = result := by rw [resultAt, walked]
          rw [State.halted, Bool.or_eq_false_iff] at running
          refine ⟨m + 1, inside, ⟨.take (m + 1), ?_, .take⟩, ?_, ?_, ?_⟩
          · rw [only]
            rfl
          · rw [worldBefore, walked]
          · rw [List.range_succ, List.map_append, List.reverse_append, h.done_eq, ← result_eq]
            rfl
          · intro k before
            rcases Nat.lt_succ_iff_lt_or_eq.1 before with earlier | rfl
            · exact h.started k earlier
            · constructor
              · intro heeds
                simpa [heeds, h.world_eq] using running.2
              · intro j before
                by_contra bad
                have some_failed := (h.failed_iff passed).2 ⟨j, before, Bool.not_eq_true _ ▸ bad⟩
                rw [running.1] at some_failed
                cases some_failed

end InOrder

end

/-- How a batch of one worker ends. -/
theorem exists_inOrder_final (s : Setting) (heeded : Bool) (template : Value) (seeds : Seeds)
    {count : Nat} (schedule : List Nat) (world : World) (positive : 0 < count)
    (one : workerCount s.options.concurrency count = 1) :
    ∃ m, InOrder s heeded template seeds count world
        (final s heeded template count seeds schedule world) m ∧
      (m = count ∨ (final s heeded template count seeds schedule world).halted heeded = true) := by
  have kept : ∃ m, InOrder s heeded template seeds count world
      (final s heeded template count seeds schedule world) m := by
    refine final_induction (P := fun b => ∃ m, InOrder s heeded template seeds count world b m)
      ?_ ⟨0, inOrder_start positive one⟩
    rintro b i b' passed turn ⟨m, inOrder⟩
    exact inOrder.turn passed turn
  obtain ⟨m, inOrder⟩ := kept
  refine ⟨m, inOrder, ?_⟩
  obtain ⟨task, only, upcoming⟩ := inOrder.worker
  have stopped : task = .stopped :=
    stopped_finish positive schedule (bounded_startWorkers count _ world) ⟨count, task⟩
      (only ▸ List.mem_singleton_self _)
  subst stopped
  cases upcoming with
  | stopped reason => exact reason

end Fabricate.Batch
