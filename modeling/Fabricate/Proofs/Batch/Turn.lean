import Mathlib.Data.List.Induction
import Fabricate.Batch

/-!
# Turns of workers

What one turn of a worker can do is said once, in `Turns`: nothing, taking up an item, leaving, or
finishing the item that was taken up. A batch is a row of turns, so what holds at its start and is
kept by every turn holds of every state that it passes, the last one among them
(`State.passes_induction`).

A schedule may stop at any point. The turns that follow it are enough for every worker to come to
its end (`stopped_finish`): a turn of a worker that is at work brings its end nearer, and no turn of
another worker changes what it still has to do.
-/

namespace Fabricate.Batch

open Json Template

section

variable {s : Setting} {heeded : Bool} {template : Value} {seeds : Seeds}

/-- What a turn of the worker at a position does to the state. -/
inductive Turns (s : Setting) (heeded : Bool) (template : Value) (seeds : Seeds) (b : State)
    (i : Nat) : State → Prop
  | idle :
      (∀ w, b.workers[i]? = some w → w.task = .stopped) → Turns s heeded template seeds b i b
  | start {stop n : Nat} :
      b.workers[i]? = some ⟨stop, .take n⟩ → n < stop → b.halted heeded = false →
      Turns s heeded template seeds b i { b with workers := b.workers.set i ⟨stop, .finish n⟩ }
  | leave {stop n : Nat} :
      b.workers[i]? = some ⟨stop, .take n⟩ → stop ≤ n ∨ b.halted heeded = true →
      Turns s heeded template seeds b i { b with workers := b.workers.set i ⟨stop, .stopped⟩ }
  | finish {stop n : Nat} {result : Except Failure Filled} {later : World} :
      b.workers[i]? = some ⟨stop, .finish n⟩ →
      walk s template (seeds.item n) b.world = (result, later) →
      Turns s heeded template seeds b i
        ⟨(n, result) :: b.done, b.failed || !result.isOk, b.workers.set i ⟨stop, .take (n + 1)⟩,
          later⟩

theorem turns_turn (b : State) (i : Nat) :
    Turns s heeded template seeds b i (b.turn s heeded template seeds i) := by
  unfold State.turn
  cases here : b.workers[i]? with
  | none =>
      refine .idle fun w h => ?_
      rw [here] at h
      cases h
  | some w =>
      obtain ⟨stop, task⟩ := w
      cases task with
      | stopped =>
          refine .idle fun w h => ?_
          rw [here] at h
          cases h
          rfl
      | take n =>
          dsimp only
          split
          · next go => exact .start here go.1 go.2
          · next wait =>
              refine .leave here ?_
              by_cases inside : n < stop
              · exact .inr (Bool.not_eq_false _ ▸ fun halted => wait ⟨inside, halted⟩)
              · exact .inl (Nat.not_lt.1 inside)
      | finish n => exact .finish here rfl

/-- A turn changes at most the worker whose turn it is. -/
theorem Turns.getElem?_workers {b b' : State} {i : Nat} (h : Turns s heeded template seeds b i b')
    {k : Nat} (other : k ≠ i) : b'.workers[k]? = b.workers[k]? := by
  cases h with
  | idle _ => rfl
  | start _ _ _ => exact List.getElem?_set_ne (Ne.symm other)
  | leave _ _ => exact List.getElem?_set_ne (Ne.symm other)
  | finish _ _ => exact List.getElem?_set_ne (Ne.symm other)

theorem Turns.length_workers {b b' : State} {i : Nat}
    (h : Turns s heeded template seeds b i b') : b'.workers.length = b.workers.length := by
  cases h with
  | idle _ => rfl
  | start _ _ _ => exact List.length_set
  | leave _ _ => exact List.length_set
  | finish _ _ => exact List.length_set

/-- What is done, whether it has failed and the world change only when an item is finished. -/
theorem Turns.done_eq {b b' : State} {i : Nat} (h : Turns s heeded template seeds b i b') :
    b'.done = b.done ∧ b'.failed = b.failed ∧ b'.world = b.world ∨
      ∃ n result, walk s template (seeds.item n) b.world = (result, b'.world) ∧
        b'.done = (n, result) :: b.done ∧ b'.failed = (b.failed || !result.isOk) := by
  cases h with
  | idle _ => exact .inl ⟨rfl, rfl, rfl⟩
  | start _ _ _ => exact .inl ⟨rfl, rfl, rfl⟩
  | leave _ _ => exact .inl ⟨rfl, rfl, rfl⟩
  | finish _ walked => exact .inr ⟨_, _, walked, rfl, rfl⟩

theorem Turns.failed_mono {b b' : State} {i : Nat} (h : Turns s heeded template seeds b i b')
    (failed : b.failed = true) : b'.failed = true := by
  rcases h.done_eq with ⟨-, same, -⟩ | ⟨n, result, -, -, same⟩
  · rw [same, failed]
  · rw [same, failed, Bool.true_or]

/-! ### Whole batches -/

/-- The turns of a batch: those of the schedule, and then enough for each worker. -/
def allTurns (count workers : Nat) (schedule : List Nat) : List Nat :=
  schedule ++ (List.range workers).flatMap (List.replicate (2 * count + 1))

/-- The batch that starts in the first state is in the other one after some of its turns. -/
def State.Passes (s : Setting) (heeded : Bool) (template : Value) (seeds : Seeds) (count : Nat)
    (schedule : List Nat) (b c : State) : Prop :=
  ∃ early, early <+: allTurns count b.workers.length schedule ∧
    c = early.foldl (State.turn s heeded template seeds) b

theorem State.drive_eq_foldl (i n : Nat) (b : State) :
    b.drive s heeded template seeds i n =
      (List.replicate n i).foldl (State.turn s heeded template seeds) b := by
  induction n generalizing b with
  | zero => rfl
  | succ n ih => exact ih _

theorem State.length_workers_foldl (turns : List Nat) (b : State) :
    (turns.foldl (State.turn s heeded template seeds) b).workers.length = b.workers.length := by
  induction turns generalizing b with
  | nil => rfl
  | cons i turns ih => exact (ih _).trans (turns_turn b i).length_workers

variable {count : Nat} {schedule : List Nat}

theorem State.finish_eq (b : State) :
    b.finish s heeded template seeds count schedule =
      (List.range b.workers.length).foldl
        (fun b i => b.drive s heeded template seeds i (2 * count + 1))
        (schedule.foldl (State.turn s heeded template seeds) b) := by
  unfold State.finish
  dsimp only
  rw [State.length_workers_foldl]

/-- A batch is the row of all its turns. -/
theorem State.finish_eq_foldl (b : State) :
    b.finish s heeded template seeds count schedule =
      (allTurns count b.workers.length schedule).foldl (State.turn s heeded template seeds) b := by
  rw [State.finish_eq, allTurns, List.foldl_append, List.foldl_flatMap]
  simp only [State.drive_eq_foldl]

theorem State.passes_finish (b : State) :
    b.Passes s heeded template seeds count schedule
      (b.finish s heeded template seeds count schedule) :=
  ⟨_, List.prefix_rfl, State.finish_eq_foldl b⟩

/-- What holds at the start of a batch and is kept by every turn holds of all states that the batch
passes. -/
theorem State.passes_induction {P : State → Prop} {b : State}
    (step : ∀ c i c', b.Passes s heeded template seeds count schedule c →
      Turns s heeded template seeds c i c' → P c → P c') (h : P b) {c : State}
    (passed : b.Passes s heeded template seeds count schedule c) : P c := by
  obtain ⟨early, before, rfl⟩ := passed
  induction early using List.reverseRecOn with
  | nil => exact h
  | append_singleton early i ih =>
      have earlier := (List.prefix_append early [i]).trans before
      rw [List.foldl_append]
      exact step _ i _ ⟨early, earlier, rfl⟩ (turns_turn _ i) (ih earlier)

/-- What holds of what is done at the start of a batch and is kept whenever an item is finished
holds in all states that the batch passes. -/
theorem State.done_induction {P : List (Nat × Except Failure Filled) → Bool → World → Prop}
    {b : State}
    (step : ∀ done failed w n result later, walk s template (seeds.item n) w = (result, later) →
      P done failed w → P ((n, result) :: done) (failed || !result.isOk) later)
    (h : P b.done b.failed b.world) {c : State}
    (passed : b.Passes s heeded template seeds count schedule c) :
    P c.done c.failed c.world := by
  refine State.passes_induction (P := fun c => P c.done c.failed c.world) ?_ h passed
  intro c i c' _ turn before
  rcases turn.done_eq with ⟨done, failed, world⟩ | ⟨n, result, walked, done, failed⟩
  · rwa [done, failed, world]
  · rw [done, failed]
    exact step _ _ _ n result _ walked before

/-- A property that every turn keeps is kept by all turns of one worker. -/
theorem State.drive_induction {P : State → Prop} {i : Nat}
    (step : ∀ b b', Turns s heeded template seeds b i b' → P b → P b') (n : Nat) {b : State}
    (h : P b) : P (b.drive s heeded template seeds i n) := by
  induction n generalizing b with
  | zero => exact h
  | succ n ih => exact ih (step b _ (turns_turn b i) h)

/-! ### The end of every worker -/

/-- No more turns than this lie before the end of the worker. -/
def Worker.turnsLeft (w : Worker) : Nat :=
  match w.task with
  | .take n => 2 * (w.stop - n) + 1
  | .finish n => 2 * (w.stop - (n + 1)) + 2
  | .stopped => 0

theorem Worker.task_of_turnsLeft {w : Worker} (h : w.turnsLeft = 0) : w.task = .stopped := by
  unfold turnsLeft at h
  split at h
  · omega
  · omega
  · next stopped => exact stopped

/-- The runs of the workers end inside the batch. -/
def State.Bounded (count : Nat) (b : State) : Prop :=
  ∀ (i : Nat) (w : Worker), b.workers[i]? = some w → w.stop ≤ count

theorem State.Bounded.turnsLeft_le {b : State} (h : b.Bounded count)
    (positive : 0 < count) {i : Nat} {w : Worker} (here : b.workers[i]? = some w) :
    w.turnsLeft ≤ 2 * count + 1 := by
  have := h i w here
  unfold Worker.turnsLeft
  split <;> omega

namespace Turns

variable {b b' : State} {i : Nat} (h : Turns s heeded template seeds b i b')

include h

/-- The worker whose turn it is keeps the end of its run, and it is nearer to its own end or has
come to it. -/
theorem turnsLeft_lt {w' : Worker} (here : b'.workers[i]? = some w') :
    ∃ w, b.workers[i]? = some w ∧ w'.stop = w.stop ∧
      (w'.task = .stopped ∨ w'.turnsLeft < w.turnsLeft) := by
  have set_self : ∀ {w u : Worker}, b.workers[i]? = some w →
      (b.workers.set i u)[i]? = some w' → u = w' := by
    intro w u old new
    rw [List.getElem?_set_self (List.getElem?_eq_some_iff.1 old).1] at new
    exact Option.some.inj new
  cases h with
  | idle stopped => exact ⟨w', here, rfl, .inl (stopped w' here)⟩
  | start old inside _ =>
      cases set_self old here
      refine ⟨_, old, rfl, .inr ?_⟩
      dsimp only [Worker.turnsLeft]
      omega
  | leave old _ =>
      cases set_self old here
      exact ⟨_, old, rfl, .inl rfl⟩
  | finish old _ =>
      cases set_self old here
      refine ⟨_, old, rfl, .inr ?_⟩
      dsimp only [Worker.turnsLeft]
      omega

theorem bounded (bounded : b.Bounded count) : b'.Bounded count := by
  intro k w' here
  by_cases same : k = i
  · subst same
    obtain ⟨w, old, stop, -⟩ := h.turnsLeft_lt here
    rw [stop]
    exact bounded k w old
  · rw [h.getElem?_workers same] at here
    exact bounded k w' here

end Turns

/-- A worker that has enough turns comes to its end. -/
theorem stopped_drive {i n : Nat} {b : State}
    (left : ∀ w, b.workers[i]? = some w → w.turnsLeft ≤ n) :
    ∀ w, (b.drive s heeded template seeds i n).workers[i]? = some w → w.task = .stopped := by
  induction n generalizing b with
  | zero =>
      intro w here
      exact Worker.task_of_turnsLeft (Nat.le_zero.1 (left w here))
  | succ n ih =>
      refine ih fun w' here => ?_
      obtain ⟨w, old, -, progress⟩ := (turns_turn b i).turnsLeft_lt here
      rcases progress with stopped | less
      · simp [Worker.turnsLeft, stopped]
      · have := left w old
        omega

/-- When the first workers have been driven one after the other, they have come to their ends. -/
theorem stopped_foldl_drive (positive : 0 < count) {b : State}
    (bounded : b.Bounded count) (m : Nat) :
    ∀ k < m, ∀ w, ((List.range m).foldl
      (fun b i => b.drive s heeded template seeds i (2 * count + 1)) b).workers[k]? = some w →
        w.task = .stopped := by
  induction m with
  | zero => exact fun k inside => absurd inside (Nat.not_lt_zero k)
  | succ m ih =>
      intro k inside w here
      rw [List.range_succ, List.foldl_append, List.foldl_cons, List.foldl_nil] at here
      have kept : ((List.range m).foldl
          (fun b i => b.drive s heeded template seeds i (2 * count + 1)) b).Bounded count :=
        List.foldlRecOn _ _ bounded fun b h i _ =>
          State.drive_induction (fun _ _ turn => turn.bounded) _ h
      by_cases last : k = m
      · subst last
        exact stopped_drive (fun w old => kept.turnsLeft_le positive old) w here
      · -- The last worker's turns leave the others as they are.
        refine State.drive_induction (i := m)
          (P := fun b => ∀ w, b.workers[k]? = some w → w.task = .stopped) ?_ _
          (ih k (by omega)) w here
        intro b b' turn stopped w here
        rw [turn.getElem?_workers last] at here
        exact stopped w here

/-- At the end of a batch every worker has come to its end. -/
theorem stopped_finish (positive : 0 < count) (schedule : List Nat) {b : State}
    (bounded : b.Bounded count) :
    ∀ w ∈ (b.finish s heeded template seeds count schedule).workers, w.task = .stopped := by
  intro w member
  obtain ⟨k, here⟩ := List.getElem?_of_mem member
  have scheduled : (schedule.foldl (State.turn s heeded template seeds) b).Bounded count :=
    List.foldlRecOn _ _ bounded fun b h i _ => (turns_turn b i).bounded h
  have length : (b.finish s heeded template seeds count schedule).workers.length =
      b.workers.length := by
    have passed : b.Passes s heeded template seeds count schedule _ := State.passes_finish b
    obtain ⟨early, -, same⟩ := passed
    rw [same, State.length_workers_foldl]
  have inside := (List.getElem?_eq_some_iff.1 here).1
  rw [length] at inside
  rw [State.finish_eq] at here
  exact stopped_foldl_drive positive scheduled _ k inside w here

end

end Fabricate.Batch
