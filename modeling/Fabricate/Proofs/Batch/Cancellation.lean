import Fabricate.Engine
import Fabricate.Generator.Scripted
import Fabricate.Proofs.Batch.Serial
import Fabricate.Proofs.Template.FirstFailure

/-!
# Cancelled jobs

A job that one worker does is cancelled exactly when the flag is set at its end, whatever its
generators do: neither finished documents nor a failed item get before it. The items were done in
order up to some item, and no item was started with the flag set, so a flag that is set before the
first item leaves the world as it is.

The other direction needs that a batch never fails with `Failure.cancelled` for another reason. A
walk does not fail with it, and an item without a result is only left behind by a failure or by the
flag.
-/

namespace Fabricate

namespace Batch

open Json Template

section

variable {s : Setting} {heeded : Bool} {template : Value} {seeds : Seeds} {count : Nat}
  {schedule : List Nat} {world : World}

namespace InOrder

variable {b : State} {m : Nat} (h : InOrder s heeded template seeds count world b m)

include h

theorem result_eq {k : Nat} {r : Except Failure Filled} (done : (k, r) ∈ b.done) :
    r = resultAt s template seeds world k := by
  rw [h.done_eq, List.mem_reverse, List.mem_map] at done
  obtain ⟨j, -, same⟩ := done
  cases same
  rfl

theorem result?_eq {k : Nat} (before : k < m) :
    b.result? k = some (resultAt s template seeds world k) := by
  obtain ⟨r, found⟩ := State.exists_result? ((h.mem_done_iff k).2 before)
  rw [found, h.result_eq (State.mem_of_result? found)]

/-- Items that were all done, or up to one that failed, do not come out as cancelled. -/
theorem collect_ne_cancelled
    (passed : (start s count world).Passes s heeded template seeds count schedule b)
    (complete : m = count ∨ b.failed = true) :
    collect ((List.range count).map b.result?) ≠ .error .cancelled := by
  by_cases failed : b.failed = true
  · obtain ⟨k, before, bad⟩ := (h.failed_iff passed).1 failed
    have some_failed : ∃ i, i < count ∧ ∃ f, b.result? i = some (.error f) := by
      refine ⟨k, before.trans_le h.inside, ?_⟩
      rw [h.result?_eq before]
      cases result : resultAt s template seeds world k with
      | ok filled =>
          rw [result] at bad
          cases bad
      | error f => exact ⟨f, rfl⟩
    obtain ⟨j, -, f, at_j, collected, -⟩ := State.exists_first_error some_failed
    have walked := h.result_eq (State.mem_of_result? at_j)
    rw [collected]
    intro same
    cases same
    exact ne_cancelled_of_walk (Prod.ext walked.symm rfl) rfl
  · have all : m = count := complete.resolve_right failed
    have results : ∀ r ∈ (List.range count).map b.result?, ∃ f, r = some (.ok f) := by
      intro r member
      obtain ⟨k, inside, rfl⟩ := List.mem_map.1 member
      have before : k < m := all ▸ List.mem_range.1 inside
      rw [h.result?_eq before]
      cases result : resultAt s template seeds world k with
      | ok filled => exact ⟨filled, rfl⟩
      | error f => exact absurd ((h.failed_iff passed).2 ⟨k, before, by rw [result]; rfl⟩) failed
    obtain ⟨fs, same⟩ := exists_map_some_ok results
    rw [same, collect_map_ok]
    intro wrong
    cases wrong

end InOrder

theorem snd_generate (positive : 0 < count) (small : count ≤ s.options.maxCount) :
    (generate s heeded template count seeds schedule world).2 =
      (final s heeded template count seeds schedule world).world := by
  rw [generate_of_count positive small]
  split <;> rfl

end

variable (s : Setting) (template : Value) (seeds : Seeds) (schedule : List Nat) (world : World)
  {count : Nat} (positive : 0 < count) (small : count ≤ s.options.maxCount)
  (one : workerCount s.options.concurrency count = 1)

include positive small one

/-- A batch that heeds the flag is cancelled exactly when it is set at the end. -/
theorem generate_eq_cancelled_iff :
    (generate s true template count seeds schedule world).1 = .error .cancelled ↔
      (generate s true template count seeds schedule world).2.cancelled = true := by
  rw [generate_of_count positive small]
  cases flag : (final s true template count seeds schedule world).world.cancelled with
  | true => simp [flag]
  | false =>
      obtain ⟨m, inOrder, ended⟩ :=
        exists_inOrder_final s true template seeds schedule world positive one
      rw [State.halted, flag, Bool.and_false, Bool.or_false] at ended
      simp [flag, inOrder.collect_ne_cancelled passes_final ended]

/-- A batch that heeds the flag does its items in order and starts none with the flag set or after a
failure. -/
theorem exists_started :
    ∃ m ≤ count,
      (generate s true template count seeds schedule world).2 =
          worldBefore s template seeds world m ∧
        (∀ k < m, (worldBefore s template seeds world k).cancelled = false ∧
          ∀ j < k, (resultAt s template seeds world j).isOk = true) ∧
        (m = count ∨ (worldBefore s template seeds world m).cancelled = true ∨
          ∃ k < m, (resultAt s template seeds world k).isOk = false) := by
  obtain ⟨m, inOrder, ended⟩ :=
    exists_inOrder_final s true template seeds schedule world positive one
  refine ⟨m, inOrder.inside, (snd_generate positive small).trans inOrder.world_eq, ?_, ?_⟩
  · intro k before
    obtain ⟨unset, good⟩ := inOrder.started k before
    exact ⟨unset rfl, good⟩
  · rw [State.halted, Bool.or_eq_true, inOrder.failed_iff passes_final, inOrder.world_eq,
      Bool.true_and] at ended
    exact ended.imp_right Or.symm

/-- With the flag set before, a batch that heeds it leaves the world as it is. -/
theorem generate_of_cancelled (flag : world.cancelled = true) :
    generate s true template count seeds schedule world = (.error .cancelled, world) := by
  obtain ⟨m, -, same, started, -⟩ :=
    exists_started s template seeds schedule world positive small one
  have none_started : m = 0 := by
    by_contra some_started
    obtain ⟨unset, -⟩ := started 0 (Nat.pos_of_ne_zero some_started)
    exact Bool.false_ne_true (unset.symm.trans flag)
  rw [none_started] at same
  refine Prod.ext ?_ same
  rw [generate_eq_cancelled_iff s template seeds schedule world positive small one, same]
  exact flag

end Batch

/-! ### Jobs -/

namespace Engine

open Json

variable (e : Engine) (job : Job) (near : Surroundings) (world : World)

/-- How a job ends that one worker does in a locale: it is cancelled exactly when the flag is set at
its end, and its items are done in order up to one, none of them started with the flag set or after
a failure. With the flag set before, nothing is called. -/
structure HeedsFlag (l : Locale) : Prop where
  cancelled_iff : (e.generate job near world).1 = .error .cancelled ↔
    (e.generate job near world).2.cancelled = true
  untouched : world.cancelled = true → e.generate job near world = (.error .cancelled, world)
  started :
    let s := e.setting l near.today
    let seeds : Batch.Seeds := ⟨job.seed, near.chance⟩
    ∃ m ≤ job.count,
      (e.generate job near world).2 = Batch.worldBefore s job.template seeds world m ∧
        (∀ k < m, (Batch.worldBefore s job.template seeds world k).cancelled = false ∧
          ∀ j < k, (Batch.resultAt s job.template seeds world j).isOk = true) ∧
        (m = job.count ∨ (Batch.worldBefore s job.template seeds world m).cancelled = true ∨
          ∃ k < m, (Batch.resultAt s job.template seeds world k).isOk = false)

/-- A job in a supported locale is answered by its batch. -/
theorem generate_of_supported {l : Locale}
    (supported : Locale.parse? (job.locale.getD e.options.defaultLocale) = some l) :
    e.generate job near world =
      ((Batch.generate (e.setting l near.today) true job.template job.count
          ⟨job.seed, near.chance⟩ near.schedule world).1.map fun o =>
            ⟨o.documents, job.count, l, job.seed, 0, o.usage⟩,
        (Batch.generate (e.setting l near.today) true job.template job.count
          ⟨job.seed, near.chance⟩ near.schedule world).2) := by
  have found : e.locale job.locale = .ok l := by
    unfold locale
    dsimp only
    rw [supported]
  unfold generate perform
  rw [found]
  rfl

theorem map_eq_cancelled {α β : Type} {x : Except Failure α} {f : α → β} :
    x.map f = .error .cancelled ↔ x = .error .cancelled := by
  cases x <;> simp [Except.map]

theorem heedsFlag_of_one {l : Locale}
    (supported : Locale.parse? (job.locale.getD e.options.defaultLocale) = some l)
    (positive : 0 < job.count) (small : job.count ≤ e.options.maxCount)
    (one : Batch.workerCount e.options.concurrency job.count = 1) :
    e.HeedsFlag job near world l := by
  have answer := e.generate_of_supported job near world supported
  refine ⟨?_, ?_, ?_⟩
  · rw [answer, map_eq_cancelled]
    exact Batch.generate_eq_cancelled_iff (e.setting l near.today) _ _ _ world positive small one
  · intro flag
    have untouched := Batch.generate_of_cancelled (e.setting l near.today) job.template
      ⟨job.seed, near.chance⟩ near.schedule world positive small one flag
    rw [answer, untouched]
    rfl
  · rw [answer]
    exact Batch.exists_started (e.setting l near.today) _ _ _ world positive small one

/-- A cancelled job gives no documents. What is wrong with a job itself is said before the flag is
looked at: an unsupported locale first, then a number of documents out of range. -/
theorem cancelled_job_gives_nothing :
    (Locale.parse? (job.locale.getD e.options.defaultLocale) = none →
      e.generate job near world =
        (.error (.unsupportedLocale (job.locale.getD e.options.defaultLocale)), world)) ∧
    ∀ l, Locale.parse? (job.locale.getD e.options.defaultLocale) = some l →
      (job.count = 0 ∨ e.options.maxCount < job.count →
        e.generate job near world =
          (.error (.badStructure "count" (Batch.countReason e.options.maxCount job.count)),
            world)) ∧
      (0 < job.count → job.count ≤ e.options.maxCount →
        Batch.workerCount e.options.concurrency job.count = 1 →
          e.HeedsFlag job near world l) := by
  constructor
  · intro unsupported
    have missing : e.locale job.locale =
        .error (.unsupportedLocale (job.locale.getD e.options.defaultLocale)) := by
      unfold locale
      dsimp only
      rw [unsupported]
    unfold generate perform
    rw [missing]
  · intro l supported
    refine ⟨fun outside => ?_, e.heedsFlag_of_one job near world supported⟩
    rw [e.generate_of_supported job near world supported, Batch.generate_of_outside outside]
    rfl

/-- A generator that sets the flag at its second call, which is in the second of three items. -/
theorem cancelled_job_gives_nothing_scripted :
    let e : Engine :=
      ⟨Registry.empty.register (Scripted.generator "n" "scripted" [] ⟨2, .cancel⟩ 0), .standard 1⟩
    let near : Surroundings := ⟨⟨2024, 6, 1, by decide, by decide, by decide⟩, fun _ => 0, []⟩
    let template : Value := .object [("a", .string "\x7b\x7bn\x7d\x7d")]
    let clear : World := ⟨[], false⟩
    let set : World := ⟨[], true⟩
    let job : Job := ⟨template, 3, none, some 7⟩
    e.generate ⟨template, 3, some "xx", some 7⟩ near set =
        (.error (.unsupportedLocale "xx"), set) ∧
      e.generate ⟨template, 0, none, some 7⟩ near set =
        (.error (.badStructure "count" (Batch.countReason 100 0)), set) ∧
      e.HeedsFlag job near clear .enUS ∧
      (e.generate job near clear).1 = .error .cancelled ∧
      (e.generate job near clear).2.calls.length = 2 := by
  intro e near template clear set job
  have unsupported := (e.cancelled_job_gives_nothing ⟨template, 3, some "xx", some 7⟩ near set).1
    (by decide)
  have outside := ((e.cancelled_job_gives_nothing ⟨template, 0, none, some 7⟩ near set).2 .enUS
    (by decide)).1 (.inl rfl)
  have heeds := ((e.cancelled_job_gives_nothing job near clear).2 .enUS (by decide)).2 (by decide)
    (by decide) (by decide)
  exact ⟨unsupported, outside, heeds, heeds.cancelled_iff.2 (by decide +kernel), by decide +kernel⟩

end Engine

end Fabricate
