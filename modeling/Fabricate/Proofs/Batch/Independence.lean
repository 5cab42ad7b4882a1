import Fabricate.Proofs.Batch.Serial
import Fabricate.Proofs.Template.FirstFailure
import Fabricate.Proofs.Template.World

/-!
# Items do not depend on each other

When generators are functions of context, parameters and stream, the result of an item depends on
its seed only (`itemResult`), so it does not matter what was called before the item, by which
worker, or how many items there are. A batch is then the map of its items, as long as nothing asks
it to stop: every item that was done has its own result, and unless an item failed every item was
done (`failed_or_perm_final`). A batch whose items all have documents gives them in order, and any
other batch gives the failure of one of its items, with one worker that of the first one that fails.
-/

namespace Fabricate.Template

open Json

/-! ### The number of workers -/

/-- A setting with another number of workers. -/
def Setting.withConcurrency (s : Setting) (concurrency : Nat) : Setting :=
  { s with options := { s.options with concurrency := concurrency } }

theorem elements_withConcurrency (s : Setting) (concurrency : Nat) (path : FieldPath)
    (g : Generator) (params : Params) (seed : UInt64) (first n : Nat) :
    elements (s.withConcurrency concurrency) path g params seed first n =
      elements s path g params seed first n := by
  induction n generalizing first with
  | zero => rfl
  | succ n ih =>
      rw [elements, elements, ih]
      rfl

theorem fill_withConcurrency (s : Setting) (concurrency : Nat) :
    Slot.fill (s.withConcurrency concurrency) = Slot.fill s := by
  funext j
  cases j with
  | single path p => rfl
  | row path p =>
      rw [Slot.fill, Slot.fill, expand, expand]
      simp only [elements_withConcurrency]
      rfl
  | mixed path name => rfl

/-- A walk does not depend on the number of workers. -/
theorem walk_withConcurrency (s : Setting) (concurrency : Nat) (template : Value) (seed : UInt64)
    (world : World) :
    walk (s.withConcurrency concurrency) template seed world = walk s template seed world := by
  cases ran : (slots .root template).mapM (Slot.fill s) (.start seed world) with
  | ok cs q =>
      rw [walk_of_mapM_ok ran]
      rw [← fill_withConcurrency s concurrency] at ran
      rw [walk_of_mapM_ok ran]
  | error f q =>
      rw [walk_of_mapM_error ran]
      rw [← fill_withConcurrency s concurrency] at ran
      rw [walk_of_mapM_error ran]

end Fabricate.Template

namespace Fabricate.Batch

open Json Template

/-- The result of an item, walked in the world before the batch. -/
def itemResult (s : Setting) (template : Value) (seeds : Seeds) (world : World) (i : Nat) :
    Except Failure Filled :=
  (walk s template (seeds.item i) world).1

/-- The flag is not set in any state that the batch passes, unless it does not count. -/
def Unflagged (s : Setting) (heeded : Bool) (template : Value) (count : Nat) (seeds : Seeds)
    (schedule : List Nat) (world : World) : Prop :=
  heeded = true → ∀ b,
    (start s count world).Passes s heeded template seeds count schedule b →
      b.world.cancelled = false

section

variable {s : Setting} {heeded : Bool} {template : Value} {count : Nat} {seeds : Seeds}
  {schedule : List Nat} {world : World}

theorem Unflagged.halted (h : Unflagged s heeded template count seeds schedule world) {b : State}
    (passed : (start s count world).Passes s heeded template seeds count schedule b) :
    b.halted heeded = b.failed := by
  unfold State.halted
  cases heeds : heeded with
  | false => simp
  | true => simp [h heeds b (heeds ▸ passed)]

/-- Generators that leave the flag alone do not stop a batch. -/
theorem unflagged_of_keeps (functional : s.registry.Functional (· = ·))
    (keeps : s.registry.Keeps fun w => w.cancelled = false) (clear : world.cancelled = false) :
    Unflagged s heeded template count seeds schedule world := by
  intro _ b passed
  refine State.done_induction (P := fun _ _ w => w.cancelled = false) ?_ clear passed
  intro done failed w n result later walked unset
  have kept := (walk_result_eq functional keeps template (seeds.item n) unset unset).2
  rwa [walked] at kept

/-! ### What is done -/

theorem walk_eq_itemResult (functional : s.registry.Functional (· = ·)) (i : Nat)
    (elsewhere : World) :
    (walk s template (seeds.item i) elsewhere).1 = itemResult s template seeds world i :=
  (walk_result_eq functional s.registry.keeps_true template (seeds.item i) trivial trivial).1

/-- Every item that was done has its own result. -/
theorem done_final (functional : s.registry.Functional (· = ·)) :
    ∀ d ∈ (final s heeded template count seeds schedule world).done,
      d.2 = itemResult s template seeds world d.1 := by
  refine State.done_induction
    (P := fun done _ _ => ∀ d ∈ done, d.2 = itemResult s template seeds world d.1) ?_
    (fun d member => absurd member List.not_mem_nil) passes_final
  intro done failed w n result later walked own d member
  rcases List.mem_cons.1 member with rfl | earlier
  · have same : (walk s template (seeds.item n) w).1 = itemResult s template seeds world n :=
      walk_eq_itemResult functional n w
    rwa [walked] at same
  · exact own d earlier

theorem result?_final (functional : s.registry.Functional (· = ·)) {i : Nat}
    (h : i ∈ (final s heeded template count seeds schedule world).done.map Prod.fst) :
    (final s heeded template count seeds schedule world).result? i =
      some (itemResult s template seeds world i) := by
  obtain ⟨r, found⟩ := State.exists_result? h
  have own : r = itemResult s template seeds world i :=
    done_final functional _ (State.mem_of_result? found)
  rw [found, own]

/-- Unless an item failed, every item is done. -/
theorem failed_or_perm_final (unflagged : Unflagged s heeded template count seeds schedule world)
    (positive : 0 < count) :
    (final s heeded template count seeds schedule world).failed = true ∨
      ((final s heeded template count seeds schedule world).done.map Prod.fst).Perm
        (List.range count) := by
  have all : (start s count world).items = List.range count := items_start positive
  rw [← items_final positive, ← all]
  refine final_induction
    (P := fun b => b.failed = true ∨ b.items.Perm (start s count world).items) ?_ (.inr (.refl _))
  rintro b i b' passed turn (failed | all)
  · exact .inl (turn.failed_mono failed)
  · cases failed : b.failed with
    | true => exact .inl (turn.failed_mono failed)
    | false =>
        have running : b.halted heeded = false := (unflagged.halted passed).trans failed
        exact .inr ((turn.items.2 running).trans all)

theorem failed_final_iff (functional : s.registry.Functional (· = ·)) :
    (final s heeded template count seeds schedule world).failed = true ↔
      ∃ i ∈ (final s heeded template count seeds schedule world).done.map Prod.fst,
        ∃ f, itemResult s template seeds world i = .error f := by
  rw [failed_eq_any passes_final, List.any_eq_true]
  constructor
  · rintro ⟨d, member, bad⟩
    refine ⟨d.1, List.mem_map_of_mem member, ?_⟩
    rw [← done_final functional d member]
    cases result : d.2 with
    | ok filled =>
        rw [result] at bad
        cases bad
    | error f => exact ⟨f, rfl⟩
  · rintro ⟨i, member, f, bad⟩
    obtain ⟨d, here, rfl⟩ := List.mem_map.1 member
    refine ⟨d, here, ?_⟩
    rw [done_final functional d here, bad]
    rfl

/-! ### Outcomes -/

theorem generate_of_unflagged
    (unflagged : Unflagged s heeded template count seeds schedule world) (positive : 0 < count)
    (small : count ≤ s.options.maxCount) :
    (generate s heeded template count seeds schedule world).1 =
      collect
        ((List.range count).map (final s heeded template count seeds schedule world).result?) := by
  have unset : (heeded && (final s heeded template count seeds schedule world).world.cancelled) =
      false := by
    cases heeds : heeded with
    | false => rfl
    | true => exact unflagged heeds _ (heeds ▸ passes_final)
  rw [generate_of_count positive small, unset]
  rfl

theorem documents_of_ok (functional : s.registry.Functional (· = ·)) {o : Output}
    (good : (generate s heeded template count seeds schedule world).1 = .ok o) :
    o.documents.length = count ∧ ∀ i < count, ∃ filled,
      itemResult s template seeds world i = .ok filled ∧
        o.documents[i]? = some filled.document := by
  obtain ⟨-, -, fs, length, rfl, done⟩ := done_of_ok (Prod.ext good rfl)
  refine ⟨by rw [List.length_map, length], fun i inside => ?_⟩
  have bound : i < fs.length := length ▸ inside
  have here : fs[i]? = some fs[i] := List.getElem?_eq_getElem bound
  have own := done_final functional _ (done i _ here)
  exact ⟨fs[i], own.symm, by rw [List.getElem?_map, here]; rfl⟩

variable (functional : s.registry.Functional (· = ·))
  (unflagged : Unflagged s heeded template count seeds schedule world) (positive : 0 < count)
  (small : count ≤ s.options.maxCount)

include functional unflagged positive small

/-- A batch whose items all have documents succeeds. -/
theorem generate_of_all_ok
    (all : ∀ i < count, ∃ filled, itemResult s template seeds world i = .ok filled) :
    ∃ o, (generate s heeded template count seeds schedule world).1 = .ok o := by
  have done : ∀ i < count,
      i ∈ (final s heeded template count seeds schedule world).done.map Prod.fst := by
    rcases failed_or_perm_final unflagged positive with failed | perm
    · obtain ⟨i, member, f, bad⟩ := (failed_final_iff functional).1 failed
      have inside := List.mem_range.1 ((done_final_subperm positive).subset member)
      obtain ⟨filled, good⟩ := all i inside
      rw [bad] at good
      cases good
    · exact fun i inside => perm.mem_iff.2 (List.mem_range.2 inside)
  have results : ∀ r ∈ (List.range count).map
      (final s heeded template count seeds schedule world).result?, ∃ f, r = some (.ok f) := by
    intro r member
    obtain ⟨i, inside, rfl⟩ := List.mem_map.1 member
    obtain ⟨filled, good⟩ := all i (List.mem_range.1 inside)
    exact ⟨filled, by rw [result?_final functional (done i (List.mem_range.1 inside)), good]⟩
  obtain ⟨fs, same⟩ := exists_map_some_ok results
  rw [generate_of_unflagged unflagged positive small, same, collect_map_ok]
  exact ⟨_, rfl⟩

/-- A batch with an item that fails gives the failure of such an item, and one worker gives that of
the first. -/
theorem generate_of_error {i : Nat} (inside : i < count) {f : Failure}
    (bad : itemResult s template seeds world i = .error f) :
    ∃ g, (generate s heeded template count seeds schedule world).1 = .error g ∧
      ∃ j < count, itemResult s template seeds world j = .error g ∧
        (workerCount s.options.concurrency count = 1 →
          ∀ k < j, ∃ filled, itemResult s template seeds world k = .ok filled) := by
  have failed : (final s heeded template count seeds schedule world).failed = true := by
    rcases failed_or_perm_final unflagged positive with failed | perm
    · exact failed
    · exact (failed_final_iff functional).2 ⟨i, perm.mem_iff.2 (List.mem_range.2 inside), f, bad⟩
  have some_failed : ∃ j, j < count ∧ ∃ g,
      (final s heeded template count seeds schedule world).result? j = some (.error g) := by
    obtain ⟨j, member, g, wrong⟩ := (failed_final_iff functional).1 failed
    refine ⟨j, List.mem_range.1 ((done_final_subperm positive).subset member), g, ?_⟩
    rw [result?_final functional member, wrong]
  obtain ⟨j, inside_j, g, at_j, collected, earlier⟩ := State.exists_first_error some_failed
  have done_j := State.mem_of_result? at_j
  refine ⟨g, (generate_of_unflagged unflagged positive small).trans collected, j, inside_j,
    (done_final functional _ done_j).symm, fun one k before_j => ?_⟩
  -- One worker has done all the items before.
  obtain ⟨m, inOrder, -⟩ :=
    exists_inOrder_final s heeded template seeds schedule world positive one
  have done_k : k ∈ (final s heeded template count seeds schedule world).done.map Prod.fst := by
    have j_lt := (inOrder.mem_done_iff j).1 (List.mem_map_of_mem done_j)
    exact (inOrder.mem_done_iff k).2 (before_j.trans j_lt)
  have at_k := result?_final functional done_k
  cases result : itemResult s template seeds world k with
  | ok filled => exact ⟨filled, rfl⟩
  | error f =>
      rw [result] at at_k
      exact absurd at_k (earlier k before_j f)

theorem exists_ok_iff :
    (∃ o, (generate s heeded template count seeds schedule world).1 = .ok o) ↔
      ∀ i < count, ∃ filled, itemResult s template seeds world i = .ok filled := by
  constructor
  · rintro ⟨o, good⟩ i inside
    obtain ⟨filled, own, -⟩ := (documents_of_ok functional good).2 i inside
    exact ⟨filled, own⟩
  · exact generate_of_all_ok functional unflagged positive small

end

/-! ### The map of the items -/

/-- The batch is the map of its items: they have the same results wherever they are walked, the
batch has a document for each of them or the failure of one of them, and it is the beginning of
every longer batch, whatever the workers do. -/
structure IsMapOfItems (s : Setting) (heeded : Bool) (template : Value) (count : Nat)
    (seeds : Seeds) (schedule : List Nat) (world : World) : Prop where
  same_everywhere : ∀ i elsewhere,
    (walk s template (seeds.item i) elsewhere).1 = itemResult s template seeds world i
  ok_iff : (∃ o, (generate s heeded template count seeds schedule world).1 = .ok o) ↔
    ∀ i < count, ∃ filled, itemResult s template seeds world i = .ok filled
  documents : ∀ o, (generate s heeded template count seeds schedule world).1 = .ok o →
    o.documents.length = count ∧ ∀ i < count, ∃ filled,
      itemResult s template seeds world i = .ok filled ∧
        o.documents[i]? = some filled.document
  failure : ∀ f, (generate s heeded template count seeds schedule world).1 = .error f →
    f ≠ .cancelled ∧ ∃ i < count, itemResult s template seeds world i = .error f ∧
      (workerCount s.options.concurrency count = 1 →
        ∀ j < i, ∃ filled, itemResult s template seeds world j = .ok filled)
  beginning : ∀ (concurrency more : Nat) (heeded' : Bool) (schedule' : List Nat)
    (world' : World) (o' : Output), count ≤ more →
      (generate (s.withConcurrency concurrency) heeded' template more seeds schedule' world').1 =
          .ok o' →
        ∃ o, (generate s heeded template count seeds schedule world).1 = .ok o ∧
          o.documents = o'.documents.take count

/-- A batch of generators that are functions is the map of its items when the flag is never set. -/
theorem batch_is_map_of_items (s : Setting) (heeded : Bool) (template : Value) (count : Nat)
    (seeds : Seeds) (schedule : List Nat) (world : World)
    (functional : s.registry.Functional (· = ·))
    (unflagged : Unflagged s heeded template count seeds schedule world)
    (positive : 0 < count) (small : count ≤ s.options.maxCount) :
    IsMapOfItems s heeded template count seeds schedule world where
  same_everywhere := walk_eq_itemResult functional
  ok_iff := exists_ok_iff functional unflagged positive small
  documents := fun _ good => documents_of_ok functional good
  failure := by
    intro f bad
    have not_all : ¬ ∀ i < count, ∃ filled, itemResult s template seeds world i = .ok filled := by
      intro all
      obtain ⟨o, good⟩ := (exists_ok_iff functional unflagged positive small).2 all
      rw [bad] at good
      cases good
    push Not at not_all
    obtain ⟨i, inside, wrong⟩ := not_all
    cases result : itemResult s template seeds world i with
    | ok filled => exact absurd result (wrong filled)
    | error e =>
        obtain ⟨g, same, j, inside, own, first⟩ :=
          generate_of_error functional unflagged positive small inside result
        rw [bad] at same
        cases same
        exact ⟨ne_cancelled_of_walk (Prod.ext own rfl), j, inside, own, first⟩
  beginning := by
    intro concurrency more heeded' schedule' world' o' le good'
    obtain ⟨length', own'⟩ :=
      documents_of_ok (s := s.withConcurrency concurrency) functional good'
    have same : ∀ i, itemResult (s.withConcurrency concurrency) template seeds world' i =
        itemResult s template seeds world i := by
      intro i
      rw [itemResult, walk_withConcurrency]
      exact walk_eq_itemResult functional i world'
    have all : ∀ i < count, ∃ filled, itemResult s template seeds world i = .ok filled := by
      intro i inside
      obtain ⟨filled, result, -⟩ := own' i (inside.trans_le le)
      exact ⟨filled, (same i).symm.trans result⟩
    obtain ⟨o, good⟩ := (exists_ok_iff functional unflagged positive small).2 all
    obtain ⟨length, own⟩ := documents_of_ok functional good
    refine ⟨o, good, List.ext_getElem? fun i => ?_⟩
    by_cases inside : i < count
    · obtain ⟨filled, result, here⟩ := own i inside
      obtain ⟨filled', result', here'⟩ := own' i (inside.trans_le le)
      rw [same, result] at result'
      cases result'
      rw [List.getElem?_take_of_lt inside, here, here']
    · rw [List.getElem?_eq_none (by omega), List.getElem?_eq_none (by simp; omega)]

/-- Three workers share five items, and the second one starts first. -/
theorem batch_is_map_of_items_constant :
    let s := (Setting.constant "n" [] (.int 5)).withConcurrency 3
    let template : Value := .array
      [.string "\x7b\x7bn\x7d\x7d", .string "\x7b\x7b[n]:count=2\x7d\x7d"]
    IsMapOfItems s true template 5 ⟨some 7, fun _ => 0⟩ [1, 0, 1, 2, 1] ⟨[], false⟩ := by
  intro s template
  have functional : s.registry.Functional (· = ·) :=
    Registry.functional_constant _ "n" [] (.int 5)
  have keeps : s.registry.Keeps fun w => w.cancelled = false :=
    Registry.keeps_constant "n" [] (.int 5) false
  exact batch_is_map_of_items s true template 5 _ _ _ functional
    (unflagged_of_keeps functional keeps rfl) (by decide) (by decide)

end Fabricate.Batch
