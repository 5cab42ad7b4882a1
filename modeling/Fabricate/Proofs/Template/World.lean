import Fabricate.Proofs.Template.Refusal

/-!
# Walks in different worlds

A walk hands its world to every generator that it calls. When generators are functions of context,
parameters and stream, two walks over one template with one seed still have the same result,
whatever was called before each of them (`walk_result_eq`). What every call keeps of a world, such
as a flag that is not set, a walk keeps as well.

`WorldFree P x` says both of a step `x` of a walk for worlds in which `P` holds. It is shown for the
smallest steps and kept by `bind`, so the steps of a walk have it because they are made of others
that do.
-/

namespace Fabricate

namespace Template

open Json Fabricate.Random

/-- Two runs end in the same way, in states that agree on all but the world. -/
inductive SameEnd (P : World → Prop) {α : Type} :
    EStateM.Result Failure Progress α → EStateM.Result Failure Progress α → Prop
  | ok {a : α} {q r : Progress} :
      q.seeds = r.seeds → q.usage = r.usage → P q.world → P r.world →
      SameEnd P (.ok a q) (.ok a r)
  | error {f : Failure} {q r : Progress} :
      P q.world → P r.world → SameEnd P (.error f q) (.error f r)

/-- The step ends in the same way in all states that agree on all but the world. -/
def WorldFree (P : World → Prop) {α : Type} (x : Fill α) : Prop :=
  ∀ q r : Progress, q.seeds = r.seeds → q.usage = r.usage → P q.world → P r.world →
    SameEnd P (x q) (x r)

namespace WorldFree

variable {P : World → Prop} {α β : Type}

theorem pure (a : α) : WorldFree P (pure a : Fill α) :=
  fun _ _ seeds usage hq hr => .ok seeds usage hq hr

theorem throw (f : Failure) : WorldFree P (throw f : Fill α) :=
  fun _ _ _ _ hq hr => .error hq hr

theorem bind {x : Fill α} {f : α → Fill β} (hx : WorldFree P x) (hf : ∀ a, WorldFree P (f a)) :
    WorldFree P (x >>= f) := by
  intro q r seeds usage hq hr
  have first := hx q r seeds usage hq hr
  change SameEnd P (EStateM.bind x f q) (EStateM.bind x f r)
  unfold EStateM.bind
  revert first
  generalize x q = a
  generalize x r = b
  intro first
  cases first with
  | ok seeds' usage' hq' hr' => exact hf _ _ _ seeds' usage' hq' hr'
  | error hq' hr' => exact .error hq' hr'

theorem map {x : Fill α} (f : α → β) (hx : WorldFree P x) : WorldFree P (f <$> x) := by
  rw [map_eq_pure_bind]
  exact hx.bind fun a => .pure (f a)

theorem settled (x : Except Failure α) : WorldFree P (settled x) := by
  cases x with
  | ok a => exact .pure a
  | error f => exact .throw f

theorem nextSeed : WorldFree P nextSeed := by
  intro q r seeds usage hq hr
  unfold Template.nextSeed
  rw [seeds]
  exact .ok rfl usage hq hr

theorem record (generator : String) (calls : Nat) : WorldFree P (record generator calls) := by
  intro q r seeds usage hq hr
  exact .ok seeds (congrArg (Usage.record · generator calls) usage) hq hr

theorem mapM {f : α → Fill β} (hf : ∀ a, WorldFree P (f a)) (as : List α) :
    WorldFree P (as.mapM f) := by
  induction as with
  | nil => exact .pure []
  | cons a as ih =>
      rw [List.mapM_cons]
      exact (hf a).bind fun b => ih.bind fun bs => .pure (b :: bs)

end WorldFree

section Walk

variable {s : Setting} {P : World → Prop} (functional : s.registry.Functional (· = ·))
  (keeps : s.registry.Keeps P)

include functional keeps

theorem worldFree_call {name : String} {g : Generator}
    (known : s.registry.resolve? name = some g) (params : Params) (seed : UInt64)
    (path : FieldPath) : WorldFree P (call s g params seed path) := by
  intro q r seeds usage hq hr
  obtain ⟨id, member⟩ := Registry.mem_of_resolve? known
  unfold call Generator.invoke
  cases params.refusal? g.specs g.id with
  | some e => exact .error hq hr
  | none =>
      dsimp only
      rw [functional id g member s.context params params q.world r.world _ rfl]
      have kept := keeps id g member s.context params q.world (Stream.ofSeed seed)
        ⟨g.id, params, seed⟩ hq
      have kept' := keeps id g member s.context params r.world (Stream.ofSeed seed)
        ⟨g.id, params, seed⟩ hr
      cases (g.generate s.context params r.world (Stream.ofSeed seed)).outcome.result with
      | ok v => exact .ok seeds usage kept kept'
      | error e => exact .error kept kept'

theorem worldFree_elements {name : String} {g : Generator}
    (known : s.registry.resolve? name = some g) (params : Params) (seed : UInt64)
    (path : FieldPath) (n first : Nat) : WorldFree P (elements s path g params seed first n) := by
  induction n generalizing first with
  | zero => exact .pure []
  | succ n ih =>
      rw [elements]
      refine (worldFree_call functional keeps known params _ _).bind fun v => ?_
      exact (ih (first + 1)).bind fun rest => .pure (v.toJson :: rest)

theorem worldFree_produce (path : FieldPath) (p : Placeholder) :
    WorldFree P (produce s path p) := by
  cases prepared : prepare s path p with
  | error f =>
      intro q r _ _ hq hr
      rw [produce_of_prepare_error prepared, produce_of_prepare_error prepared]
      exact .error hq hr
  | ok found =>
      obtain ⟨g, params⟩ := found
      have known := (prepare_eq_ok.1 prepared).1
      unfold produce
      simp only [prepared, settled, pure_bind]
      exact WorldFree.nextSeed.bind fun seed =>
        (worldFree_call functional keeps known params seed path).bind fun v =>
          (WorldFree.record g.id 1).bind fun _ => .pure v

theorem worldFree_expand (path : FieldPath) (p : Placeholder) :
    WorldFree P (expand s path p) := by
  cases prepared : prepare s path p with
  | error f =>
      intro q r _ _ hq hr
      rw [expand_of_prepare_error prepared, expand_of_prepare_error prepared]
      exact .error hq hr
  | ok found =>
      obtain ⟨g, params⟩ := found
      have known := (prepare_eq_ok.1 prepared).1
      unfold expand
      rw [prepared, settled, pure_bind]
      refine (WorldFree.settled _).bind fun count => ?_
      exact WorldFree.nextSeed.bind fun seed =>
        (worldFree_elements functional keeps known _ seed path count 0).bind fun vs =>
          (WorldFree.record g.id count).bind fun _ => .pure vs

theorem worldFree_fill (j : Slot) : WorldFree P (j.fill s) := by
  cases j with
  | single path p => exact (worldFree_produce functional keeps path p).map _
  | row path p => exact (worldFree_expand functional keeps path p).map _
  | mixed path name => exact .throw _

/-- A walk has the same result in all worlds in which `P` holds, and it keeps `P`. -/
theorem walk_result_eq (template : Value) (seed : UInt64) {w w' : World} (hw : P w)
    (hw' : P w') :
    (walk s template seed w).1 = (walk s template seed w').1 ∧ P (walk s template seed w).2 := by
  have same := WorldFree.mapM (worldFree_fill functional keeps) (slots .root template)
    (.start seed w) (.start seed w') rfl rfl hw hw'
  rw [walk_eq_mapM, walk_eq_mapM]
  revert same
  generalize (slots .root template).mapM (Slot.fill s) (.start seed w) = a
  generalize (slots .root template).mapM (Slot.fill s) (.start seed w') = b
  intro same
  cases same with
  | @ok cs q r _ usage hq _ =>
      exact ⟨congrArg (fun u => Except.ok (Filled.mk (assemble template cs) u)) usage, hq⟩
  | error hq _ => exact ⟨rfl, hq⟩

end Walk

end Template

end Fabricate
