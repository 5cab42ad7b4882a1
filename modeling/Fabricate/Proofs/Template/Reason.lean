import Fabricate.Proofs.Generator.Reason
import Fabricate.Proofs.Template.Refusal

/-!
# Walks do not tell reasons

A caller who is told of a failure is told its `Failure.body`. Two walks over the same template, with
registries that differ in reasons only, leave the same world and tell the same: the same document,
or failures with the same body.

`ToldAlike x y` says this of two steps of a walk that start in one state. A breakdown is where the
two may part, and there both stop; the failures name the same place and the same generator, and all
that they differ in is not told. The larger steps have the property because they are made of such
steps and `bind` keeps it.
-/

namespace Fabricate

namespace Template

open Json Fabricate.Random

/-- What a caller sees of the end of a step: what was made, or what is told of the failure. -/
def told {α : Type} : EStateM.Result Failure Progress α → EStateM.Result ErrorBody Progress α
  | .ok a q => .ok a q
  | .error f q => .error f.body q

/-- From every state, the two steps end in the same state and tell the same. -/
def ToldAlike {α : Type} (x y : Fill α) : Prop :=
  ∀ q, told (x q) = told (y q)

/-- The settings have the same limits and context, and registries that differ in reasons only. -/
structure Setting.SameButReasons (s s' : Setting) : Prop where
  registry : s.registry.SameButReasons s'.registry
  options : s.options = s'.options
  context : s.context = s'.context

namespace ToldAlike

variable {α β : Type}

theorem refl (x : Fill α) : ToldAlike x x :=
  fun _ => rfl

theorem bind {x y : Fill α} {f g : α → Fill β} (first : ToldAlike x y)
    (next : ∀ a, ToldAlike (f a) (g a)) : ToldAlike (x >>= f) (y >>= g) := by
  intro q
  have here := first q
  change told (EStateM.bind x f q) = told (EStateM.bind y g q)
  unfold EStateM.bind
  revert here
  generalize x q = a
  generalize y q = b
  intro here
  cases a with
  | ok v r =>
      cases b with
      | ok w t =>
          cases here
          exact next v r
      | error f t => cases here
  | error f r =>
      cases b with
      | ok w t => cases here
      | error f' t =>
          injection here with body state
          change EStateM.Result.error f.body r = .error f'.body t
          rw [body, state]

theorem map {x y : Fill α} (f : α → β) (h : ToldAlike x y) : ToldAlike (f <$> x) (f <$> y) := by
  rw [map_eq_pure_bind, map_eq_pure_bind]
  exact h.bind fun a => .refl (pure (f a))

theorem mapM {f g : α → Fill β} (h : ∀ a, ToldAlike (f a) (g a)) (as : List α) :
    ToldAlike (as.mapM f) (as.mapM g) := by
  induction as with
  | nil => exact .refl (pure [])
  | cons a as ih =>
      rw [List.mapM_cons, List.mapM_cons]
      exact (h a).bind fun b => ih.bind fun bs => .refl (pure (b :: bs))

end ToldAlike

/-- What is told of a breakdown does not depend on its reason. -/
theorem body_callFailure_failed (path : FieldPath) (generator reason reason' : String) :
    (callFailure path generator (.failed reason)).body =
      (callFailure path generator (.failed reason')).body := rfl

section Walk

variable {s s' : Setting} (h : s.SameButReasons s')

include h

/-- A placeholder is refused in both settings for the same reason, or it stands for the same
generator except for reasons. -/
theorem prepare_sameButReasons (path : FieldPath) (p : Placeholder) :
    (∃ f, prepare s path p = .error f ∧ prepare s' path p = .error f) ∨
      ∃ g g' params, prepare s path p = .ok (g, params) ∧ prepare s' path p = .ok (g', params) ∧
        g.SameButReasons g' := by
  have resolved := h.registry.resolve? p.name
  have unknown : notFound s path p.name = notFound s' path p.name := by
    rw [notFound, notFound, h.registry.suggest, h.options]
  unfold prepare
  rw [unknown]
  generalize s.registry.resolve? p.name = found at resolved ⊢
  generalize s'.registry.resolve? p.name = found' at resolved ⊢
  cases resolved with
  | none => exact .inl ⟨_, rfl, rfl⟩
  | @some g g' same =>
      cases Param.coerceAll p.params with
      | error e => exact .inl ⟨_, rfl, rfl⟩
      | ok params => exact .inr ⟨g, g', params, rfl, rfl, same⟩

theorem toldAlike_call {g g' : Generator} (same : g.SameButReasons g') (params : Params)
    (seed : UInt64) (path : FieldPath) :
    ToldAlike (call s g params seed path) (call s' g' params seed path) := by
  intro q
  unfold call Generator.invoke
  rw [← h.context, ← same.specs, ← same.id]
  cases params.refusal? g.specs g.id with
  | some e => rfl
  | none =>
      dsimp only
      rw [← same.cancelled]
      rcases Outcome.result_cases (same.known s.context params q.world (Stream.ofSeed seed)) with
        equal | ⟨reason, reason', failed, failed'⟩
      · rw [equal]
      · -- Here the two differ, in what is not told.
        rw [failed, failed']
        exact congrArg (EStateM.Result.error · _)
          (body_callFailure_failed path g.id reason reason')

theorem toldAlike_elements {g g' : Generator} (same : g.SameButReasons g') (params : Params)
    (seed : UInt64) (path : FieldPath) (n first : Nat) :
    ToldAlike (elements s path g params seed first n)
      (elements s' path g' params seed first n) := by
  induction n generalizing first with
  | zero => exact .refl (pure [])
  | succ n ih =>
      rw [elements, elements]
      refine (toldAlike_call h same params _ _).bind fun v => ?_
      exact (ih (first + 1)).bind fun rest => .refl (pure (v.toJson :: rest))

theorem toldAlike_produce (path : FieldPath) (p : Placeholder) :
    ToldAlike (produce s path p) (produce s' path p) := by
  unfold produce
  rcases prepare_sameButReasons h path p with
    ⟨f, refused, refused'⟩ | ⟨g, g', params, ready, ready', same⟩
  · rw [refused, refused']
    exact .refl (throw f)
  · rw [ready, ready', settled, pure_bind, settled, pure_bind]
    dsimp only
    rw [same.id]
    exact (ToldAlike.refl nextSeed).bind fun seed =>
      (toldAlike_call h same params seed path).bind fun v => .refl _

theorem toldAlike_expand (path : FieldPath) (p : Placeholder) :
    ToldAlike (expand s path p) (expand s' path p) := by
  unfold expand
  rcases prepare_sameButReasons h path p with
    ⟨f, refused, refused'⟩ | ⟨g, g', params, ready, ready', same⟩
  · rw [refused, refused']
    exact .refl (throw f)
  · rw [ready, ready', settled, pure_bind, settled, pure_bind]
    dsimp only
    rw [same.id, h.options]
    refine (ToldAlike.refl _).bind fun count => (ToldAlike.refl nextSeed).bind fun seed => ?_
    exact (toldAlike_elements h same _ seed path count 0).bind fun vs => .refl _

theorem toldAlike_fill (j : Slot) : ToldAlike (j.fill s) (j.fill s') := by
  cases j with
  | single path p => exact (toldAlike_produce h path p).map _
  | row path p => exact (toldAlike_expand h path p).map _
  | mixed path name => exact .refl _

/-- Walks in both settings leave the same world and tell the same. -/
theorem walk_told_alike (template : Value) (seed : UInt64) (world : World) :
    (walk s template seed world).1.mapError Failure.body =
        (walk s' template seed world).1.mapError Failure.body ∧
      (walk s template seed world).2 = (walk s' template seed world).2 := by
  have alike := ToldAlike.mapM (toldAlike_fill h) (slots .root template) (.start seed world)
  rw [walk_eq_mapM, walk_eq_mapM]
  revert alike
  generalize (slots .root template).mapM (Slot.fill s) (.start seed world) = a
  generalize (slots .root template).mapM (Slot.fill s') (.start seed world) = b
  intro alike
  cases a with
  | ok cs q =>
      cases b with
      | ok cs' q' =>
          cases alike
          exact ⟨rfl, rfl⟩
      | error f' q' => cases alike
  | error f q =>
      cases b with
      | ok cs' q' => cases alike
      | error f' q' =>
          injection alike with body state
          exact ⟨congrArg Except.error body, congrArg Progress.world state⟩

end Walk

end Template

end Fabricate
