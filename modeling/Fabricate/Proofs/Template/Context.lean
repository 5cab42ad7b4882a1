import Fabricate.Proofs.Template.Locality

/-!
# Walks in different contexts

A walk hands its context to the generators that it calls and does not look at it itself. So two
walks over one template with one seed are the same in two contexts if every generator that a
placeholder of the template stands for makes the same in both (`BlindTo`), whatever the others do.

The reference date among the limits is a default for the day of the context, and a walk does not
look at it either; it may change with the context (`Setting.moved`).
-/

namespace Fabricate.Template

open Json

/-- The setting with another context, and with the reference date of its limits replaced. -/
def Setting.moved (s : Setting) (reference : Option Calendar.Date) (context : Context) : Setting :=
  { s with options := { s.options with referenceDate := reference }, context := context }

theorem Setting.moved_mk (r : Registry) (o : Options) (c : Context)
    (reference : Option Calendar.Date) (context : Context) :
    Setting.moved ⟨r, o, c⟩ reference context =
      ⟨r, { o with referenceDate := reference }, context⟩ := rfl

/-- The generator that the placeholder stands for, if there is one, makes the same of the same draws
in the context of the setting and in the other one. -/
def BlindTo (s : Setting) (context : Context) (p : Placeholder) : Prop :=
  ∀ g, s.registry.resolve? p.name = some g → g.generate s.context = g.generate context

/-- The placeholder that fills the slot. -/
def Slot.placeholder? : Slot → Option Placeholder
  | .single _ p => some p
  | .row _ p => some p
  | .mixed _ _ => none

theorem Leaf.mem_placeholders_of_mem_slots {l : Leaf} {j : Slot} (slot : j ∈ l.slots)
    {p : Placeholder} (fills : j.placeholder? = some p) : p ∈ placeholders l.pieces := by
  unfold Leaf.slots at slot
  cases alone : standalone? l.pieces with
  | some q =>
      rw [placeholders_of_standalone? alone]
      rw [alone] at slot
      dsimp only at slot
      split at slot
      · rw [List.mem_singleton.1 slot] at fills
        cases fills
        exact List.mem_cons_self
      · rw [List.mem_singleton.1 slot] at fills
        cases fills
        exact List.mem_cons_self
  | none =>
      rw [alone] at slot
      cases array : (placeholders l.pieces).find? Placeholder.isArray with
      | some q =>
          rw [array] at slot
          rw [List.mem_singleton.1 slot] at fills
          cases fills
      | none =>
          rw [array] at slot
          obtain ⟨q, member, rfl⟩ := List.mem_map.1 slot
          cases fills
          exact member

/-- What fills a slot is a placeholder of the template. -/
theorem mem_tokensIn_of_mem_slots {template : Value} {j : Slot} (slot : j ∈ slots .root template)
    {p : Placeholder} (fills : j.placeholder? = some p) : p ∈ tokensIn template := by
  obtain ⟨l, leaf, slot⟩ := List.mem_flatMap.1 slot
  refine List.mem_flatMap.2 ⟨l, leaf, ?_⟩
  rw [map_placeholder_tokens]
  exact Leaf.mem_placeholders_of_mem_slots slot fills

section

variable {s : Setting} {reference : Option Calendar.Date} {context : Context}

theorem call_moved {g : Generator} (blind : g.generate s.context = g.generate context)
    (params : Params) (seed : UInt64) (path : FieldPath) :
    call (s.moved reference context) g params seed path = call s g params seed path := by
  funext q
  unfold call Generator.invoke
  rw [blind]
  rfl

theorem elements_moved {g : Generator} (blind : g.generate s.context = g.generate context)
    (params : Params) (seed : UInt64) (path : FieldPath) (n first : Nat) :
    elements (s.moved reference context) path g params seed first n =
      elements s path g params seed first n := by
  induction n generalizing first with
  | zero => rfl
  | succ n ih => rw [elements, elements, call_moved blind, ih]

theorem produce_moved {p : Placeholder} (blind : BlindTo s context p) (path : FieldPath) :
    produce (s.moved reference context) path p = produce s path p := by
  have same : prepare (s.moved reference context) path p = prepare s path p := rfl
  unfold produce
  rw [same]
  cases prepared : prepare s path p with
  | error f => rfl
  | ok found =>
      obtain ⟨g, params⟩ := found
      have stands := (prepare_eq_ok.1 prepared).1
      simp only [settled, pure_bind, call_moved (blind g stands)]

theorem expand_moved {p : Placeholder} (blind : BlindTo s context p) (path : FieldPath) :
    expand (s.moved reference context) path p = expand s path p := by
  have same : prepare (s.moved reference context) path p = prepare s path p := rfl
  unfold expand
  rw [same]
  cases prepared : prepare s path p with
  | error f => rfl
  | ok found =>
      obtain ⟨g, params⟩ := found
      have stands := (prepare_eq_ok.1 prepared).1
      simp only [settled, pure_bind, elements_moved (blind g stands)]
      rfl

theorem fill_moved {j : Slot} (blind : ∀ p, j.placeholder? = some p → BlindTo s context p) :
    j.fill (s.moved reference context) = j.fill s := by
  cases j with
  | single path p => rw [Slot.fill, Slot.fill, produce_moved (blind p rfl)]
  | row path p => rw [Slot.fill, Slot.fill, expand_moved (blind p rfl)]
  | mixed path name => rfl

theorem mapM_fill_moved {js : List Slot}
    (blind : ∀ j ∈ js, ∀ p, j.placeholder? = some p → BlindTo s context p) :
    js.mapM (Slot.fill (s.moved reference context)) = js.mapM (Slot.fill s) := by
  induction js with
  | nil => rfl
  | cons j js ih =>
      rw [List.forall_mem_cons] at blind
      rw [List.mapM_cons, List.mapM_cons, fill_moved blind.1, ih blind.2]

/-- Walks over a template are the same in both contexts when its placeholders are. -/
theorem walk_moved {template : Value} (blind : ∀ p ∈ tokensIn template, BlindTo s context p) :
    walk (s.moved reference context) template = walk s template := by
  have slots : (slots .root template).mapM (Slot.fill (s.moved reference context)) =
      (slots .root template).mapM (Slot.fill s) :=
    mapM_fill_moved fun j slot p fills => blind p (mem_tokensIn_of_mem_slots slot fills)
  funext seed world
  rw [walk_eq_mapM, walk_eq_mapM, slots]

end

end Fabricate.Template
