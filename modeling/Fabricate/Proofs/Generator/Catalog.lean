import Mathlib.Data.List.Induction
import Fabricate.Proofs.Generator.History

/-!
# What the catalog says of aliases

The catalog lists every alias under the generator that it points to. What it says is true as long as
no name is both an alias and a canonical name, since a canonical name comes first in every look-up.

Adding an alias asks for that, adding a generator does not. So the catalog of a history is truthful
exactly when no generator was added under a name that was an alias at the time (`NoneTaken`). After
such a step the alias is still listed under the generator that it points to, while it stands for the
new one.
-/

namespace Fabricate.Registry

/-- Every alias in the catalog stands for the generator that it is listed under. -/
def CatalogTruthful (r : Registry) : Prop :=
  ∀ e ∈ r.catalog, ∀ a ∈ e.aliases, r.resolvedId? a = some e.name

/-- At no step was a generator added under the name of an alias. -/
def NoneTaken (history : List Change) : Prop :=
  ∀ before g later, history = before ++ .register g :: later →
    (empty.after before).aliases.has g.id = false

theorem mem_aliasesOf_iff {r : Registry} {id a : String} :
    a ∈ r.aliasesOf id ↔ (a, id) ∈ r.aliases := by
  simp [aliasesOf]

namespace WellFormed

variable {r : Registry} (h : r.WellFormed)

include h

/-- The catalog has an entry for every canonical name, and it lists what points there. -/
theorem mem_catalog_iff {e : Entry} :
    e ∈ r.catalog ↔ ∃ g, r.generator? e.name = some g ∧
      e = ⟨g.id, g.provider, g.specs, r.aliasesOf g.id⟩ := by
  rw [catalog, List.mem_map]
  constructor
  · rintro ⟨⟨id, g⟩, member, rfl⟩
    have known : r.generator? id = some g := Directory.get?_of_mem h.generators_sorted member
    have same := h.id_eq id g known
    exact ⟨g, same.symm ▸ known, rfl⟩
  · rintro ⟨g, known, same⟩
    exact ⟨(e.name, g), Directory.mem_of_get? known, same.symm⟩

/-- An alias that is listed under a name points to it. -/
theorem points_of_mem_catalog {e : Entry} (entry : e ∈ r.catalog) {a : String}
    (listed : a ∈ e.aliases) : r.aliases.get? a = some e.name := by
  obtain ⟨g, -, rfl⟩ := h.mem_catalog_iff.1 entry
  exact Directory.get?_of_mem h.aliases_sorted (mem_aliasesOf_iff.1 listed)

/-- An alias is listed under the name that it points to. -/
theorem exists_entry {a target : String} (points : r.aliases.get? a = some target) :
    ∃ e ∈ r.catalog, e.name = target ∧ a ∈ e.aliases := by
  obtain ⟨g, known, rfl⟩ := h.generator?_target points
  refine ⟨⟨g.id, g.provider, g.specs, r.aliasesOf g.id⟩, ?_, rfl, ?_⟩
  · exact h.mem_catalog_iff.2 ⟨g, known, rfl⟩
  · exact mem_aliasesOf_iff.2 (Directory.mem_of_get? points)

/-- An alias in normal form stands for itself when it is a canonical name as well, and otherwise for
what it points to. -/
theorem resolvedId?_alias {a target : String} (normal : IsNormal a)
    (points : r.aliases.get? a = some target) :
    r.resolvedId? a = some (if r.generators.has a then a else target) := by
  have found : (r.lookup? a).map Generator.id =
      some (if r.generators.has a then a else target) := by
    rw [h.map_id_lookup?, points]
    split <;> rfl
  obtain ⟨g, here, same⟩ := Option.map_eq_some_iff.1 found
  have resolves : r.resolve? a = some g := by
    apply resolve?_of_lookup?
    rw [normal, String.ofList_toList, here]
  rw [resolvedId?, resolves, Option.map_some, same]

/-- With aliases in normal form the catalog is truthful exactly when no alias is a canonical
name. -/
theorem catalogTruthful_iff_disjoint
    (normal : ∀ a, r.aliases.has a = true → IsNormal a) :
    r.CatalogTruthful ↔ r.aliases.names.Disjoint r.ids := by
  have normal_of_points : ∀ {a target}, r.aliases.get? a = some target → IsNormal a := by
    intro a target points
    refine normal a ?_
    rw [Directory.has, points]
    rfl
  constructor
  · intro truthful a isAlias isId
    obtain ⟨target, points⟩ := Option.isSome_iff_exists.1 (Directory.has_iff_mem_names.2 isAlias)
    obtain ⟨e, entry, rfl, listed⟩ := h.exists_entry points
    have own := h.resolvedId?_alias (normal_of_points points) points
    have taken : r.generators.has a = true := Directory.has_iff_mem_names.2 isId
    rw [truthful e entry a listed, if_pos taken, Option.some.injEq] at own
    exact h.target_ne a e.name points own
  · intro disjoint e entry a listed
    have points := h.points_of_mem_catalog entry listed
    have free : r.generators.has a = false := by
      rw [Bool.eq_false_iff]
      intro taken
      refine disjoint (Directory.has_iff_mem_names.1 ?_) (Directory.has_iff_mem_names.1 taken)
      rw [Directory.has, points]
      rfl
    rw [h.resolvedId?_alias (normal_of_points points) points, free, if_neg Bool.false_ne_true]

end WellFormed

/-- What was free of generators at every step stays so: aliases are only added under free names. -/
theorem disjoint_of_noneTaken {history : List Change} (free : NoneTaken history) :
    (empty.after history).aliases.names.Disjoint (empty.after history).ids := by
  induction history using List.reverseRecOn with
  | nil => exact fun a isAlias _ => absurd isAlias List.not_mem_nil
  | append_singleton history c ih =>
      have earlier := ih fun before g later split =>
        free before g (later ++ [c]) (by rw [split, List.append_assoc, List.cons_append])
      intro a isAlias isId
      rw [ids, ← Directory.has_iff_mem_names, after_append] at isId
      rw [← Directory.has_iff_mem_names, after_append] at isAlias
      have old : (empty.after history).aliases.has a = true →
          (empty.after history).generators.has a = true → False := fun isAlias isId =>
        earlier (Directory.has_iff_mem_names.1 isAlias) (Directory.has_iff_mem_names.1 isId)
      cases c with
      | register g =>
          have fresh := free history g [] rfl
          rcases has_generators_register_iff.1 isId with rfl | known
          · exact Bool.false_ne_true (fresh.symm.trans isAlias)
          · exact old isAlias known
      | addAlias name target =>
          change ((empty.after history).addAlias name target).generators.has a = true at isId
          change ((empty.after history).addAlias name target).aliases.has a = true at isAlias
          rw [generators_addAlias] at isId
          rcases (empty.after history).addAlias_cases name target with ⟨-, fresh, added⟩ | ignored
          · rw [added, Directory.has_put_iff] at isAlias
            rcases isAlias with rfl | known
            · exact Bool.false_ne_true (fresh.symm.trans isId)
            · exact old known isId
          · rw [ignored] at isAlias
            exact old isAlias isId

/-- A name that was taken is an alias and a canonical name from then on. -/
theorem noneTaken_of_disjoint {history : List Change}
    (disjoint : (empty.after history).aliases.names.Disjoint (empty.after history).ids) :
    NoneTaken history := by
  rintro before g later rfl
  rw [Bool.eq_false_iff]
  intro isAlias
  have within := within_after ((empty.after before).register g) later
  rw [after_append] at disjoint
  refine disjoint (a := g.id) (Directory.has_iff_mem_names.1 (within.aliases _ isAlias))
    (Directory.has_iff_mem_names.1 (within.generators _ ?_))
  exact has_generators_register_iff.2 (.inl rfl)

/-- A listed alias stands for the generator that it is listed under, unless its name was taken by
another generator. So the catalog is truthful exactly when aliases and canonical names are disjoint,
which they are exactly when no generator was added under the name of an alias. -/
theorem catalog_truthful_iff (history : List Change) (normal : ∀ c ∈ history, c.Normal) :
    (∀ e ∈ (empty.after history).catalog, ∀ a ∈ e.aliases,
      a ≠ e.name ∧ (empty.after history).resolvedId? a =
        some (if (empty.after history).generators.has a then a else e.name)) ∧
      ((empty.after history).CatalogTruthful ↔
        (empty.after history).aliases.names.Disjoint (empty.after history).ids) ∧
      ((empty.after history).aliases.names.Disjoint (empty.after history).ids ↔
        NoneTaken history) := by
  have wellFormed := wellFormed_after history
  refine ⟨?_, ?_, noneTaken_of_disjoint, disjoint_of_noneTaken⟩
  · intro e entry a listed
    have points := wellFormed.points_of_mem_catalog entry listed
    have known : (empty.after history).aliases.has a = true := by
      rw [Directory.has, points]
      rfl
    exact ⟨(wellFormed.target_ne a e.name points).symm,
      wellFormed.resolvedId?_alias ((namesNormal_after normal).aliases a known) points⟩
  · exact wellFormed.catalogTruthful_iff_disjoint (namesNormal_after normal).aliases

/-- A generator added under the name of an alias: the name stands for the new generator, and the
catalog still lists it as an alias of the old one. -/
theorem catalog_lists_taken_alias :
    let r := empty.after
      [.register (.constant "g" [] .null), .addAlias "a" "g", .register (.constant "a" [] .null)]
    r.aliases.has "a" = true ∧ r.generators.has "a" = true ∧
      r.catalog.map (fun e => (e.name, e.aliases)) = [("a", []), ("g", ["a"])] ∧
      r.resolvedId? "a" = some "a" := by
  decide +kernel

/-- Without a taken name: two aliases of one generator, and one that is ignored. -/
theorem catalog_truthful_iff_untaken :
    let history : List Change :=
      [.register (.constant "g" [] .null), .addAlias "a" "g", .register (.constant "b" [] .null),
        .addAlias "c" "g", .addAlias "b" "g"]
    (∀ c ∈ history, c.Normal) ∧ NoneTaken history ∧ (empty.after history).CatalogTruthful := by
  intro history
  have normal : ∀ c ∈ history, c.Normal := by
    simp only [history, List.forall_mem_cons, List.not_mem_nil, false_implies, implies_true,
      Change.Normal, IsNormal, and_true]
    decide +kernel
  have apart : ∀ a ∈ (empty.after history).aliases.names, a ∉ (empty.after history).ids := by
    decide +kernel
  have disjoint := List.disjoint_left.2 apart
  obtain ⟨-, truthful, free⟩ := catalog_truthful_iff history normal
  exact ⟨normal, free.1 disjoint, truthful.2 disjoint⟩

end Fabricate.Registry
