import Fabricate.Proofs.Generator.Behaviour
import Fabricate.Proofs.Generator.Usage

/-!
# Histories of a registry

A registry comes about by adding generators and aliases one after the other, in any order. What
every such history keeps is `Registry.WellFormed`: generators are kept under their own names, and
what an alias points to is there. Nothing else is kept: a generator may be added under the name of
an alias, and then the name stands for the generator while the alias stays.

In a well-formed registry the canonical name that a name leads to can be read off the two rows of
names (`WellFormed.map_id_lookup?`), so what a step does to resolution is what it does to these
rows. Names are only ever added, hence a name that resolves goes on doing so
(`isSome_resolve?_mono`).

A registered name that is not in normal form is not looked up as it is. It stands for whatever its
normal form stands for, and that an alias can still change.
-/

namespace Fabricate

namespace Directory

variable {α : Type}

theorem has_put_iff {d : Directory α} {name other : String} {v : α} :
    (d.put name v).has other = true ↔ other = name ∨ d.has other = true := by
  by_cases same : other = name
  · subst same
    simp [has, get?_put_self]
  · rw [has, put, get?_update_of_ne d same, ← has]
    simp [same]

theorem has_iff_mem_names {d : Directory α} {name : String} :
    d.has name = true ↔ name ∈ d.names := by
  constructor
  · intro known
    by_contra absent
    rw [has, get?_eq_none absent] at known
    cases known
  · intro member
    induction d with
    | nil => cases member
    | cons entry rest ih =>
        obtain ⟨n, v⟩ := entry
        rw [names_cons, List.mem_cons] at member
        by_cases same : n = name
        · simp [has, get?, same]
        · simpa [has, get?, same] using ih (member.resolve_left (Ne.symm same))

/-- The value of an entry is found under its name. -/
theorem get?_of_mem {d : Directory α} (sorted : d.names.Pairwise (· < ·)) {name : String} {v : α}
    (h : (name, v) ∈ d) : d.get? name = some v := by
  induction d with
  | nil => cases h
  | cons entry rest ih =>
      obtain ⟨n, w⟩ := entry
      rw [names_cons, List.pairwise_cons] at sorted
      rcases List.mem_cons.1 h with here | later
      · cases here
        rw [get?, if_pos rfl]
      · have after : n < name := sorted.1 name (List.mem_map_of_mem later)
        rw [get?, if_neg after.ne, ih sorted.2 later]

end Directory

namespace Registry

/-- One step in the history of a registry. -/
inductive Change where
  | register (g : Generator)
  | addAlias (name target : String)

/-- The registry after one step. -/
def Change.apply (r : Registry) : Change → Registry
  | .register g => r.register g
  | .addAlias name target => r.addAlias name target

/-- The registry after a row of steps. -/
def after (r : Registry) (changes : List Change) : Registry :=
  changes.foldl Change.apply r

/-- The name is its own normal form. -/
def IsNormal (name : String) : Prop :=
  normalName name = name.toList

/-- The names in a step are in normal form. -/
def Change.Normal : Change → Prop
  | .register g => IsNormal g.id
  | .addAlias name target => IsNormal name ∧ IsNormal target

/-- The canonical name of the generator that a name stands for. -/
def resolvedId? (r : Registry) (name : String) : Option String :=
  (r.resolve? name).map Generator.id

theorem after_append (r : Registry) (early late : List Change) :
    r.after (early ++ late) = (r.after early).after late :=
  List.foldl_append

@[simp] theorem aliases_register (r : Registry) (g : Generator) :
    (r.register g).aliases = r.aliases := rfl

@[simp] theorem generators_addAlias (r : Registry) (name target : String) :
    (r.addAlias name target).generators = r.generators := by
  unfold addAlias
  split <;> rfl

theorem has_generators_register_iff {r : Registry} {g : Generator} {name : String} :
    (r.register g).generators.has name = true ↔ name = g.id ∨ r.generators.has name = true :=
  Directory.has_put_iff

/-- An alias is added when its target is known and its own name is free of generators; otherwise
nothing happens. -/
theorem addAlias_cases (r : Registry) (name target : String) :
    (r.generators.has target = true ∧ r.generators.has name = false ∧
        r.addAlias name target = { r with aliases := r.aliases.put name target }) ∨
      r.addAlias name target = r := by
  unfold addAlias
  split
  · next free =>
      rw [Bool.and_eq_true, Bool.not_eq_true'] at free
      exact .inl ⟨free.1, free.2, rfl⟩
  · exact .inr rfl

/-! ### What every step keeps -/

/-- Both rows are in order, generators are kept under their own names, and what an alias points to
is there under another name. -/
structure WellFormed (r : Registry) : Prop where
  generators_sorted : r.generators.names.Pairwise (· < ·)
  aliases_sorted : r.aliases.names.Pairwise (· < ·)
  id_eq : ∀ id g, r.generator? id = some g → g.id = id
  target_has : ∀ name target, r.aliases.get? name = some target → r.generators.has target = true
  target_ne : ∀ name target, r.aliases.get? name = some target → target ≠ name

theorem wellFormed_empty : WellFormed .empty where
  generators_sorted := .nil
  aliases_sorted := .nil
  id_eq := fun _ _ found => by cases found
  target_has := fun _ _ found => by cases found
  target_ne := fun _ _ found => by cases found

namespace WellFormed

variable {r : Registry} (h : r.WellFormed)

include h

theorem register (g : Generator) : (r.register g).WellFormed where
  generators_sorted := Directory.sorted_update h.generators_sorted g.id _
  aliases_sorted := h.aliases_sorted
  id_eq := by
    intro id f found
    by_cases own : id = g.id
    · subst own
      rw [generator?, Registry.register, Directory.get?_put_self] at found
      cases found
      rfl
    · rw [generator?, Registry.register, Directory.put, Directory.get?_update_of_ne _ own] at found
      exact h.id_eq id f found
  target_has := fun name target points =>
    has_generators_register_iff.2 (.inr (h.target_has name target points))
  target_ne := h.target_ne

theorem addAlias (name target : String) : (r.addAlias name target).WellFormed := by
  rcases r.addAlias_cases name target with ⟨known, free, added⟩ | ignored
  · have pointed : ∀ other otherTarget, (r.aliases.put name target).get? other = some otherTarget →
        r.generators.has otherTarget = true ∧ otherTarget ≠ other := by
      intro other otherTarget points
      by_cases new : other = name
      · subst new
        rw [Directory.get?_put_self] at points
        cases points
        refine ⟨known, ?_⟩
        rintro rfl
        exact Bool.false_ne_true (free.symm.trans known)
      · rw [Directory.put, Directory.get?_update_of_ne _ new] at points
        exact ⟨h.target_has other otherTarget points, h.target_ne other otherTarget points⟩
    rw [added]
    exact ⟨h.generators_sorted, Directory.sorted_update h.aliases_sorted name _, h.id_eq,
      fun other otherTarget points => (pointed other otherTarget points).1,
      fun other otherTarget points => (pointed other otherTarget points).2⟩
  · rwa [ignored]

theorem apply (c : Change) : (c.apply r).WellFormed := by
  cases c with
  | register g => exact h.register g
  | addAlias name target => exact h.addAlias name target

theorem after (changes : List Change) : (r.after changes).WellFormed :=
  List.foldlRecOn changes _ h fun _ kept c _ => kept.apply c

end WellFormed

/-- Every history from the empty registry ends in a well-formed one. -/
theorem wellFormed_after (history : List Change) : (empty.after history).WellFormed :=
  wellFormed_empty.after history

/-- All names are in normal form. -/
structure NamesNormal (r : Registry) : Prop where
  generators : ∀ id, r.generators.has id = true → IsNormal id
  aliases : ∀ name, r.aliases.has name = true → IsNormal name

theorem NamesNormal.apply {r : Registry} (h : r.NamesNormal) {c : Change} (normal : c.Normal) :
    (c.apply r).NamesNormal := by
  cases c with
  | register g =>
      refine ⟨fun id known => ?_, h.aliases⟩
      rcases has_generators_register_iff.1 known with rfl | old
      · exact normal
      · exact h.generators id old
  | addAlias name target =>
      rw [Change.apply]
      rcases r.addAlias_cases name target with ⟨-, -, added⟩ | ignored
      · rw [added]
        refine ⟨h.generators, fun other known => ?_⟩
        rcases Directory.has_put_iff.1 known with rfl | old
        · exact normal.1
        · exact h.aliases other old
      · rwa [ignored]

/-- A registry that came about by normal names has only such names. -/
theorem namesNormal_after {history : List Change} (normal : ∀ c ∈ history, c.Normal) :
    (empty.after history).NamesNormal :=
  List.foldlRecOn (motive := NamesNormal) history _
    ⟨fun _ known => (nomatch known), fun _ known => (nomatch known)⟩
    fun _ kept c member => kept.apply (normal c member)

/-! ### Looking names up -/

theorem generator?_isSome_iff {r : Registry} {id : String} :
    (∃ g, r.generator? id = some g) ↔ r.generators.has id = true := by
  rw [generator?, Directory.has, Option.isSome_iff_exists]

/-- A canonical name comes before an alias. -/
theorem lookup?_of_generator? {r : Registry} {name : String} {g : Generator}
    (known : r.generator? name = some g) : r.lookup? name = some g := by
  rw [lookup?, known, Option.some_or]

/-- A name whose normal form is found stands for what is found there. -/
theorem resolve?_of_lookup? {r : Registry} {name : String} {g : Generator}
    (found : r.lookup? (String.ofList (normalName name)) = some g) : r.resolve? name = some g := by
  rw [resolve?, found, Option.some_or]

/-- A registered name in normal form stands for its own generator. -/
theorem resolve?_of_generator? {r : Registry} {id : String} {g : Generator} (normal : IsNormal id)
    (known : r.generator? id = some g) : r.resolve? id = some g := by
  apply resolve?_of_lookup?
  rw [normal, String.ofList_toList]
  exact lookup?_of_generator? known

/-- Two registries that agree on the normal form of a name and on its last segment agree on what it
stands for. -/
theorem resolvedId?_congr {r r' : Registry} {name : String}
    (whole : (r.lookup? (String.ofList (normalName name))).map Generator.id =
      (r'.lookup? (String.ofList (normalName name))).map Generator.id)
    (last : ∀ segment, lastSegment? (normalName name) = some segment →
      (r.lookup? (String.ofList segment)).map Generator.id =
        (r'.lookup? (String.ofList segment)).map Generator.id) :
    r.resolvedId? name = r'.resolvedId? name := by
  have opened : ∀ q : Registry, q.resolvedId? name =
      ((q.lookup? (String.ofList (normalName name))).map Generator.id).or
        ((lastSegment? (normalName name)).bind fun segment =>
          (q.lookup? (String.ofList segment)).map Generator.id) := by
    intro q
    rw [resolvedId?, resolve?, Option.map_or, Option.map_bind]
    rfl
  rw [opened, opened, whole]
  congr 1
  exact Option.bind_congr last

/-- A name that resolves is found in normal form, or else its last segment is. -/
theorem isSome_resolve?_iff {r : Registry} {name : String} :
    (r.resolve? name).isSome = true ↔
      (r.lookup? (String.ofList (normalName name))).isSome = true ∨
        ∃ segment, lastSegment? (normalName name) = some segment ∧
          (r.lookup? (String.ofList segment)).isSome = true := by
  rw [resolve?, Option.isSome_or, Bool.or_eq_true]
  refine or_congr_right ?_
  cases lastSegment? (normalName name) with
  | none => simp
  | some segment => simp

namespace WellFormed

variable {r : Registry} (h : r.WellFormed)

include h

/-- What an alias points to is a generator of that name. -/
theorem generator?_target {name target : String} (points : r.aliases.get? name = some target) :
    ∃ g, r.generator? target = some g ∧ g.id = target := by
  obtain ⟨g, known⟩ := generator?_isSome_iff.2 (h.target_has name target points)
  exact ⟨g, known, h.id_eq target g known⟩

/-- A canonical name leads to itself and any other name to where its alias points. -/
theorem map_id_lookup? (name : String) : (r.lookup? name).map Generator.id =
    if r.generators.has name then some name else r.aliases.get? name := by
  cases found : r.generator? name with
  | some g =>
      rw [if_pos (generator?_isSome_iff.1 ⟨g, found⟩), lookup?_of_generator? found, Option.map_some,
        h.id_eq name g found]
  | none =>
      have unknown : r.generators.has name = false := by
        rw [Directory.has, ← generator?, found]
        rfl
      rw [lookup?, found, Option.none_or, unknown, if_neg Bool.false_ne_true]
      cases points : r.aliases.get? name with
      | none => rfl
      | some target =>
          obtain ⟨g, known, same⟩ := h.generator?_target points
          rw [Option.bind_some, known, Option.map_some, same]

theorem isSome_lookup?_iff {name : String} : (r.lookup? name).isSome = true ↔
    r.generators.has name = true ∨ r.aliases.has name = true := by
  rw [← Option.isSome_map (f := Generator.id), h.map_id_lookup?, Directory.has, Directory.has]
  cases r.generators.get? name with
  | none => simp
  | some g => simp

end WellFormed

/-! ### What a step does to resolution -/

/-- The other registry has every name that this one has. -/
structure Within (r r' : Registry) : Prop where
  generators : ∀ name, r.generators.has name = true → r'.generators.has name = true
  aliases : ∀ name, r.aliases.has name = true → r'.aliases.has name = true

theorem Within.refl (r : Registry) : r.Within r :=
  ⟨fun _ => id, fun _ => id⟩

theorem Within.trans {a b c : Registry} (h : a.Within b) (h' : b.Within c) : a.Within c :=
  ⟨fun name known => h'.generators name (h.generators name known),
    fun name known => h'.aliases name (h.aliases name known)⟩

/-- A step takes no name away. -/
theorem within_apply (r : Registry) (c : Change) : r.Within (c.apply r) := by
  cases c with
  | register g =>
      exact ⟨fun name known => has_generators_register_iff.2 (.inr known), fun _ => id⟩
  | addAlias name target =>
      rw [Change.apply]
      rcases r.addAlias_cases name target with ⟨-, -, added⟩ | ignored
      · rw [added]
        exact ⟨fun _ => id, fun other known => Directory.has_put_iff.2 (.inr known)⟩
      · rw [ignored]
        exact .refl r

theorem within_after (r : Registry) (changes : List Change) : r.Within (r.after changes) :=
  List.foldlRecOn changes _ (Within.refl r) fun b within c _ => within.trans (within_apply b c)

/-- A name that resolves does so in every registry that has all the names. -/
theorem isSome_resolve?_mono {r r' : Registry} (h : r.WellFormed) (h' : r'.WellFormed)
    (within : r.Within r') {name : String} (resolves : (r.resolve? name).isSome = true) :
    (r'.resolve? name).isSome = true := by
  have found : ∀ key, (r.lookup? key).isSome = true → (r'.lookup? key).isSome = true := by
    intro key here
    rw [h.isSome_lookup?_iff] at here
    exact h'.isSome_lookup?_iff.2 (here.imp (within.generators key) (within.aliases key))
  rw [isSome_resolve?_iff] at resolves ⊢
  rcases resolves with whole | ⟨segment, last, here⟩
  · exact .inl (found _ whole)
  · exact .inr ⟨segment, last, found _ here⟩

/-- An alias changes nothing for a canonical name, and nothing for a name other than its own. -/
theorem lookup?_addAlias {r : Registry} {byname target name : String}
    (other : r.generators.has name = true ∨ name ≠ byname) :
    (r.addAlias byname target).lookup? name = r.lookup? name := by
  rcases r.addAlias_cases byname target with ⟨-, free, added⟩ | ignored
  · have different : name ≠ byname := by
      rcases other with known | different
      · rintro rfl
        rw [known] at free
        cases free
      · exact different
    rw [added, lookup?, lookup?, Directory.put, Directory.get?_update_of_ne _ different]
    rfl
  · rw [ignored]

/-- An alias moves only names that are no canonical ones in normal form, and of these only such as
have the alias for their normal form or for their last segment. -/
theorem of_resolve?_addAlias_ne {r : Registry} {byname target name : String}
    (moved : (r.addAlias byname target).resolve? name ≠ r.resolve? name) :
    r.generators.has (String.ofList (normalName name)) = false ∧
      (normalName name = byname.toList ∨ lastSegment? (normalName name) = some byname.toList) := by
  constructor
  · by_contra known
    rw [Bool.not_eq_false] at known
    obtain ⟨g, found⟩ := generator?_isSome_iff.2 known
    refine moved ?_
    rw [resolve?_of_lookup? (lookup?_of_generator? found), resolve?_of_lookup?]
    rw [lookup?_addAlias (.inl known), lookup?_of_generator? found]
  · by_contra neither
    rw [not_or] at neither
    refine moved ?_
    rw [resolve?, resolve?, lookup?_addAlias (.inr fun same => neither.1 (String.ofList_eq.1 same))]
    congr 1
    refine Option.bind_congr fun segment last => lookup?_addAlias (.inr fun same => neither.2 ?_)
    rw [last, String.ofList_eq.1 same]

/-- A generator moves only names that have its own name for their normal form or for their last
segment. -/
theorem WellFormed.of_resolvedId?_register_ne {r : Registry} (h : r.WellFormed) {g : Generator}
    {name : String} (moved : (r.register g).resolvedId? name ≠ r.resolvedId? name) :
    normalName name = g.id.toList ∨ lastSegment? (normalName name) = some g.id.toList := by
  have kept : ∀ key, key ≠ g.id →
      ((r.register g).lookup? key).map Generator.id = (r.lookup? key).map Generator.id := by
    intro key different
    have has : (r.register g).generators.has key = r.generators.has key := by
      rw [Bool.eq_iff_iff, has_generators_register_iff]
      simp [different]
    rw [(h.register g).map_id_lookup?, h.map_id_lookup?, has, aliases_register]
  by_contra neither
  rw [not_or] at neither
  refine moved (resolvedId?_congr (kept _ fun same => neither.1 (String.ofList_eq.1 same)) ?_)
  intro segment last
  refine kept _ fun same => neither.2 ?_
  rw [last, String.ofList_eq.1 same]

/-- Aliases that are added later leave a canonical name in normal form to its own generator. -/
theorem resolve?_after_aliases {r : Registry} {id : String} {g : Generator} (normal : IsNormal id)
    (known : r.generator? id = some g) (aliases : List (String × String)) :
    (r.after (aliases.map fun a => .addAlias a.1 a.2)).resolve? id = some g := by
  suffices same : (r.after (aliases.map fun a => .addAlias a.1 a.2)).generators = r.generators by
    refine resolve?_of_generator? normal ?_
    rwa [generator?, same]
  rw [after, List.foldl_map]
  exact List.foldlRecOn (motive := fun b => b.generators = r.generators) aliases _ rfl
    fun b kept a _ => (generators_addAlias b a.1 a.2).trans kept

/-! ### The whole history -/

/-- What can be said of resolution after a history, whatever came before and whatever follows. -/
structure StableAfter (history : List Change) : Prop where
  /-- An alias points to a generator, which is found without another alias. -/
  targets : ∀ byname target, (byname, target) ∈ (empty.after history).aliases →
    ∃ g, g.id = target ∧ (empty.after history).generator? target = some g ∧
      (empty.after history).lookup? target = some g
  own : ∀ id g, (empty.after history).generator? id = some g → IsNormal id →
    g.id = id ∧ (empty.after history).resolve? id = some g ∧
      ∀ aliases : List (String × String),
        (empty.after (history ++ aliases.map fun a => .addAlias a.1 a.2)).resolve? id = some g
  resolves : ∀ name later, ((empty.after history).resolve? name).isSome = true →
    ((empty.after (history ++ later)).resolve? name).isSome = true
  moved_by_alias : ∀ name byname target,
    (empty.after (history ++ [.addAlias byname target])).resolve? name ≠
        (empty.after history).resolve? name →
      (empty.after history).generators.has (String.ofList (normalName name)) = false ∧
        (normalName name = byname.toList ∨ lastSegment? (normalName name) = some byname.toList)
  moved_by_generator : ∀ name g,
    (empty.after (history ++ [.register g])).resolvedId? name ≠
        (empty.after history).resolvedId? name →
      normalName name = g.id.toList ∨ lastSegment? (normalName name) = some g.id.toList

/-- Resolution is stable over every history from the empty registry. -/
theorem resolution_is_stable (history : List Change) : StableAfter history where
  targets := by
    intro byname target member
    have wellFormed := wellFormed_after history
    obtain ⟨g, known, same⟩ := wellFormed.generator?_target
      (Directory.get?_of_mem wellFormed.aliases_sorted member)
    exact ⟨g, same, known, lookup?_of_generator? known⟩
  own := by
    intro id g known normal
    refine ⟨(wellFormed_after history).id_eq id g known, resolve?_of_generator? normal known, ?_⟩
    intro aliases
    rw [after_append]
    exact resolve?_after_aliases normal known aliases
  resolves := by
    intro name later here
    have within : (empty.after history).Within (empty.after (history ++ later)) := by
      rw [after_append]
      exact within_after _ later
    exact isSome_resolve?_mono (wellFormed_after _) (wellFormed_after _) within here
  moved_by_alias := by
    intro name byname target moved
    rw [after_append] at moved
    exact of_resolve?_addAlias_ne moved
  moved_by_generator := by
    intro name g moved
    rw [after_append] at moved
    exact (wellFormed_after history).of_resolvedId?_register_ne moved

/-- A registered name with a capital is found only under its normal form, where an alias comes in
later. And the name of an alias may be taken by a generator, which other aliases then point to. -/
theorem alias_moves_capital_id :
    let r := empty.after
      [.register (.constant "Foo" [] .null), .register (.constant "g" [] .null)]
    let q := empty.after
      [.register (.constant "g" [] .null), .addAlias "a" "g",
        .register (.constant "a" [] .null), .addAlias "b" "a"]
    r.generators.has "Foo" = true ∧ r.resolvedId? "Foo" = none ∧
      (r.addAlias "foo" "g").resolvedId? "Foo" = some "g" ∧
      q.aliases = [("a", "g"), ("b", "a")] := by
  decide +kernel

end Registry

end Fabricate
