import Mathlib.Data.List.Nodup
import Fabricate.Generator.Standard
import Fabricate.Generator.Table.Source
import Fabricate.Proofs.Generator.History

/-!
# What the standard generators look at

Every generator is handed the locale and the current day, and few of them look at both. That one
does not look at the locale, or at the day, is said of the generator as a function: whatever stands
there, it makes the same value from the same draws (`IgnoresLocale`, `IgnoresDay`).

The generators of numbers, dates and patterns ignore the locale, and so do the names of colours. The
day matters to those generators only that count from it, which are named in `dated`; a source of
texts is never handed the day. All of this holds for every source. A name in a template can stand
for no other generators than these, since the standard registry is made by adding them and then
their aliases (`mem_of_resolve?_standard`).
-/

namespace Fabricate

theorem Directory.mem_of_mem_put {α : Type} {d : Directory α} {name : String} {v : α}
    {entry : String × α} (h : entry ∈ d.put name v) : entry ∈ d ∨ entry.2 = v := by
  induction d with
  | nil =>
      cases List.mem_singleton.1 h
      exact .inr rfl
  | cons first rest ih =>
      rw [put, update] at h
      split at h
      · rcases List.mem_cons.1 h with rfl | later
        · exact .inr rfl
        · exact .inl (List.mem_cons_of_mem _ later)
      · split at h
        · rcases List.mem_cons.1 h with rfl | later
          · exact .inr rfl
          · exact .inl later
        · rcases List.mem_cons.1 h with rfl | later
          · exact .inl List.mem_cons_self
          · exact (ih later).imp (List.mem_cons_of_mem _) id

namespace Generator

open Fabricate.Random

/-- The generator makes the same of the same draws in all locales. -/
def IgnoresLocale (g : Generator) : Prop :=
  ∀ l l' day, g.generate ⟨l, day⟩ = g.generate ⟨l', day⟩

/-- The generator makes the same of the same draws on all days. -/
def IgnoresDay (g : Generator) : Prop :=
  ∀ l day day', g.generate ⟨l, day⟩ = g.generate ⟨l, day'⟩

/-- The standard generators that are said not to depend on the locale. -/
def localeFree : List String :=
  plain.map Generator.id ++ [colorName.id]

/-- The standard generators that count from the current day. -/
def dated : List String :=
  ["date", "date_between", "date_of_birth", "date_time", "date_time_between", "iso8601",
    "unix_time", "year", "month"]

theorem ignoresLocale_ofProduce {id provider : String} {specs : List ParamSpec}
    {produce : Context → Params → Produce Datum}
    (h : ∀ l l' day params, produce ⟨l, day⟩ params = produce ⟨l', day⟩ params) :
    (ofProduce id provider specs produce).IgnoresLocale := by
  intro l l' day
  funext params world stream
  simp only [ofProduce, h l l' day]

theorem ignoresDay_ofProduce {id provider : String} {specs : List ParamSpec}
    {produce : Context → Params → Produce Datum}
    (h : ∀ l day day' params, produce ⟨l, day⟩ params = produce ⟨l, day'⟩ params) :
    (ofProduce id provider specs produce).IgnoresDay := by
  intro l day day'
  funext params world stream
  simp only [ofProduce, h l day day']

theorem ignoresDay_textGenerator (id provider : String) (draw : Locale → Draw String) :
    (textGenerator id provider draw).IgnoresDay :=
  ignoresDay_ofProduce fun _ _ _ _ => rfl

theorem ignoresLocale_plain : ∀ g ∈ plain, g.IgnoresLocale := by
  simp only [plain, List.forall_mem_cons, List.not_mem_nil, IsEmpty.forall_iff, implies_true,
    and_true]
  and_intros
  all_goals exact ignoresLocale_ofProduce fun l l' day params => rfl

theorem ignoresLocale_colorName : colorName.IgnoresLocale := by
  unfold colorName textGenerator
  exact ignoresLocale_ofProduce fun _ _ _ _ => rfl

/-- Those of the plain generators that do not count from the current day. -/
def timeless : List Generator :=
  [intRange "random_int" "min" "max",
    intRange "pyint" "min_value" "max_value",
    randomDigit,
    randomNumber,
    realNumber "pyfloat",
    realNumber "pydecimal",
    chance "pybool" "truth_probability",
    chance "boolean" "chance_of_getting_true",
    uuid4,
    coordinate "latitude" 90,
    coordinate "longitude" 180,
    time,
    randomElement,
    randomLetter,
    pattern "numerify" "###" true false,
    pattern "lexify" "????" false true,
    pattern "bothify" "## ??" true true,
    ssn]

theorem filter_plain : plain.filter (fun g => g.id ∉ dated) = timeless := by
  rfl

theorem ignoresDay_timeless : ∀ g ∈ timeless, g.IgnoresDay := by
  simp only [timeless, List.forall_mem_cons, List.not_mem_nil, IsEmpty.forall_iff, implies_true,
    and_true]
  and_intros
  all_goals exact ignoresDay_ofProduce fun l day day' params => rfl

/-- The names of the generators do not depend on the source. -/
theorem ids_sourced (source source' : TextSource) :
    (sourced source).map Generator.id = (sourced source').map Generator.id := by
  simp only [sourced, person, internet, address, company, lorem, phone, color, finance, filesystem,
    textGenerator, password, word, words, sentence, paragraph, text, slug, ofProduce,
    List.map_append, List.map_cons, List.map_nil]

theorem ignoresDay_sourced (source : TextSource) : ∀ g ∈ sourced source, g.IgnoresDay := by
  simp only [sourced, person, internet, address, company, lorem, phone, color, finance, filesystem,
    colorName, word, slug, List.forall_mem_append, List.forall_mem_cons, List.not_mem_nil,
    IsEmpty.forall_iff, implies_true, and_true, true_and, ignoresDay_textGenerator]
  and_intros
  all_goals exact ignoresDay_ofProduce fun l day day' params => rfl

end Generator

namespace Registry

/-- The generators of the standard registry, in the order in which they are added. -/
def standardGenerators (source : TextSource) : List Generator :=
  Generator.sourced source ++ Generator.plain

theorem nodup_ids_standard (source : TextSource) :
    ((standardGenerators source).map Generator.id).Nodup := by
  rw [standardGenerators, List.map_append, Generator.ids_sourced source .tabled, ← List.map_append]
  decide +kernel

theorem mem_of_mem_foldl_register {gs : List Generator} {r : Registry} {id : String}
    {g : Generator} (h : (id, g) ∈ (gs.foldl Registry.register r).generators) :
    (id, g) ∈ r.generators ∨ g ∈ gs := by
  induction gs generalizing r with
  | nil => exact .inl h
  | cons first rest ih =>
      rcases ih h with earlier | later
      · rcases Directory.mem_of_mem_put earlier with before | added
        · exact .inl before
        · exact .inr (List.mem_cons.2 (.inl added))
      · exact .inr (List.mem_cons_of_mem _ later)

theorem generator?_register_self (r : Registry) (g : Generator) :
    (r.register g).generator? g.id = some g :=
  Directory.get?_put_self _ _ _

theorem generator?_register_of_ne (r : Registry) {g : Generator} {id : String} (h : id ≠ g.id) :
    (r.register g).generator? id = r.generator? id :=
  Directory.get?_update_of_ne _ h _

theorem generator?_foldl_register_of_notMem {gs : List Generator} {id : String}
    (h : id ∉ gs.map Generator.id) (r : Registry) :
    (gs.foldl Registry.register r).generator? id = r.generator? id := by
  induction gs generalizing r with
  | nil => rfl
  | cons first rest ih =>
      rw [List.map_cons, List.mem_cons, not_or] at h
      rw [List.foldl_cons, ih h.2, generator?_register_of_ne r h.1]

/-- A generator that is added is found under its name, unless one of that name comes later. -/
theorem generator?_foldl_register {gs : List Generator} (nodup : (gs.map Generator.id).Nodup)
    {g : Generator} (h : g ∈ gs) (r : Registry) :
    (gs.foldl Registry.register r).generator? g.id = some g := by
  induction gs generalizing r with
  | nil => cases h
  | cons first rest ih =>
      rw [List.map_cons, List.nodup_cons] at nodup
      rw [List.foldl_cons]
      rcases List.mem_cons.1 h with rfl | later
      · rw [generator?_foldl_register_of_notMem nodup.1, generator?_register_self]
      · exact ih nodup.2 later _

theorem generators_foldl_addAlias (r : Registry) (names : List (String × String)) :
    (names.foldl (fun r (name, target) => r.addAlias name target) r).generators =
      r.generators := by
  induction names generalizing r with
  | nil => rfl
  | cons first rest ih => rw [List.foldl_cons, ih, generators_addAlias]

/-- The name of a standard generator stands for it. -/
theorem resolve?_standard {source : TextSource} {g : Generator} (h : g ∈ standardGenerators source)
    (normal : IsNormal g.id) : (standard source).resolve? g.id = some g := by
  refine resolve?_of_generator? normal ?_
  rw [generator?, standard, generators_foldl_addAlias, ← generator?]
  exact generator?_foldl_register (nodup_ids_standard source) h _

/-- A name in a template can stand for no other generators than the standard ones. -/
theorem mem_of_resolve?_standard {source : TextSource} {name : String} {g : Generator}
    (h : (standard source).resolve? name = some g) : g ∈ standardGenerators source := by
  obtain ⟨id, member⟩ := mem_of_resolve? h
  rw [standard, generators_foldl_addAlias] at member
  exact (mem_of_mem_foldl_register member).resolve_left List.not_mem_nil

/-- What a name stands for ignores the locale if it is said to. -/
theorem ignoresLocale_of_resolve? {source : TextSource} {name : String} {g : Generator}
    (h : (standard source).resolve? name = some g) (free : g.id ∈ Generator.localeFree) :
    g.IgnoresLocale := by
  have member := mem_of_resolve?_standard h
  -- No two standard generators have one identifier, so the one that is listed is this one.
  have same : ∀ f ∈ standardGenerators source, f.id = g.id → f = g := fun f known equal =>
    List.inj_on_of_nodup_map (nodup_ids_standard source) known member equal
  rcases List.mem_append.1 free with listed | named
  · obtain ⟨f, plain, equal⟩ := List.mem_map.1 listed
    rw [← same f (List.mem_append_right _ plain) equal]
    exact Generator.ignoresLocale_plain f plain
  · have colour : Generator.colorName ∈ standardGenerators source := by
      simp only [standardGenerators, Generator.sourced, Generator.color, List.mem_append,
        List.mem_cons, true_or, or_true]
    rw [← same _ colour (List.mem_singleton.1 named).symm]
    exact Generator.ignoresLocale_colorName

/-- What a name stands for ignores the day unless it is said to count from it. -/
theorem ignoresDay_of_resolve? {source : TextSource} {name : String} {g : Generator}
    (h : (standard source).resolve? name = some g) (undated : g.id ∉ Generator.dated) :
    g.IgnoresDay := by
  rcases List.mem_append.1 (mem_of_resolve?_standard h) with member | member
  · exact Generator.ignoresDay_sourced source g member
  · apply Generator.ignoresDay_timeless
    rw [← Generator.filter_plain, List.mem_filter]
    exact ⟨member, decide_eq_true undated⟩

end Registry

end Fabricate
