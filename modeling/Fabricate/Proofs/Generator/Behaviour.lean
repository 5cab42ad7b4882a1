import Fabricate.Template.Walk

/-!
# What a registry promises

A generator may fail, look at the calls made so far and set the flag that asks for the work to
stop. Statements about walks therefore name what they ask of the generators: that they never fail
on parameters that their declarations accept (`Registry.NeverFails`), that they are functions of
context, parameters and stream (`Registry.Functional`), or what they keep of the world
(`Registry.Keeps`). A walk only ever meets generators of its registry (`Registry.mem_of_resolve?`).

A registry with one generator that always gives the same value makes all of these promises.
-/

namespace Fabricate

open Fabricate.Random

theorem Directory.mem_of_get? {α : Type} {d : Directory α} {name : String} {v : α}
    (h : d.get? name = some v) : (name, v) ∈ d := by
  induction d with
  | nil => cases h
  | cons entry rest ih =>
      obtain ⟨n, w⟩ := entry
      rw [get?] at h
      split at h
      · next same =>
          cases h
          rw [same]
          exact List.mem_cons_self
      · exact List.mem_cons_of_mem _ (ih h)

namespace Registry

theorem mem_of_lookup? {r : Registry} {name : String} {g : Generator}
    (h : r.lookup? name = some g) : ∃ id, (id, g) ∈ r.generators := by
  rw [lookup?, Option.or_eq_some_iff] at h
  rcases h with found | ⟨-, found⟩
  · exact ⟨name, Directory.mem_of_get? found⟩
  · obtain ⟨target, -, found⟩ := Option.bind_eq_some_iff.1 found
    exact ⟨target, Directory.mem_of_get? found⟩

theorem mem_of_resolve? {r : Registry} {name : String} {g : Generator}
    (h : r.resolve? name = some g) : ∃ id, (id, g) ∈ r.generators := by
  rw [resolve?, Option.or_eq_some_iff] at h
  rcases h with found | ⟨-, found⟩
  · exact mem_of_lookup? found
  · obtain ⟨segment, -, found⟩ := Option.bind_eq_some_iff.1 found
    exact mem_of_lookup? found

/-- No generator fails on parameters that its declarations accept. -/
def NeverFails (r : Registry) : Prop :=
  ∀ id g, (id, g) ∈ r.generators → ∀ context params world stream,
    params.refusal? g.specs g.id = none →
      ∃ v, (g.generate context params world stream).outcome = .value v

/-- Every generator is a function of context, parameters and stream, the parameters up to `alike`:
equality for generators that may look at everything, agreement of all look-ups for those that only
look keys up. -/
def Functional (alike : Params → Params → Prop) (r : Registry) : Prop :=
  ∀ id g, (id, g) ∈ r.generators → ∀ context params others world elsewhere stream,
    alike params others →
      (g.generate context params world stream).outcome =
        (g.generate context others elsewhere stream).outcome

/-- What holds of a world holds of it after every call of a generator. -/
def Keeps (r : Registry) (P : World → Prop) : Prop :=
  ∀ id g, (id, g) ∈ r.generators → ∀ context params w stream made, P w →
    P ⟨made :: w.calls, (g.generate context params w stream).cancelled⟩

theorem keeps_true (r : Registry) : r.Keeps fun _ => True :=
  fun _ _ _ _ _ _ _ _ _ => trivial

end Registry

theorem Outcome.result_eq_ok {o : Outcome} {v : Datum} : o.result = .ok v ↔ o = .value v := by
  cases o <;> simp [Outcome.result]

/-- A call that gives a value was made, and it is the last one made. -/
theorem Generator.invoke_eq_ok {g : Generator} {context : Context} {params : Params}
    {seed : UInt64} {world later : World} {v : Datum} :
    g.invoke context params seed world = (.ok v, later) ↔
      params.refusal? g.specs g.id = none ∧
        (g.generate context params world (Stream.ofSeed seed)).outcome = .value v ∧
        later = ⟨⟨g.id, params, seed⟩ :: world.calls,
          (g.generate context params world (Stream.ofSeed seed)).cancelled⟩ := by
  unfold Generator.invoke
  cases params.refusal? g.specs g.id with
  | some e => simp
  | none =>
      simp only [Prod.mk.injEq, Outcome.result_eq_ok, true_and]
      exact and_congr_right fun _ => eq_comm

/-- A generator that always gives the same value. -/
def Generator.constant (id : String) (specs : List ParamSpec) (v : Datum) : Generator :=
  .ofProduce id "constant" specs fun _ _ => return v

/-- The registry of one generator that always gives the same value. -/
def Registry.constant (id : String) (specs : List ParamSpec) (v : Datum) : Registry :=
  Registry.empty.register (.constant id specs v)

theorem Registry.neverFails_constant (id : String) (specs : List ParamSpec) (v : Datum) :
    (Registry.constant id specs v).NeverFails := by
  intro name g member context params world stream _
  rw [(Prod.mk.inj (List.mem_singleton.1 member)).2]
  exact ⟨v, rfl⟩

theorem Registry.functional_constant (alike : Params → Params → Prop) (id : String)
    (specs : List ParamSpec) (v : Datum) : (Registry.constant id specs v).Functional alike := by
  intro name g member context params others world elsewhere stream _
  rw [(Prod.mk.inj (List.mem_singleton.1 member)).2]
  rfl

/-- The generator leaves the flag as it is. -/
theorem Registry.keeps_constant (id : String) (specs : List ParamSpec) (v : Datum) (set : Bool) :
    (Registry.constant id specs v).Keeps fun w => w.cancelled = set := by
  intro name g member context params w stream made same
  rw [(Prod.mk.inj (List.mem_singleton.1 member)).2]
  exact same

/-- A setting with one generator that always gives the same value, and the standard limits. -/
def Template.Setting.constant (id : String) (specs : List ParamSpec) (v : Datum) :
    Template.Setting where
  registry := .constant id specs v
  options := .standard 1
  context := ⟨.enUS, ⟨2024, 6, 1, by decide, by decide, by decide⟩⟩

end Fabricate
