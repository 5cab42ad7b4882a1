import Fabricate.Proofs.Generator.History

/-!
# Registries that differ in reasons

When a generator fails or crashes it gives a reason, and nobody but the log is to learn it.
`Outcome.known?` is what is left of an outcome without that: a value, a refusal, or nothing. Two
generators are the same up to reasons when they declare the same and always leave this same rest and
the same flag, and two registries when they have the same names and the same generators up to
reasons behind them.

Every name then resolves in both or in neither, to generators that are the same up to reasons, and
the same names are suggested for it.
-/

namespace Fabricate

open Fabricate.Random

/-- What is known of the end of a call without the reason of a breakdown, and without whether the
generator failed or crashed. -/
def Outcome.known? : Outcome → Option (Except ParamError Datum)
  | .value v => some (.ok v)
  | .refused e => some (.error e)
  | .failed _ => none
  | .crashed _ => none

/-- The answers to a call are the same, or both say that the generator failed. -/
theorem Outcome.result_cases {o o' : Outcome} (h : o.known? = o'.known?) :
    o.result = o'.result ∨
      ∃ reason reason', o.result = .error (.failed reason) ∧
        o'.result = .error (.failed reason') := by
  cases o <;> cases o' <;> simp_all [known?, result]

/-- The generators declare the same and end every call in the same way, except for reasons. -/
structure Generator.SameButReasons (g g' : Generator) : Prop where
  id : g.id = g'.id
  specs : g.specs = g'.specs
  known : ∀ context params world stream,
    (g.generate context params world stream).outcome.known? =
      (g'.generate context params world stream).outcome.known?
  cancelled : ∀ context params world stream,
    (g.generate context params world stream).cancelled =
      (g'.generate context params world stream).cancelled

theorem rel_or {α β : Type} {R : α → β → Prop} {a b : Option α} {a' b' : Option β}
    (first : Option.Rel R a a') (second : Option.Rel R b b') :
    Option.Rel R (a.or b) (a'.or b') := by
  cases first with
  | some related => exact .some related
  | none => exact second

namespace Registry

/-- The registries have the same names, and behind them generators that are the same except for
reasons. -/
structure SameButReasons (r r' : Registry) : Prop where
  ids : r.ids = r'.ids
  aliases : r.aliases = r'.aliases
  generators : ∀ id g g', r.generator? id = some g → r'.generator? id = some g' →
    g.SameButReasons g'

namespace SameButReasons

variable {r r' : Registry} (h : r.SameButReasons r')

include h

theorem generator? (id : String) :
    Option.Rel Generator.SameButReasons (r.generator? id) (r'.generator? id) := by
  have known : (r.generator? id).isSome = (r'.generator? id).isSome := by
    have has : r.generators.has id = true ↔ r'.generators.has id = true := by
      rw [Directory.has_iff_mem_names, Directory.has_iff_mem_names]
      exact iff_of_eq (congrArg (id ∈ ·) h.ids)
    exact Bool.eq_iff_iff.2 has
  cases found : r.generator? id with
  | none =>
      rw [found] at known
      rw [Option.isNone_iff_eq_none.1 (Option.isSome_eq_false_iff.1 known.symm)]
      exact .none
  | some g =>
      rw [found] at known
      obtain ⟨g', found'⟩ := Option.isSome_iff_exists.1 known.symm
      rw [found']
      exact .some (h.generators id g g' found found')

theorem lookup? (name : String) :
    Option.Rel Generator.SameButReasons (r.lookup? name) (r'.lookup? name) := by
  rw [Registry.lookup?, Registry.lookup?, ← h.aliases]
  refine rel_or (h.generator? name) ?_
  cases r.aliases.get? name with
  | none => exact .none
  | some target => exact h.generator? target

/-- A name stands for the same generator except for reasons, or for none in both. -/
theorem resolve? (name : String) :
    Option.Rel Generator.SameButReasons (r.resolve? name) (r'.resolve? name) := by
  rw [Registry.resolve?, Registry.resolve?]
  refine rel_or (h.lookup? _) ?_
  cases lastSegment? (normalName name) with
  | none => exact .none
  | some segment => exact h.lookup? (String.ofList segment)

theorem suggest (name : String) (limit : Nat) : r.suggest name limit = r'.suggest name limit := by
  rw [Registry.suggest, Registry.suggest, h.ids, h.aliases]

end SameButReasons

end Registry

end Fabricate
