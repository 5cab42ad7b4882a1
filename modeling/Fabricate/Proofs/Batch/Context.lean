import Fabricate.Proofs.Batch.Turn
import Fabricate.Proofs.Generator.Standard
import Fabricate.Proofs.Template.Context

/-!
# Where the locale and the day matter

With the standard registry of any source, the locale has no influence on a batch whose placeholders
stand for plain generators or for the names of colours (`LocaleFree`), and the day has none on a
batch without generators that count from it (`Undated`). The whole outcome is the same then: the
documents and the calls made for them, or the failure.

A batch reads its setting for the limits and hands it to its walks. So batches in two contexts pass
the same states, turn by turn, when walks over their template are the same in both.
-/

namespace Fabricate.Batch

open Json Template

/-- With the standard registry, the placeholders stand for generators that are said not to depend on
the locale. -/
def LocaleFree (source : TextSource) (template : Value) : Prop :=
  ∀ p ∈ tokensIn template, ∀ id ∈ (Registry.standard source).resolvedId? p.name,
    id ∈ Generator.localeFree

/-- With the standard registry, no placeholder stands for a generator that counts from the current
day. -/
def Undated (source : TextSource) (template : Value) : Prop :=
  ∀ p ∈ tokensIn template, ∀ id ∈ (Registry.standard source).resolvedId? p.name,
    id ∉ Generator.dated

instance (source : TextSource) (template : Value) : Decidable (LocaleFree source template) :=
  inferInstanceAs (Decidable (∀ _ ∈ tokensIn template, _))

instance (source : TextSource) (template : Value) : Decidable (Undated source template) :=
  inferInstanceAs (Decidable (∀ _ ∈ tokensIn template, _))

section

variable {s : Setting} {reference : Option Calendar.Date} {context : Context} {template : Value}
  (blind : ∀ p ∈ tokensIn template, BlindTo s context p)

include blind

theorem turn_moved (heeded : Bool) (seeds : Seeds) (b : State) (i : Nat) :
    b.turn (s.moved reference context) heeded template seeds i =
      b.turn s heeded template seeds i := by
  unfold State.turn
  rw [walk_moved blind]

theorem finish_moved (heeded : Bool) (seeds : Seeds) (count : Nat) (schedule : List Nat)
    (b : State) :
    b.finish (s.moved reference context) heeded template seeds count schedule =
      b.finish s heeded template seeds count schedule := by
  have turn : State.turn (s.moved reference context) heeded template seeds =
      State.turn s heeded template seeds := by
    funext b i
    exact turn_moved blind heeded seeds b i
  rw [State.finish_eq_foldl, State.finish_eq_foldl, turn]

/-- Batches of a template have the same outcome in both contexts when its placeholders make the same
in both. -/
theorem generate_moved (heeded : Bool) (count : Nat) (seeds : Seeds) (schedule : List Nat)
    (world : World) :
    generate (s.moved reference context) heeded template count seeds schedule world =
      generate s heeded template count seeds schedule world := by
  -- The log shows the locale, but the outcome does not.
  unfold generate perform
  by_cases outside : count = 0 ∨ s.options.maxCount < count
  · rw [if_pos outside, if_pos (by exact outside)]
    rfl
  · rw [if_neg outside, if_neg (by exact outside)]
    dsimp only [final]
    rw [finish_moved blind]
    rfl

end

section

variable {source : TextSource} {s : Setting} (registry : s.registry = .standard source)
  {template : Value}

include registry

theorem blindTo_of_localeFree (free : LocaleFree source template) (l : Locale) :
    ∀ p ∈ tokensIn template, BlindTo s ⟨l, s.context.today⟩ p := by
  intro p member g stands
  rw [registry] at stands
  have listed : g.id ∈ Generator.localeFree := by
    apply free p member
    rw [Option.mem_def, Registry.resolvedId?, stands, Option.map_some]
  exact Registry.ignoresLocale_of_resolve? stands listed s.context.locale l s.context.today

theorem blindTo_of_undated (undated : Undated source template) (day : Calendar.Date) :
    ∀ p ∈ tokensIn template, BlindTo s ⟨s.context.locale, day⟩ p := by
  intro p member g stands
  rw [registry] at stands
  have unlisted : g.id ∉ Generator.dated := by
    apply undated p member
    rw [Option.mem_def, Registry.resolvedId?, stands, Option.map_some]
  exact Registry.ignoresDay_of_resolve? stands unlisted s.context.locale s.context.today day

end

/-- Batches have the same outcome in two settings that differ in the reference date and in a context
to which the placeholders are blind. -/
theorem generate_mk_of_blind {r : Registry} {o : Options} {c context : Context} {template : Value}
    (blind : ∀ p ∈ tokensIn template, BlindTo ⟨r, o, c⟩ context p)
    (reference : Option Calendar.Date) (heeded : Bool) (count : Nat) (seeds : Seeds)
    (schedule : List Nat) (world : World) :
    generate ⟨r, { o with referenceDate := reference }, context⟩ heeded template count seeds
        schedule world =
      generate ⟨r, o, c⟩ heeded template count seeds schedule world := by
  rw [← Setting.moved_mk r o c]
  exact generate_moved blind heeded count seeds schedule world

/-- Locale and day matter only where they are read. With the standard registry of any source, a
batch has the same outcome in all locales if its placeholders stand for plain generators or for the
names of colours; and it has the same outcome on all days, whatever the reference date is, if none
stands for a generator that counts from the day. -/
theorem context_matters_only_where_read (source : TextSource) (o : Options) (heeded : Bool)
    (template : Value) (count : Nat) (seeds : Seeds) (schedule : List Nat) (world : World) :
    (LocaleFree source template → ∀ l l' day,
        generate ⟨.standard source, o, ⟨l, day⟩⟩ heeded template count seeds schedule world =
          generate ⟨.standard source, o, ⟨l', day⟩⟩ heeded template count seeds schedule world) ∧
      (Undated source template → ∀ l day day' reference reference',
        generate ⟨.standard source, { o with referenceDate := reference }, ⟨l, day⟩⟩ heeded template
            count seeds schedule world =
          generate ⟨.standard source, { o with referenceDate := reference' }, ⟨l, day'⟩⟩ heeded
            template count seeds schedule world) := by
  constructor
  · intro free l l' day
    have blind := blindTo_of_localeFree (s := ⟨.standard source, o, ⟨l, day⟩⟩) (by dsimp only)
      free l'
    exact (generate_mk_of_blind blind o.referenceDate heeded count seeds schedule world).symm
  · intro undated l day day' reference reference'
    have blind := blindTo_of_undated
      (s := ⟨.standard source, { o with referenceDate := reference }, ⟨l, day⟩⟩) (by dsimp only)
      undated day'
    exact (generate_mk_of_blind blind reference' heeded count seeds schedule world).symm

/-- The names of numbers and of colours are aliases. -/
theorem context_matters_only_where_read_number :
    let template : Value := .array [.string "\x7b\x7bnumber\x7d\x7d"]
    let day : Calendar.Date := ⟨2024, 6, 1, by decide, by decide, by decide⟩
    let outcome (l : Locale) (day : Calendar.Date) :=
      generate ⟨.standard .tabled, .standard 1, ⟨l, day⟩⟩ true template 2 ⟨some 7, fun _ => 0⟩ []
        ⟨[], false⟩
    LocaleFree .tabled template ∧ Undated .tabled template ∧
      outcome .enUS day = outcome .jaJP day ∧ outcome .enUS day = outcome .enUS .epoch := by
  intro template day outcome
  have free : LocaleFree .tabled template ∧ Undated .tabled template := by decide +kernel
  have both := context_matters_only_where_read .tabled (.standard 1) true template 2
    ⟨some 7, fun _ => 0⟩ [] ⟨[], false⟩
  exact ⟨free.1, free.2, both.1 free.1 .enUS .jaJP day,
    both.2 free.2 .enUS day .epoch none none⟩

end Fabricate.Batch
