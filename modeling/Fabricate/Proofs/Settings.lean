import Fabricate.Generator.Standard
import Fabricate.Generator.Table.Source
import Fabricate.Proofs.Batch.Blame
import Fabricate.Settings

/-!
# Accepted settings

Settings that were loaded have a locale that is supported and no limit that is zero, however the
document and the environment say so (`Settings.Usable`). That is what the engine relies on without
looking at it again: a request without a locale is in a supported one, one document is never too
many, there is a worker for every batch, and the one element of an array without a number of
elements is allowed (`Engine.Safe`).
-/

namespace Fabricate

open Json

theorem bind_eq_ok {ε α β : Type} {x : Except ε α} {f : α → Except ε β} {b : β}
    (h : (x >>= f) = .ok b) : ∃ a, x = .ok a ∧ f a = .ok b := by
  cases x with
  | ok a => exact ⟨a, rfl, h⟩
  | error e => cases h

/-! ### Loading -/

/-- The locale is supported and no limit is zero. -/
structure Settings.Usable (s : Settings) : Prop where
  locale : ∃ l, Locale.parse? s.engine.defaultLocale = some l
  maxCount : 1 ≤ s.engine.maxCount
  maxArrayCount : 1 ≤ s.engine.maxArrayCount
  concurrency : 1 ≤ s.engine.concurrency

namespace Settings

theorem refusal?_eq_none_iff {s : Settings} : s.refusal? = none ↔ s.Usable := by
  unfold refusal?
  cases supported : Locale.parse? s.engine.defaultLocale with
  | none =>
      refine iff_of_false (by simp) fun usable => ?_
      obtain ⟨l, found⟩ := usable.locale
      rw [supported] at found
      cases found
  | some l =>
      have positive : (∀ limit ∈ s.limits, ¬ limit.2 = 0) ↔
          1 ≤ s.engine.maxCount ∧ 1 ≤ s.engine.maxArrayCount ∧ 1 ≤ s.engine.concurrency := by
        simp [limits, Nat.one_le_iff_ne_zero]
      simp only [Option.isNone_some, Bool.false_eq_true, if_false, Option.map_eq_none_iff,
        List.find?_eq_none, decide_eq_true_eq]
      exact positive.trans ⟨fun h => ⟨⟨l, supported⟩, h.1, h.2.1, h.2.2⟩,
        fun h => ⟨h.maxCount, h.maxArrayCount, h.concurrency⟩⟩

theorem usable_of_applyVariables {s changed : Settings} {environment? : String → Option String}
    (h : (do
      let changed ← s.applyVariables environment?
      match changed.refusal? with
      | none => return changed
      | some e => throw e : Except SettingsError Settings) = .ok changed) : changed.Usable := by
  obtain ⟨t, -, h⟩ := bind_eq_ok h
  cases refused : t.refusal? with
  | none =>
      rw [refused] at h
      cases h
      exact refusal?_eq_none_iff.1 refused
  | some e =>
      rw [refused] at h
      cases h

/-- Settings that are loaded are usable, whatever they are loaded from. -/
theorem usable_of_load {base s : Settings} {document : Option String}
    {environment? : String → Option String} (h : base.load document environment? = .ok s) :
    s.Usable := by
  unfold load at h
  cases document with
  | none => exact usable_of_applyVariables h
  | some text =>
      obtain ⟨written, -, h⟩ := bind_eq_ok h
      exact usable_of_applyVariables h

end Settings

/-! ### Shares and arrays -/

namespace Batch

theorem workerCount_le (concurrency count : Nat) : workerCount concurrency count ≤ count :=
  Nat.min_le_right _ _

theorem workerCount_le_concurrency {concurrency : Nat} (positive : 1 ≤ concurrency) (count : Nat) :
    workerCount concurrency count ≤ concurrency := by
  unfold workerCount
  omega

theorem runLength_pos {count workers : Nat} (positive : 0 < count) (some_workers : 0 < workers) :
    0 < runLength count workers := by
  have enough := le_mul_runLength count some_workers
  by_contra none_left
  rw [Nat.eq_zero_of_not_pos none_left, Nat.mul_zero] at enough
  omega

theorem runLength_le {count workers : Nat} (positive : 0 < count) (some_workers : 0 < workers) :
    runLength count workers ≤ count := by
  unfold runLength
  rw [Nat.div_le_iff_le_mul some_workers]
  have one_each := Nat.mul_le_mul_left count (Nat.one_le_iff_ne_zero.2 some_workers.ne')
  have share := Nat.le_mul_of_pos_left workers positive
  omega

end Batch

namespace Template

/-- The state in which a step ends, whether it fails or not. -/
def reached {α : Type} : EStateM.Result Failure Progress α → Progress
  | .ok _ r => r
  | .error _ r => r

theorem takeCount_le {params forwarded : Params} {max n : Nat} (atLeastOne : 1 ≤ max)
    (h : takeCount params max = (.ok n, forwarded)) : n ≤ max := by
  rcases takeCount_eq_ok.1 h with ⟨-, rfl, -⟩ | ⟨-, -, -, -, -, -, small⟩
  · exact atLeastOne
  · exact small

section

variable {s : Setting} (atLeastOne : 1 ≤ s.options.maxArrayCount) {path : FieldPath}
  {p : Placeholder}

include atLeastOne

/-- An array asks for at most the greatest number of elements. -/
theorem length_invocations_le (array : p.isArray = true) {seed : UInt64} {cs : List Invocation}
    (h : p.invocations s path seed = .ok cs) : cs.length ≤ s.options.maxArrayCount := by
  unfold Placeholder.invocations at h
  split at h
  · cases h
  · rw [if_pos array] at h
    split at h
    · cases h
    · next n forwarded count =>
        cases h
        rw [elementInvocations, List.length_map, List.length_range']
        exact takeCount_le atLeastOne count

theorem length_made_le (array : p.isArray = true) {seed : UInt64} {w later : World}
    {made : List Call} {ended : Option Outcome} {f : Failure}
    (h : Stops s path p seed w made ended f later) : made.length ≤ s.options.maxArrayCount := by
  cases h with
  | unasked _ => exact Nat.zero_le _
  | @called done rest c now later last ended f asked _ _ breaks =>
      have all := length_invocations_le atLeastOne array asked
      have one : last.length ≤ 1 := by
        cases breaks with
        | refused _ => exact Nat.zero_le _
        | failed _ _ => exact Nat.le_refl _
      rw [List.length_append, List.length_cons] at all
      rw [List.length_append, List.length_map]
      omega

/-- A row has at most the greatest number of elements, whatever slot it fills. -/
theorem length_le_of_fits {vs : List Value} {made : List (Answered s)} {seed : UInt64} {j : Slot}
    (h : (Content.row vs).Fits s made seed j) :
    1 ≤ vs.length ∧ vs.length ≤ s.options.maxArrayCount := by
  cases j with
  | single _ _ => cases h
  | row path p =>
      obtain ⟨g, given, forwarded, -, count, -⟩ := h
      exact ⟨takeCount_pos count, takeCount_le atLeastOne count⟩
  | mixed _ _ => cases h

theorem length_le_of_walk {template : Value} {seed : UInt64} {world : World} {filled : Filled}
    (h : (walk s template seed world).1 = .ok filled) :
    ∃ cs, filled.document = assemble template cs ∧
      ∀ vs, Content.row vs ∈ cs → vs.length ≤ s.options.maxArrayCount := by
  obtain ⟨cs, made, -, document, length, -, fits⟩ := fits_of_walk h
  refine ⟨cs, document, fun vs member => ?_⟩
  obtain ⟨k, inside, here⟩ := List.getElem_of_mem member
  have slot := List.getElem?_eq_getElem (l := slots .root template) (length ▸ inside)
  have content : cs[k]? = some (.row vs) := by rw [List.getElem?_eq_getElem inside, here]
  exact (length_le_of_fits atLeastOne (fits k _ _ content slot)).2

/-- Expanding an array makes at most as many calls, also when one of them fails. -/
theorem calls_expand_le (array : p.isArray = true) (q : Progress) :
    (reached (expand s path p q)).world.calls.length ≤
      q.world.calls.length + s.options.maxArrayCount := by
  have slot : (Slot.of path p).fill s q = (Content.row <$> expand s path p) q := by
    rw [Slot.of_array array, Slot.fill]
  -- Either all elements were made, or some were and one failed, for which there was a call or none.
  cases ran : expand s path p q with
  | ok vs r =>
      rw [fill_map_eq_ok.2 ⟨vs, ran, rfl⟩] at slot
      obtain ⟨cs, id, asked, performed, -⟩ := performed_of_fill slot
      have few := length_invocations_le atLeastOne array asked
      rw [reached, performed.calls, List.length_append, List.length_reverse, List.length_map]
      omega
  | error f r =>
      rw [fill_map_eq_error.2 ran] at slot
      obtain ⟨made, ended, stops⟩ := stops_of_fill slot
      have few := length_made_le atLeastOne array stops
      rw [reached, stops.calls, List.length_append, List.length_reverse]
      omega

end

end Template

/-! ### The engine -/

namespace Engine

open Template

/-- What settings must not allow. -/
structure Safe (e : Engine) : Prop where
  /-- A request without a locale is in a supported one. -/
  locale : ∀ job near world, job.locale = none → ∀ tag,
    (e.generate job near world).1 ≠ .error (.unsupportedLocale tag)
  /-- A number of documents is refused when it is zero or more than allowed, and only then. -/
  size : ∀ l today heeded template count seeds schedule world,
    (Batch.generate (e.setting l today) heeded template count seeds schedule world).1 =
        .error (.ofCount e.options.maxCount count) ↔
      ¬(1 ≤ count ∧ count ≤ e.options.maxCount)
  /-- The same of requests, which are looked at when their locale is supported. -/
  requestSize : ∀ job near world l, e.locale job.locale = .ok l →
    ((e.generate job near world).1 = .error (.ofCount e.options.maxCount job.count) ↔
      ¬(1 ≤ job.count ∧ job.count ≤ e.options.maxCount))
  /-- One document is never too many. -/
  one : ∀ job near world, job.count = 1 →
    (e.generate job near world).1 ≠ .error (.ofCount e.options.maxCount 1)
  /-- A batch has a worker, no more workers than allowed or needed, and runs that are not empty. -/
  shares : ∀ count, 1 ≤ count → count ≤ e.options.maxCount →
    let workers := Batch.workerCount e.options.concurrency count
    1 ≤ workers ∧ workers ≤ count ∧ workers ≤ e.options.concurrency ∧
      1 ≤ Batch.runLength count workers ∧ Batch.runLength count workers ≤ count
  /-- No array has more elements than allowed, and none takes more calls. -/
  arrays : ∀ l today path p q, p.isArray = true →
    (∀ vs r, expand (e.setting l today) path p q = .ok vs r →
      1 ≤ vs.length ∧ vs.length ≤ e.options.maxArrayCount) ∧
    (reached (expand (e.setting l today) path p q)).world.calls.length ≤
      q.world.calls.length + e.options.maxArrayCount
  /-- So no row of a document is longer. -/
  rows : ∀ l today template seed world filled,
    (walk (e.setting l today) template seed world).1 = .ok filled →
      ∃ cs, filled.document = assemble template cs ∧
        ∀ vs, Content.row vs ∈ cs → vs.length ≤ e.options.maxArrayCount

theorem generate_eq_ofCount_iff {e : Engine} {l : Locale} {today : Calendar.Date} {heeded : Bool}
    {template : Value} {count : Nat} {seeds : Batch.Seeds} {schedule : List Nat} {world : World} :
    (Batch.generate (e.setting l today) heeded template count seeds schedule world).1 =
        .error (.ofCount e.options.maxCount count) ↔
      ¬(1 ≤ count ∧ count ≤ e.options.maxCount) := by
  have outside : count = 0 ∨ e.options.maxCount < count ↔
      ¬(1 ≤ count ∧ count ≤ e.options.maxCount) := by
    omega
  exact Batch.generate_eq_ofCount_iff.trans outside

section

variable {s : Settings} (usable : s.Usable) (registry : Registry)

include usable

theorem locale_of_usable {job : Job} (unnamed : job.locale = none) :
    ∃ l, locale ⟨registry, s.engine⟩ job.locale = .ok l := by
  obtain ⟨l, supported⟩ := usable.locale
  refine ⟨l, locale_eq_ok_iff.2 ?_⟩
  rw [unnamed]
  exact supported

/-- The engine of usable settings is safe, with any generators. -/
theorem safe_of_usable : Safe ⟨registry, s.engine⟩ where
  locale := by
    intro job near world unnamed tag failed
    obtain ⟨l, supported⟩ := locale_of_usable usable registry unnamed
    exact Batch.generate_ne_unsupportedLocale tag ((generate_eq_error_iff supported).1 failed)
  size := fun _ _ _ _ _ _ _ _ => generate_eq_ofCount_iff
  requestSize := by
    intro job near world l supported
    rw [generate_eq_error_iff supported]
    exact generate_eq_ofCount_iff
  one := by
    intro job near world single failed
    cases named : locale ⟨registry, s.engine⟩ job.locale with
    | ok l =>
        rw [generate_eq_error_iff named, single] at failed
        exact generate_eq_ofCount_iff.1 failed ⟨Nat.le_refl 1, usable.maxCount⟩
    | error f =>
        rw [generate_of_locale_error named] at failed
        obtain ⟨tag, rfl⟩ := locale_eq_error named
        cases failed
  shares := by
    intro count positive small workers
    have some_workers := Batch.workerCount_pos s.engine.concurrency positive
    exact ⟨some_workers, Batch.workerCount_le _ _,
      Batch.workerCount_le_concurrency usable.concurrency count,
      Batch.runLength_pos positive some_workers, Batch.runLength_le positive some_workers⟩
  arrays := by
    intro l today path p q array
    refine ⟨fun vs r expanded => ?_, calls_expand_le usable.maxArrayCount array q⟩
    obtain ⟨-, made, -, fits⟩ := fits_of_expand expanded
    exact length_le_of_fits usable.maxArrayCount fits
  rows := fun _ _ _ _ _ _ => length_le_of_walk usable.maxArrayCount

end

/-- Accepted settings make a safe engine: whatever the document and the environment are from which
settings are loaded, and whatever the generators are. -/
theorem accepted_settings_are_safe (workers : Nat) (document : Option String)
    (environment? : String → Option String) (s : Settings)
    (accepted : (Settings.standard workers).load document environment? = .ok s)
    (registry : Registry) : Safe ⟨registry, s.engine⟩ :=
  safe_of_usable (Settings.usable_of_load accepted) registry

/-- The document allows two elements and the environment seven documents. -/
theorem accepted_settings_are_safe_limits :
    let document := "[engine]\nmax_array_count = 2\n"
    let environment? : String → Option String := fun name =>
      if name = "PHONEY_MAX_COUNT" then some " 7 " else none
    let o : Options := { Options.standard 4 with maxCount := 7, maxArrayCount := 2 }
    (Settings.standard 4).load (some document) environment? = .ok ⟨o, .standard⟩ ∧
      Safe ⟨.standard .tabled, o⟩ := by
  intro document environment? o
  have accepted : (Settings.standard 4).load (some document) environment? = .ok ⟨o, .standard⟩ := by
    decide +kernel
  exact ⟨accepted, accepted_settings_are_safe 4 (some document) environment? _ accepted
    (.standard .tabled)⟩

end Engine

end Fabricate
