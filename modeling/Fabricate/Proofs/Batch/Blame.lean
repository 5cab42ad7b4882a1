import Fabricate.Proofs.Batch.Cancellation

/-!
# What jobs fail of

A walk fails because of what its template says or because a generator breaks down, and only so
(`Failure.OfTemplate`). A batch fails of its size, because the work is to stop, or because one of
its walks does; a job also fails of its locale. The classes do not meet, so the size and the locale
can be read off the failure: no walk complains of either.
-/

namespace Fabricate

open Json Template

/-- The failures of walks. -/
inductive Failure.OfTemplate : Failure → Prop
  | unknown (path : FieldPath) (name : String) (suggestions : List String) :
      OfTemplate (.generatorNotFound path.label name suggestions)
  | parameter (path : FieldPath) (generator : String) (e : ParamError) :
      OfTemplate (.parameter path.label (some generator) e)
  | broken (path : FieldPath) (generator reason : String) :
      OfTemplate (.internal path.label generator reason)
  | mixed (path : FieldPath) (name : String) : OfTemplate (mixedFailure path name)
  | tooLarge (path : FieldPath) (count max : Nat) :
      OfTemplate (.badStructure path.label (tooLargeReason count max))

/-- What is wrong with the number of documents. -/
def Failure.ofCount (max count : Nat) : Failure :=
  .badStructure "count" (Batch.countReason max count)

theorem head?_countReason (max count : Nat) :
    (Batch.countReason max count).toList.head? = some 'c' :=
  Text.head?_toList_append
    (Text.head?_toList_append (Text.head?_toList_append (by decide) _) _) _

theorem head?_mixedReason (name : String) :
    (mixedReason ++ " ('" ++ name ++ "')").toList.head? = some 'a' :=
  Text.head?_toList_append
    (Text.head?_toList_append (Text.head?_toList_append (by decide) _) _) _

theorem head?_tooLargeReason (count max : Nat) :
    (tooLargeReason count max).toList.head? = some 'a' :=
  Text.head?_toList_append
    (Text.head?_toList_append (Text.head?_toList_append (by decide) _) _) _

namespace Failure.OfTemplate

theorem ne_unsupportedLocale {f : Failure} (h : f.OfTemplate) (tag : String) :
    f ≠ .unsupportedLocale tag := by
  rintro rfl
  cases h

/-- The reasons begin with different letters. -/
theorem ne_ofCount {f : Failure} (h : f.OfTemplate) (max count : Nat) :
    f ≠ .ofCount max count := by
  intro same
  have letters : some 'a' ≠ some 'c' := by decide
  cases h with
  | unknown _ _ _ => cases same
  | parameter _ _ _ => cases same
  | broken _ _ _ => cases same
  | mixed path name =>
      injection same with _ reason
      rw [← head?_mixedReason name, reason, head?_countReason] at letters
      exact letters rfl
  | tooLarge path n most =>
      injection same with _ reason
      rw [← head?_tooLargeReason n most, reason, head?_countReason] at letters
      exact letters rfl

end Failure.OfTemplate

/-! ### Walks -/

namespace Template

theorem Breaks.ofTemplate {s : Setting} {c : Invocation} {w later : World} {made : List Call}
    {ended : Option Outcome} {f : Failure} (h : Breaks s c w made ended f later) :
    f.OfTemplate := by
  cases h with
  | refused _ => exact .parameter _ _ _
  | @failed e _ _ =>
      cases e with
      | refused e => exact .parameter _ _ e
      | failed reason => exact .broken _ _ reason

theorem ofTemplate_of_prepare_error {s : Setting} {path : FieldPath} {p : Placeholder}
    {f : Failure} (h : prepare s path p = .error f) : f.OfTemplate := by
  unfold prepare at h
  split at h
  · cases h
    exact .unknown _ _ _
  · split at h
    · cases h
      exact .parameter _ _ _
    · cases h

theorem ofTemplate_of_invocations_error {s : Setting} {path : FieldPath} {p : Placeholder}
    {seed : UInt64} {f : Failure} (h : p.invocations s path seed = .error f) : f.OfTemplate := by
  unfold Placeholder.invocations at h
  split at h
  · next e unprepared =>
      cases h
      exact ofTemplate_of_prepare_error unprepared
  · split at h
    · split at h
      · next e _ _ =>
          cases h
          cases e with
          | invalid value => exact .parameter _ _ _
          | tooLarge count max => exact .tooLarge _ count max
      · cases h
    · cases h

theorem Leaf.Halts.ofTemplate {s : Setting} {l : Leaf} {seed : UInt64} {w later : World}
    {before : List (FieldPath × Placeholder)} {made : List Call} {ended : Option Outcome}
    {f : Failure} (h : l.Halts s seed w before made ended f later) : f.OfTemplate := by
  cases h with
  | mixed _ _ => exact .mixed _ _
  | placeholder _ _ stops =>
      cases stops with
      | unasked refused => exact ofTemplate_of_invocations_error refused
      | called _ _ _ breaks => exact breaks.ofTemplate

theorem ofTemplate_of_walk {s : Setting} {template : Value} {seed : UInt64} {world later : World}
    {f : Failure} (h : walk s template seed world = (.error f, later)) : f.OfTemplate := by
  obtain ⟨_, _, _, _, _, _, _, _, -, -, -, -, halts⟩ := halts_of_walk h
  exact halts.ofTemplate

end Template

/-! ### Batches -/

namespace Batch

/-- What is read off the items is the failure of one of them, or that not all were done. -/
theorem cancelled_or_mem_of_collect {rs : List (Option (Except Failure Filled))} {f : Failure}
    (h : collect rs = .error f) : f = .cancelled ∨ some (.error f) ∈ rs := by
  induction rs with
  | nil => cases h
  | cons r rs ih =>
      cases r with
      | none =>
          rw [collect] at h
          split at h
          · next g failed =>
              cases h
              exact (ih failed).imp_right (List.mem_cons_of_mem _)
          · cases h
            exact .inl rfl
      | some result =>
          cases result with
          | error g =>
              cases h
              exact .inr List.mem_cons_self
          | ok filled =>
              rw [collect] at h
              cases rest : collect rs with
              | error g =>
                  rw [rest] at h
                  cases h
                  exact (ih rest).imp_right (List.mem_cons_of_mem _)
              | ok others =>
                  rw [rest] at h
                  cases h

section

variable {s : Setting} {heeded : Bool} {template : Value} {count : Nat} {seeds : Seeds}
  {schedule : List Nat} {world : World}

theorem ofTemplate_of_mem_done {i : Nat} {f : Failure}
    (h : (i, .error f) ∈ (final s heeded template count seeds schedule world).done) :
    f.OfTemplate := by
  refine State.done_induction (P := fun done _ _ => ∀ i g, (i, .error g) ∈ done → g.OfTemplate)
    ?_ ?_ passes_final i f h
  · -- One more item is done, by a walk.
    intro done failed w n result later walked held i g member
    rcases List.mem_cons.1 member with here | earlier
    · cases here
      exact ofTemplate_of_walk walked
    · exact held i g earlier
  · exact fun i g member => absurd member List.not_mem_nil

/-- A batch of an allowed size fails because the work is to stop or because a walk fails. -/
theorem cancelled_or_ofTemplate (inside : ¬(count = 0 ∨ s.options.maxCount < count)) {f : Failure}
    (h : (generate s heeded template count seeds schedule world).1 = .error f) :
    f = .cancelled ∨ f.OfTemplate := by
  rw [generate_of_count (by omega) (by omega)] at h
  split at h
  · cases h
    exact .inl rfl
  · rcases cancelled_or_mem_of_collect h with cancelled | member
    · exact .inl cancelled
    · obtain ⟨i, -, result⟩ := List.mem_map.1 member
      exact .inr (ofTemplate_of_mem_done (State.mem_of_result? result))

/-- A batch fails of its size exactly when it is empty or too large. -/
theorem generate_eq_ofCount_iff :
    (generate s heeded template count seeds schedule world).1 =
        .error (.ofCount s.options.maxCount count) ↔
      count = 0 ∨ s.options.maxCount < count := by
  by_cases outside : count = 0 ∨ s.options.maxCount < count
  · rw [generate_of_outside outside]
    exact iff_of_true rfl outside
  · refine iff_of_false (fun h => ?_) outside
    rcases cancelled_or_ofTemplate outside h with cancelled | ofTemplate
    · cases cancelled
    · exact ofTemplate.ne_ofCount _ _ rfl

theorem generate_ne_unsupportedLocale (tag : String) :
    (generate s heeded template count seeds schedule world).1 ≠ .error (.unsupportedLocale tag) := by
  intro h
  by_cases outside : count = 0 ∨ s.options.maxCount < count
  · rw [generate_of_outside outside] at h
    cases h
  · rcases cancelled_or_ofTemplate outside h with cancelled | ofTemplate
    · cases cancelled
    · exact ofTemplate.ne_unsupportedLocale tag rfl

end

end Batch

/-! ### Jobs -/

namespace Engine

variable {e : Engine} {job : Job} {near : Surroundings} {world : World} {l : Locale}

theorem locale_eq_ok_iff :
    e.locale job.locale = .ok l ↔
      Locale.parse? (job.locale.getD e.options.defaultLocale) = some l := by
  unfold locale
  dsimp only
  cases Locale.parse? (job.locale.getD e.options.defaultLocale) <;> simp

theorem locale_eq_error {f : Failure} (h : e.locale job.locale = .error f) :
    ∃ tag, f = .unsupportedLocale tag := by
  unfold locale at h
  dsimp only at h
  split at h
  · cases h
  · cases h
    exact ⟨_, rfl⟩

theorem generate_of_locale_error {f : Failure} (h : e.locale job.locale = .error f) :
    e.generate job near world = (.error f, world) := by
  unfold generate perform
  rw [h]

/-- A job in a supported locale fails as its batch does. -/
theorem generate_eq_error_iff (supported : e.locale job.locale = .ok l) {f : Failure} :
    (e.generate job near world).1 = .error f ↔
      (Batch.generate (e.setting l near.today) true job.template job.count
        ⟨job.seed, near.chance⟩ near.schedule world).1 = .error f := by
  rw [e.generate_of_supported job near world (locale_eq_ok_iff.1 supported)]
  cases (Batch.generate (e.setting l near.today) true job.template job.count
    ⟨job.seed, near.chance⟩ near.schedule world).1 <;> simp [Except.map]

end Engine

end Fabricate
