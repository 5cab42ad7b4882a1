import Fabricate.Generator.Scripted
import Fabricate.Proofs.Template.Invocation

/-!
# The first failure

A walk that fails does so at the first placeholder that does not give all its values, and nothing
after it is run. The leaves before that one are not mixed; a mixed leaf fails before any of its
placeholders is looked at (`Leaf.Halts`). The calls that were made are those of the placeholders
before, for an array those of the elements before the one that fails, and the failing call itself
when the declarations of its generator let it be made.

The slots of the template are split at the first one that fails (`exists_first_error`), which splits
the leaves (`exists_flatMap_split`) and then the placeholders of one leaf (`halts_of_split`).
-/

namespace Fabricate

/-- The failure is the caller's fault, and the caller is told one issue about it. -/
def Failure.IsIssue (f : Failure) : Prop :=
  f.blamesCaller = true ∧ ∃ i, f.body.issues = [i]

namespace Template

open Json Fabricate.Random

/-- The placeholders of a leaf with its place. -/
def Leaf.placed (l : Leaf) : List (FieldPath × Placeholder) :=
  (placeholders l.pieces).map (Prod.mk l.path)

/-- The leaf holds an array and is not this array alone. -/
def Leaf.Mixed (l : Leaf) : Prop :=
  ∃ p ∈ placeholders l.pieces, p.isArray = true ∧ ¬ Alone l.text p

/-- A leaf fails: because it is mixed, before any of its placeholders, or at one of its placeholders
after those before it. The seed is that of the failing placeholder. -/
inductive Leaf.Halts (s : Setting) (l : Leaf) (seed : UInt64) (w : World) :
    List (FieldPath × Placeholder) → List Call → Option Outcome → Failure → World → Prop
  | mixed {p : Placeholder} :
      l.Mixed → (placeholders l.pieces).find? Placeholder.isArray = some p →
      Leaf.Halts s l seed w [] [] none (mixedFailure l.path p.name) w
  | placeholder {before after : List (FieldPath × Placeholder)} {p : Placeholder}
      {made : List Call} {ended : Option Outcome} {f : Failure} {later : World} :
      ¬ l.Mixed → l.placed = before ++ (l.path, p) :: after →
      Stops s l.path p seed w made ended f later →
      Leaf.Halts s l seed w before made ended f later

/-! ### The first of a row -/

/-- A row of slots that fails does so at one of them, and the slots before it are filled. -/
theorem exists_first_error {s : Setting} {js : List Slot} {q r : Progress} {f : Failure}
    (h : js.mapM (Slot.fill s) q = .error f r) :
    ∃ before j after contents t, js = before ++ j :: after ∧
      before.mapM (Slot.fill s) q = .ok contents t ∧ j.fill s t = .error f r := by
  induction js generalizing q with
  | nil => cases h
  | cons j js ih =>
      rw [List.mapM_cons, fill_bind_eq_error] at h
      rcases h with failed | ⟨c, u, one, h⟩
      · exact ⟨[], j, js, [], q, rfl, rfl, failed⟩
      · rw [fill_bind_eq_error] at h
        rcases h with failed | ⟨others, v, -, h⟩
        · obtain ⟨before, i, after, contents, t, rfl, filled, failed⟩ := ih failed
          refine ⟨j :: before, i, after, c :: contents, t, rfl, ?_, failed⟩
          rw [List.mapM_cons, fill_bind_eq_ok]
          refine ⟨c, u, one, ?_⟩
          rw [fill_bind_eq_ok]
          exact ⟨contents, t, filled, rfl⟩
        · cases h

/-- A place in a row of rows is a place in one of them. -/
theorem exists_flatMap_split {α β : Type} {g : α → List β} {as : List α} {before after : List β}
    {b : β} (h : as.flatMap g = before ++ b :: after) :
    ∃ xs a ys left right, as = xs ++ a :: ys ∧ g a = left ++ b :: right ∧
      before = xs.flatMap g ++ left := by
  induction as generalizing before with
  | nil => simp at h
  | cons a as ih =>
      rw [List.flatMap_cons, List.append_eq_append_iff] at h
      rcases h with ⟨rest, rfl, later⟩ | ⟨rest, here, later⟩
      · obtain ⟨xs, x, ys, left, right, rfl, at_x, rfl⟩ := ih later
        exact ⟨a :: xs, x, ys, left, right, rfl, at_x, by simp⟩
      · cases rest with
        | nil =>
            -- The place is the first one of a later row.
            obtain ⟨xs, x, ys, left, right, rfl, at_x, nothing⟩ := @ih [] later.symm
            refine ⟨a :: xs, x, ys, left, right, rfl, at_x, ?_⟩
            rw [List.flatMap_cons, here, List.append_nil, List.append_assoc, ← nothing,
              List.append_nil]
        | cons c rest =>
            cases later
            exact ⟨[], a, as, before, rest, rfl, here, rfl⟩

/-! ### Leaves -/

theorem Leaf.mixed_iff (l : Leaf) :
    l.Mixed ↔ standalone? l.pieces = none ∧
      ∃ p, (placeholders l.pieces).find? Placeholder.isArray = some p := by
  constructor
  · rintro ⟨p, member, array, apart⟩
    constructor
    · rw [Option.eq_none_iff_forall_ne_some]
      intro q alone
      have only := placeholders_of_standalone? alone
      rw [only, List.mem_singleton] at member
      subst member
      exact apart ((standalone?_pieces_iff l.text p).1 alone)
    · rw [← Option.isSome_iff_exists, List.find?_isSome]
      exact ⟨p, member, array⟩
  · rintro ⟨apart, p, found⟩
    refine ⟨p, List.mem_of_find?_eq_some found, List.find?_some found, fun alone => ?_⟩
    have single : standalone? l.pieces = some p := (standalone?_pieces_iff l.text p).2 alone
    rw [single] at apart
    cases apart

theorem Leaf.slots_of_mixed {l : Leaf} (h : l.Mixed) :
    ∃ p, (placeholders l.pieces).find? Placeholder.isArray = some p ∧
      l.slots = [.mixed l.path p.name] := by
  obtain ⟨apart, p, found⟩ := l.mixed_iff.1 h
  refine ⟨p, found, ?_⟩
  unfold Leaf.slots
  rw [apart, found]

theorem Leaf.slots_of_not_mixed {l : Leaf} (h : ¬ l.Mixed) :
    l.slots = l.placed.map fun t => Slot.of t.1 t.2 := by
  rw [Leaf.placed, List.map_map]
  apply Leaf.slots_eq_map
  intro path name member
  rw [l.mixed_iff] at h
  unfold Leaf.slots at member
  split at member
  · split at member <;> simp at member
  · next apart =>
      split at member
      · next p found => exact h ⟨apart, p, found⟩
      · simp at member

theorem slots_of_not_mixed {ls : List Leaf} (h : ∀ l ∈ ls, ¬ l.Mixed) :
    ls.flatMap Leaf.slots = (ls.flatMap Leaf.placed).map fun t => Slot.of t.1 t.2 := by
  rw [List.map_flatMap]
  exact List.flatMap_congr fun l member => Leaf.slots_of_not_mixed (h l member)

/-- A leaf whose slot fails, after the slots before it, halts. -/
theorem halts_of_split {s : Setting} {l : Leaf} {left right : List Slot} {j : Slot}
    {q r : Progress} {f : Failure} (parts : l.slots = left ++ j :: right)
    (failed : j.fill s q = .error f r) :
    ∃ before made ended, left = before.map (fun t => Slot.of t.1 t.2) ∧
      l.Halts s q.seed q.world before made ended f r.world := by
  by_cases mixed : l.Mixed
  · obtain ⟨p, found, only⟩ := Leaf.slots_of_mixed mixed
    rw [only] at parts
    obtain ⟨rfl, rest⟩ := List.singleton_eq_append_iff.1 parts |>.resolve_right (by simp)
    cases rest
    cases failed
    exact ⟨[], [], none, rfl, .mixed mixed found⟩
  · rw [Leaf.slots_of_not_mixed mixed, List.map_eq_append_iff] at parts
    obtain ⟨before, others, placed, rfl, parts⟩ := parts
    obtain ⟨⟨path, p⟩, after, rfl, rfl, -⟩ := List.map_eq_cons_iff.1 parts
    have here : path = l.path := by
      have member : (path, p) ∈ l.placed := by simp [placed]
      obtain ⟨q, -, same⟩ := List.mem_map.1 member
      exact (Prod.mk.inj same).1.symm
    subst here
    obtain ⟨made, ended, stops⟩ := stops_of_fill failed
    exact ⟨before, made, ended, rfl, .placeholder mixed placed stops⟩

theorem Leaf.Halts.calls {s : Setting} {l : Leaf} {seed : UInt64} {w later : World}
    {before : List (FieldPath × Placeholder)} {made : List Call} {ended : Option Outcome}
    {f : Failure} (h : l.Halts s seed w before made ended f later) :
    later.calls = made.reverse ++ w.calls := by
  cases h with
  | mixed _ _ => rfl
  | placeholder _ _ stops => exact stops.calls

/-! ### Classes of failures -/

/-- The failure is internal exactly when a generator broke down, and otherwise it is an issue. -/
def Classified (ended : Option Outcome) (f : Failure) : Prop :=
  ((∃ path generator reason, f = .internal path generator reason) ↔
      ∃ o, ended = some o ∧ o.IsBreakdown) ∧
    ((∀ path generator reason, f ≠ .internal path generator reason) → f.IsIssue)

theorem classified_of_issue {f : Failure} {i : Issue} {ended : Option Outcome}
    (quiet : ∀ o, ended = some o → ¬ o.IsBreakdown) (blames : f.blamesCaller = true)
    (issue : f.issue? = some i) : Classified ended f := by
  have notInternal : ∀ path generator reason, f ≠ .internal path generator reason := by
    rintro path generator reason rfl
    cases issue
  refine ⟨⟨?_, ?_⟩, fun _ => ⟨blames, i, ?_⟩⟩
  · rintro ⟨path, generator, reason, internal⟩
    exact absurd internal (notInternal path generator reason)
  · rintro ⟨o, same, broken⟩
    exact absurd broken (quiet o same)
  · simp [Failure.body, issue]

theorem Breaks.classified {s : Setting} {c : Invocation} {w later : World} {made : List Call}
    {ended : Option Outcome} {f : Failure} (h : Breaks s c w made ended f later) :
    Classified ended f := by
  cases h with
  | refused refused => exact classified_of_issue (by simp) rfl rfl
  | @failed e accepted answer =>
      cases outcome : (c.reply s w).outcome with
      | value v =>
          rw [outcome] at answer
          cases answer
      | refused e =>
          rw [outcome] at answer
          cases answer
          refine classified_of_issue ?_ rfl rfl
          rintro o same (⟨reason, rfl⟩ | ⟨reason, rfl⟩) <;> cases same
      | failed reason =>
          rw [outcome] at answer
          cases answer
          refine ⟨⟨fun _ => ⟨_, rfl, .inl ⟨reason, rfl⟩⟩, fun _ => ⟨_, _, _, rfl⟩⟩, ?_⟩
          intro other
          exact absurd rfl (other _ _ _)
      | crashed reason =>
          rw [outcome] at answer
          cases answer
          refine ⟨⟨fun _ => ⟨_, rfl, .inr ⟨reason, rfl⟩⟩, fun _ => ⟨_, _, _, rfl⟩⟩, ?_⟩
          intro other
          exact absurd rfl (other _ _ _)

theorem classified_of_prepare_error {s : Setting} {path : FieldPath} {p : Placeholder}
    {f : Failure} (h : prepare s path p = .error f) : Classified none f := by
  unfold prepare at h
  split at h
  · cases h
    exact classified_of_issue (by simp) rfl rfl
  · split at h
    · cases h
      exact classified_of_issue (by simp) rfl rfl
    · cases h

theorem classified_of_invocations_error {s : Setting} {path : FieldPath} {p : Placeholder}
    {seed : UInt64} {f : Failure} (h : p.invocations s path seed = .error f) :
    Classified none f := by
  unfold Placeholder.invocations at h
  split at h
  · next e unprepared =>
      cases h
      exact classified_of_prepare_error unprepared
  · split at h
    · split at h
      · next e _ _ =>
          cases h
          cases e <;> exact classified_of_issue (by simp) rfl rfl
      · cases h
    · cases h

theorem Stops.classified {s : Setting} {path : FieldPath} {p : Placeholder} {seed : UInt64}
    {w later : World} {made : List Call} {ended : Option Outcome} {f : Failure}
    (h : Stops s path p seed w made ended f later) : Classified ended f := by
  cases h with
  | unasked refused => exact classified_of_invocations_error refused
  | called _ _ _ breaks => exact breaks.classified

theorem Leaf.Halts.classified {s : Setting} {l : Leaf} {seed : UInt64} {w later : World}
    {before : List (FieldPath × Placeholder)} {made : List Call} {ended : Option Outcome}
    {f : Failure} (h : l.Halts s seed w before made ended f later) : Classified ended f := by
  cases h with
  | mixed _ _ => exact classified_of_issue (by simp) rfl rfl
  | placeholder _ _ stops => exact stops.classified

/-! ### Walks that fail -/

/-- A walk that fails, split at the leaf that halts. -/
theorem halts_of_walk {s : Setting} {template : Value} {seed : UInt64} {world later : World}
    {f : Failure} (h : walk s template seed world = (.error f, later)) :
    ∃ ls l ms before cs now made ended,
      leaves .root template = ls ++ l :: ms ∧ (∀ x ∈ ls, ¬ x.Mixed) ∧
        Asks s (Stream.ofSeed seed) (ls.flatMap Leaf.placed ++ before) cs ∧
        Performed s cs world now ∧
        l.Halts s (seedAt (Stream.ofSeed seed) (ls.flatMap Leaf.placed ++ before).length) now
          before made ended f later := by
  cases ran : (slots .root template).mapM (Slot.fill s) (.start seed world) with
  | ok contents q =>
      rw [walk_of_mapM_ok ran] at h
      cases h
  | error g q =>
      rw [walk_of_mapM_error ran] at h
      cases h
      obtain ⟨first, j, after, contents, t, parts, filled, failed⟩ := exists_first_error ran
      rw [slots] at parts
      obtain ⟨ls, l, ms, left, right, leaves, here, rfl⟩ := exists_flatMap_split parts
      have unmixed := unmixed_of_mapM filled
      have plain : ∀ x ∈ ls, ¬ x.Mixed := by
        intro x member mixed
        obtain ⟨p, -, only⟩ := Leaf.slots_of_mixed mixed
        apply unmixed x.path p.name
        rw [List.mem_append, List.mem_flatMap]
        exact .inl ⟨x, member, by rw [only]; exact List.mem_singleton.2 rfl⟩
      obtain ⟨before, made, ended, rfl, halts⟩ := halts_of_split here failed
      rw [slots_of_not_mixed plain, ← List.map_append] at filled
      obtain ⟨cs, asked, performed, seeds, -⟩ := performed_of_mapM filled
      refine ⟨ls, l, ms, before, cs, t.world, made, ended, leaves, plain, asked, performed, ?_⟩
      have seed_t : t.seed = seedAt (Progress.start seed world).seeds
          (ls.flatMap Leaf.placed ++ before).length := seeds 0
      rw [seed_t] at halts
      exact halts

/-- Cancelling is not a failure of a walk. -/
theorem ne_cancelled_of_walk {s : Setting} {template : Value} {seed : UInt64} {world later : World}
    {f : Failure} (h : walk s template seed world = (.error f, later)) : f ≠ .cancelled := by
  obtain ⟨_, _, _, _, _, _, _, _, -, -, -, -, halts⟩ := halts_of_walk h
  rintro rfl
  obtain ⟨blames, -⟩ := halts.classified.2 fun path generator reason same => by cases same
  cases blames

/-- A walk that fails does so at the first placeholder that does not give all its values. The calls
made are those of the placeholders before it, and for it those up to the failing one; a mixed leaf
fails before any of its own. The failure is internal when the generator broke down, and otherwise
the caller is told one issue. -/
theorem walk_stops_at_first_failure (s : Setting) (template : Value) (seed : UInt64)
    (world later : World) (f : Failure) (h : walk s template seed world = (.error f, later)) :
    ∃ ls l ms before cs now made ended,
      leaves .root template = ls ++ l :: ms ∧ (∀ x ∈ ls, ¬ x.Mixed) ∧
        Asks s (Stream.ofSeed seed) (ls.flatMap Leaf.placed ++ before) cs ∧
        Performed s cs world now ∧
        l.Halts s (seedAt (Stream.ofSeed seed) (ls.flatMap Leaf.placed ++ before).length) now
          before made ended f later ∧
        later.calls = (cs.map Invocation.call ++ made).reverse ++ world.calls ∧
        Classified ended f := by
  obtain ⟨ls, l, ms, before, cs, now, made, ended, leaves, plain, asked, performed, halts⟩ :=
    halts_of_walk h
  refine ⟨ls, l, ms, before, cs, now, made, ended, leaves, plain, asked, performed, halts, ?_,
    halts.classified⟩
  rw [halts.calls, performed.calls, List.reverse_append, List.append_assoc]

/-- A generator that fails at its third call, which is the second element of an array. -/
theorem walk_stops_at_first_failure_scripted :
    let s : Setting :=
      { registry := Registry.empty.register
          (Scripted.generator "n" "scripted" [] ⟨3, .fail "broken"⟩ 0)
        options := .standard 1
        context := ⟨.enUS, ⟨2024, 6, 1, by decide, by decide, by decide⟩⟩ }
    let template : Value := .object
      [("a", .string "\x7b\x7bn\x7d\x7d"), ("b", .string "\x7b\x7b[n]:count=4\x7d\x7d"),
        ("c", .string "\x7b\x7bn\x7d\x7d")]
    let f : Failure := .internal "b[1]" "n" "broken"
    ∃ later, walk s template 7 ⟨[], false⟩ = (.error f, later) ∧
      ∃ ls l ms before cs now made ended,
        leaves .root template = ls ++ l :: ms ∧ (∀ x ∈ ls, ¬ x.Mixed) ∧
          Asks s (Stream.ofSeed 7) (ls.flatMap Leaf.placed ++ before) cs ∧
          Performed s cs ⟨[], false⟩ now ∧
          l.Halts s (seedAt (Stream.ofSeed 7) (ls.flatMap Leaf.placed ++ before).length) now
            before made ended f later ∧
          later.calls = (cs.map Invocation.call ++ made).reverse ++ [] ∧
          Classified ended f := by
  intro s template f
  have failed : walk s template 7 ⟨[], false⟩ = (.error f, (walk s template 7 ⟨[], false⟩).2) := by
    refine Prod.ext ?_ rfl
    have first : ((walk s template 7 ⟨[], false⟩).1.map fun _ => ()) = .error f := by
      decide +kernel
    cases result : (walk s template 7 ⟨[], false⟩).1 with
    | ok filled =>
        rw [result] at first
        cases first
    | error g =>
        rw [result] at first
        cases first
        rfl
  exact ⟨_, failed, walk_stops_at_first_failure s template 7 ⟨[], false⟩ _ f failed⟩

end Template

end Fabricate
