import Mathlib.Data.List.Sort
import Fabricate.Name.Nearest
import Fabricate.Proofs.Text.Cut

/-!
# Nearest names in order

The candidates that are near to a name (`Near`), each once and in the order of their distances and
names (`Before`), make up one list and no other (`IsRanking.unique`). What is given for a name is
the start of this list (`nearest_names_are_ranked`), so neither the order of the candidates nor how
often they are given matters.

Equal entries are dropped only where they are neighbours. In a sorted list this is everywhere
(`pairwise_dropRepeats`).
-/

namespace Fabricate

namespace Text

theorem lower_eq_nil_iff {cs : List Char} : lower cs = [] ↔ cs = [] := by
  cases cs with
  | nil => exact Iff.rfl
  | cons c r =>
      refine iff_of_false ?_ (List.cons_ne_nil c r)
      rw [lower, lowerFrom, List.append_eq_nil_iff, not_and_or]
      left
      unfold lowerChar
      split
      · exact List.cons_ne_nil _ _
      · split
        · exact List.cons_ne_nil _ _
        · split <;> exact List.cons_ne_nil _ _

theorem containsRun_iff {part cs : List Char} : containsRun part cs = true ↔ part <:+: cs := by
  induction cs with
  | nil => rw [containsRun, List.isEmpty_iff, List.infix_nil]
  | cons c r ih =>
      rw [containsRun, Bool.or_eq_true, List.isPrefixOf_iff_prefix, ih, List.infix_cons_iff]

end Text

namespace Name

/-! ### The list that is meant -/

/-- A candidate is near by its distance, or because one of the two texts contains the other. -/
def Near (needle : List Char) (c : String) : Prop :=
  distance needle c.toList ≤ max 2 (needle.length / 3) ∨
    3 ≤ c.utf8ByteSize ∧ (needle <:+: c.toList ∨ c.toList <:+: needle)

/-- A candidate comes before another one: it is nearer, or as near with a lesser name. -/
def Before (needle : List Char) (a b : String) : Prop :=
  distance needle a.toList < distance needle b.toList ∨
    distance needle a.toList = distance needle b.toList ∧ a < b

/-- The list of the near candidates in order. -/
structure IsRanking (needle : List Char) (candidates ranked : List String) : Prop where
  sorted : ranked.Pairwise (Before needle)
  mem_iff : ∀ c, c ∈ ranked ↔ c ∈ candidates ∧ Near needle c

instance (needle : List Char) (c : String) : Decidable (Near needle c) :=
  inferInstanceAs (Decidable (_ ∨ _ ∧ (_ ∨ _)))

instance (needle : List Char) : DecidableRel (Before needle) := fun a b =>
  inferInstanceAs (Decidable (_ ∨ _ ∧ a < b))

instance (needle : List Char) (candidates ranked : List String) :
    Decidable (IsRanking needle candidates ranked) :=
  -- A look at the names in both lists is enough.
  decidable_of_iff (ranked.Pairwise (Before needle) ∧
      (∀ c ∈ ranked, c ∈ candidates ∧ Near needle c) ∧
      ∀ c ∈ candidates, Near needle c → c ∈ ranked)
    ⟨fun ⟨sorted, sound, complete⟩ =>
        ⟨sorted, fun c => ⟨sound c, fun ⟨known, near⟩ => complete c known near⟩⟩,
      fun h => ⟨h.sorted, fun c => (h.mem_iff c).1, fun c known near =>
        (h.mem_iff c).2 ⟨known, near⟩⟩⟩

theorem Before.asymm {needle : List Char} {a b : String} (h : Before needle a b) :
    ¬ Before needle b a := by
  rintro (nearer' | ⟨same', lesser'⟩)
  · rcases h with nearer | ⟨same, -⟩ <;> omega
  · rcases h with nearer | ⟨-, lesser⟩
    · omega
    · exact String.lt_asymm lesser lesser'

instance (needle : List Char) : Std.Irrefl (Before needle) := ⟨fun _ h => h.asymm h⟩

instance (needle : List Char) : Std.Antisymm (Before needle) := ⟨fun _ _ h h' => absurd h' h.asymm⟩

/-- Only which candidates there are matters. -/
theorem IsRanking.unique {needle : List Char} {candidates others ranked ranked' : List String}
    (h : IsRanking needle candidates ranked) (h' : IsRanking needle others ranked')
    (same : ∀ c, c ∈ others ↔ c ∈ candidates) : ranked' = ranked := by
  apply h'.sorted.eq_of_mem_iff h.sorted
  intro c
  rw [h'.mem_iff, h.mem_iff, same]

theorem IsRanking.nodup {needle : List Char} {candidates ranked : List String}
    (h : IsRanking needle candidates ranked) : ranked.Nodup :=
  h.sorted.imp fun {a b} before same => by
    subst same
    exact before.asymm before

theorem isNear_iff {needle : List Char} {c : String} :
    isNear needle c.toList = true ↔ Near needle c := by
  have bytes : Text.byteLength c.toList = c.utf8ByteSize := by
    rw [← Text.utf8ByteSize_ofList, String.ofList_toList]
  rw [isNear, related, bytes, Bool.or_eq_true, Bool.and_eq_true, Bool.or_eq_true, decide_eq_true_eq,
    decide_eq_true_eq, Text.containsRun_iff, Text.containsRun_iff]
  exact Iff.rfl

/-! ### Sorting and dropping repeats -/

namespace Ranked

theorem eq_of_parts {a b : Ranked} (distance : a.distance = b.distance) (name : a.name = b.name) :
    a = b := by
  cases a
  cases b
  cases distance
  cases name
  rfl

theorem le_iff {a b : Ranked} :
    a.le b = true ↔ a.distance < b.distance ∨ a.distance = b.distance ∧ a.name ≤ b.name := by
  rw [le, Bool.or_eq_true, Bool.and_eq_true, decide_eq_true_eq, decide_eq_true_eq,
    decide_eq_true_eq]

theorem le_trans (a b c : Ranked) (h : a.le b = true) (h' : b.le c = true) : a.le c = true := by
  rw [le_iff] at h h' ⊢
  rcases h with nearer | ⟨same, lesser⟩
  · omega
  · rcases h' with nearer' | ⟨same', lesser'⟩
    · omega
    · exact .inr ⟨same.trans same', String.le_trans lesser lesser'⟩

theorem le_total (a b : Ranked) : (a.le b || b.le a) = true := by
  rw [Bool.or_eq_true, le_iff, le_iff]
  rcases Nat.lt_trichotomy a.distance b.distance with nearer | same | further
  · exact .inl (.inl nearer)
  · exact (String.le_total a.name b.name).imp (fun lesser => .inr ⟨same, lesser⟩)
      fun lesser => .inr ⟨same.symm, lesser⟩
  · exact .inr (.inl further)

theorem le_antisymm {a b : Ranked} (h : a.le b = true) (h' : b.le a = true) : a = b := by
  rw [le_iff] at h h'
  refine eq_of_parts (by omega) (String.le_antisymm ?_ ?_)
  · exact (h.resolve_left (by omega)).2
  · exact (h'.resolve_left (by omega)).2

end Ranked

theorem mem_dropRepeats {x : Ranked} {rs : List Ranked} : x ∈ dropRepeats rs ↔ x ∈ rs := by
  fun_induction dropRepeats rs with
  | case1 => exact Iff.rfl
  | case2 a => exact Iff.rfl
  | case3 a rest ih =>
      rw [ih, List.mem_cons (a := x) (b := a) (l := a :: rest)]
      exact (or_iff_right_of_imp fun first => List.mem_cons.2 (.inl first)).symm
  | case4 a b rest _ ih => rw [List.mem_cons, List.mem_cons (l := b :: rest), ih]

/-- Equal entries of a sorted list are neighbours, so no two are left. -/
theorem pairwise_dropRepeats {rs : List Ranked} (h : rs.Pairwise fun a b => a.le b = true) :
    (dropRepeats rs).Pairwise fun a b => a.le b = true ∧ a ≠ b := by
  fun_induction dropRepeats rs with
  | case1 => exact .nil
  | case2 a => exact List.pairwise_singleton _ a
  | case3 a rest ih => exact ih h.tail
  | case4 a b rest differ ih =>
      refine .cons (fun x later => ?_) (ih h.tail)
      have listed := mem_dropRepeats.1 later
      have above : a.le x = true := List.rel_of_pairwise_cons h listed
      refine ⟨above, ?_⟩
      rintro rfl
      -- Between an entry and its repeat stands the next one, which would equal both.
      have next : a.le b = true := List.rel_of_pairwise_cons h List.mem_cons_self
      rcases List.mem_cons.1 listed with same | further
      · exact differ same
      · exact differ (Ranked.le_antisymm next (List.rel_of_pairwise_cons h.tail further))

/-! ### What is given -/

theorem mem_ranking {needle : List Char} {candidates : List String} {x : Ranked} :
    x ∈ ranking needle candidates ↔
      x.name ∈ candidates ∧ Near needle x.name ∧ x.distance = distance needle x.name.toList := by
  rw [ranking, mem_dropRepeats, List.mem_mergeSort, List.mem_map]
  constructor
  · rintro ⟨c, near, rfl⟩
    obtain ⟨member, near⟩ := List.mem_filter.1 near
    exact ⟨member, isNear_iff.1 near, rfl⟩
  · rintro ⟨member, near, same⟩
    refine ⟨x.name, List.mem_filter.2 ⟨member, isNear_iff.2 near⟩, ?_⟩
    rw [← same]

theorem isRanking_ranking (needle : List Char) (candidates : List String) :
    IsRanking needle candidates ((ranking needle candidates).map Ranked.name) := by
  constructor
  · rw [List.pairwise_map]
    have sorted := pairwise_dropRepeats (List.pairwise_mergeSort Ranked.le_trans Ranked.le_total
      ((candidates.filter fun c => isNear needle c.toList).map
        fun c => Ranked.mk (distance needle c.toList) c))
    refine List.Pairwise.imp_of_mem ?_ sorted
    intro a b ha hb
    obtain ⟨-, -, same⟩ := mem_ranking.1 ha
    obtain ⟨-, -, same'⟩ := mem_ranking.1 hb
    rintro ⟨le, differ⟩
    rw [Ranked.le_iff, same, same'] at le
    refine le.imp_right fun ⟨equal, lesser⟩ => ⟨equal, Std.lt_of_le_of_ne lesser fun names => ?_⟩
    exact differ (Ranked.eq_of_parts (by rw [same, same', equal]) names)
  · intro c
    rw [List.mem_map]
    constructor
    · rintro ⟨x, member, rfl⟩
      obtain ⟨known, near, -⟩ := mem_ranking.1 member
      exact ⟨known, near⟩
    · rintro ⟨known, near⟩
      exact ⟨⟨distance needle c.toList, c⟩, mem_ranking.2 ⟨known, near, rfl⟩, rfl⟩

theorem nearest_of_blank {name : String} (h : ∀ c ∈ name.toList, Text.isBlank c = true)
    (candidates : List String) (limit : Nat) : nearest name candidates limit = [] := by
  rw [← Text.trim_eq_nil_iff] at h
  rw [nearest, h]
  rfl

theorem nearest_of_not_blank {name : String} (h : ¬ ∀ c ∈ name.toList, Text.isBlank c = true)
    (candidates : List String) (limit : Nat) :
    ∃ ranked, IsRanking (Text.lower (Text.trim name.toList)) candidates ranked ∧
      nearest name candidates limit = ranked.take limit := by
  refine ⟨_, isRanking_ranking _ candidates, ?_⟩
  rw [← Text.trim_eq_nil_iff, ← Text.lower_eq_nil_iff, ← List.isEmpty_iff] at h
  rw [nearest, if_neg h, List.map_take]

/-- Only candidates are given. -/
theorem mem_of_mem_nearest {name c : String} {candidates : List String} {limit : Nat}
    (h : c ∈ nearest name candidates limit) : c ∈ candidates := by
  by_cases blank : ∀ c ∈ name.toList, Text.isBlank c = true
  · rw [nearest_of_blank blank] at h
    cases h
  · obtain ⟨ranked, ranking, given⟩ := nearest_of_not_blank blank candidates limit
    rw [given] at h
    exact ((ranking.mem_iff c).1 (List.mem_of_mem_take h)).1

/-- What is given for a name is the start of the list of the near candidates in the order of their
distances and names, and nothing for a blank name. So no name is given twice, no more than the limit
are given, and how often and in which order the candidates are listed does not matter. -/
theorem nearest_names_are_ranked (name : String) (candidates : List String) (limit : Nat) :
    ((∀ c ∈ name.toList, Text.isBlank c = true) → nearest name candidates limit = []) ∧
      ((¬ ∀ c ∈ name.toList, Text.isBlank c = true) →
        ∃ ranked, IsRanking (Text.lower (Text.trim name.toList)) candidates ranked ∧
          nearest name candidates limit = ranked.take limit) ∧
      (nearest name candidates limit).Nodup ∧
      (nearest name candidates limit).length ≤ limit ∧
      ∀ others : List String, (∀ c, c ∈ others ↔ c ∈ candidates) →
        nearest name others limit = nearest name candidates limit := by
  by_cases blank : ∀ c ∈ name.toList, Text.isBlank c = true
  · have none := nearest_of_blank blank
    refine ⟨fun _ => none _ _, fun solid => absurd blank solid, ?_, ?_, fun others _ => ?_⟩
    · rw [none]
      exact List.nodup_nil
    · rw [none]
      exact Nat.zero_le limit
    · rw [none, none]
  · obtain ⟨ranked, ranking, given⟩ := nearest_of_not_blank blank candidates limit
    refine ⟨fun all => absurd all blank, fun _ => ⟨ranked, ranking, given⟩, ?_, ?_, ?_⟩
    · rw [given]
      exact ranking.nodup.sublist (List.take_sublist limit ranked)
    · rw [given]
      exact List.length_take_le limit ranked
    · intro others same
      obtain ⟨ranked', ranking', given'⟩ := nearest_of_not_blank blank others limit
      rw [given, given', ranking.unique ranking' same]

/-- A misspelt name with blanks and capitals, and candidates in another order, one of them twice. -/
theorem nearest_names_are_ranked_misspelt :
    let candidates := ["last_name", "name", "first_name", "city", "first_name"]
    let others := ["city", "first_name", "last_name", "name"]
    (¬ ∀ c ∈ " Frist_Name".toList, Text.isBlank c = true) ∧
      (∀ c, c ∈ others ↔ c ∈ candidates) ∧
      nearest " Frist_Name" candidates 2 = ["first_name", "last_name"] ∧
      nearest " Frist_Name" others 2 = nearest " Frist_Name" candidates 2 := by
  intro candidates others
  have solid : ¬ ∀ c ∈ " Frist_Name".toList, Text.isBlank c = true := fun blank =>
    absurd (blank 'F' (by decide)) (by decide)
  have same : ∀ c, c ∈ others ↔ c ∈ candidates := by
    have fewer : others ⊆ candidates := by decide
    have more : candidates ⊆ others := by decide
    exact fun c => ⟨@fewer c, @more c⟩
  have needle : Text.lower (Text.trim " Frist_Name".toList) = "frist_name".toList := by
    decide +kernel
  have ranking : IsRanking "frist_name".toList candidates ["first_name", "last_name", "name"] := by
    decide +kernel
  obtain ⟨-, start, -, -, moved⟩ := nearest_names_are_ranked " Frist_Name" candidates 2
  obtain ⟨ranked, isRanking, given⟩ := start solid
  rw [needle] at isRanking
  rw [ranking.unique isRanking fun _ => Iff.rfl] at given
  exact ⟨solid, same, given, moved others same⟩

end Name

end Fabricate
