import Mathlib.Data.String.Basic
import Fabricate.Directory

/-!
# Counted calls

`Usage.Counts u n` says that a row of counts stands for the function `n` on the canonical names: the
names come in order, each once, and a name is there exactly when its number is not zero. Recording
calls and adding two rows are then additions of functions (`Counts.record`, `Counts.add`), so what
is counted in several places can be compared as numbers.
-/

namespace Fabricate

namespace Directory

variable {α : Type}

theorem names_cons (name : String) (v : α) (d : Directory α) :
    names ((name, v) :: d) = name :: names d := rfl

theorem mem_names_update {d : Directory α} {name other : String} {change : Option α → α}
    (h : other ∈ (d.update name change).names) : other = name ∨ other ∈ d.names := by
  induction d with
  | nil => exact .inl (List.mem_singleton.1 h)
  | cons entry rest ih =>
      obtain ⟨n, v⟩ := entry
      rw [update] at h
      split at h
      · exact .inr h
      · split at h
        · exact List.mem_cons.1 h
        · rw [names_cons, List.mem_cons] at h ⊢
          rcases h with same | later
          · exact .inr (.inl same)
          · exact (ih later).imp_right .inr

/-- A change at one name keeps the names in order. -/
theorem sorted_update {d : Directory α} (h : d.names.Pairwise (· < ·)) (name : String)
    (change : Option α → α) : (d.update name change).names.Pairwise (· < ·) := by
  induction d with
  | nil => exact List.pairwise_singleton _ _
  | cons entry rest ih =>
      obtain ⟨n, v⟩ := entry
      have sorted := h
      rw [names_cons, List.pairwise_cons] at h
      rw [update]
      split
      · exact sorted
      · next different =>
          split
          · next before =>
              rw [names_cons, List.pairwise_cons]
              refine ⟨fun m member => ?_, sorted⟩
              rcases List.mem_cons.1 member with rfl | later
              · exact before
              · exact before.trans (h.1 m later)
          · next notBefore =>
              have after : n < name := lt_of_le_of_ne (not_lt.1 notBefore) different
              rw [names_cons, List.pairwise_cons]
              refine ⟨fun m member => ?_, ih h.2⟩
              rcases mem_names_update member with rfl | later
              · exact after
              · exact h.1 m later

theorem get?_eq_none {d : Directory α} {name : String} (h : name ∉ d.names) :
    d.get? name = none := by
  induction d with
  | nil => rfl
  | cons entry rest ih =>
      obtain ⟨n, v⟩ := entry
      rw [names_cons, List.mem_cons, not_or] at h
      rw [get?, if_neg (Ne.symm h.1), ih h.2]

/-- The value that a change at a name leaves there. -/
theorem get?_update_self {d : Directory α} (h : d.names.Pairwise (· < ·)) (name : String)
    (change : Option α → α) : (d.update name change).get? name = some (change (d.get? name)) := by
  induction d with
  | nil => simp [update, get?]
  | cons entry rest ih =>
      obtain ⟨n, v⟩ := entry
      rw [names_cons, List.pairwise_cons] at h
      by_cases same : n = name
      · simp [update, get?, same]
      · by_cases before : name < n
        · have absent : name ∉ names rest := fun member =>
            lt_irrefl name (before.trans (h.1 name member))
          simp [update, get?, same, before, get?_eq_none absent]
        · simp [update, get?, same, before, ih h.2]

end Directory

namespace Usage

/-- The row of counts stands for the function: its names are in order, and it holds the numbers that
are not zero. -/
structure Counts (u : Usage) (n : String → Nat) : Prop where
  sorted : (Directory.names u).Pairwise (· < ·)
  get? : ∀ id, Directory.get? u id = if n id = 0 then none else some (n id)

theorem counts_nil : Counts [] fun _ => 0 :=
  ⟨List.Pairwise.nil, fun _ => rfl⟩

theorem Counts.record {u : Usage} {n : String → Nat} (h : Counts u n) (g : String) {calls : Nat}
    (some_calls : 0 < calls) :
    Counts (u.record g calls) fun id => n id + if id = g then calls else 0 := by
  refine ⟨Directory.sorted_update h.sorted g _, fun id => ?_⟩
  by_cases same : id = g
  · subst same
    rw [Usage.record, Directory.get?_update_self h.sorted, h.get?]
    by_cases zero : n id = 0
    · simp [zero, some_calls.ne']
    · simp [zero]
  · rw [Usage.record, Directory.get?_update_of_ne _ same, h.get?, if_neg same, Nat.add_zero]

/-- A row of counts without its first entry. -/
theorem Counts.tail {g : String} {calls : Nat} {u : Usage} {n : String → Nat}
    (h : Counts ((g, calls) :: u) n) :
    n g = calls ∧ 0 < calls ∧ Counts u fun id => if id = g then 0 else n id := by
  obtain ⟨sorted, get⟩ := h
  rw [Directory.names_cons, List.pairwise_cons] at sorted
  have first := get g
  rw [Directory.get?, if_pos rfl] at first
  have here : n g ≠ 0 ∧ n g = calls := by
    split at first
    · cases first
    · next positive =>
        cases first
        exact ⟨positive, rfl⟩
  refine ⟨here.2, by omega, sorted.2, fun id => ?_⟩
  by_cases same : id = g
  · subst same
    have absent : id ∉ Directory.names u := fun member => lt_irrefl id (sorted.1 id member)
    simp [Directory.get?_eq_none absent]
  · have later := get id
    rw [Directory.get?, if_neg (Ne.symm same)] at later
    rw [later, if_neg same]

theorem Counts.add {u v : Usage} {m n : String → Nat} (h : Counts u m) (h' : Counts v n) :
    Counts (u.add v) fun id => m id + n id := by
  unfold Usage.add
  induction v generalizing u m n with
  | nil =>
      have zero : ∀ id, n id = 0 := by
        intro id
        by_contra positive
        have absent := h'.get? id
        rw [if_neg positive] at absent
        cases absent
      simpa [zero] using h
  | cons entry rest ih =>
      obtain ⟨g, calls⟩ := entry
      obtain ⟨first, positive, others⟩ := h'.tail
      -- The first count goes over to `u`, and the rest of the row stands for the other names.
      have sum := ih (h.record g positive) others
      have same : (fun id => m id + (if id = g then calls else 0) + if id = g then 0 else n id) =
          fun id => m id + n id := by
        funext id
        by_cases here : id = g
        · simp [here, first]
        · simp [here]
      rwa [same] at sum

/-- Rows that all stand for one function add up to its multiple. -/
theorem counts_foldr_add {us : List Usage} {n : String → Nat} (h : ∀ u ∈ us, Counts u n) :
    Counts (us.foldr Usage.add []) fun id => us.length * n id := by
  induction us with
  | nil => simpa using counts_nil
  | cons u us ih =>
      have others := ih fun v member => h v (List.mem_cons_of_mem _ member)
      have sum := (h u List.mem_cons_self).add others
      have same : (fun id => n id + us.length * n id) = fun id => (u :: us).length * n id := by
        funext id
        rw [List.length_cons, Nat.succ_mul, Nat.add_comm]
      rwa [same] at sum

end Usage

end Fabricate
