/-!
# Fields in order

Objects and parameters are rows of named fields whose order shows. A name put again keeps its first
place and takes the last value, so a row built by `put` names each field once.

Taking a field out is not a plain deletion: `take` moves the last field into the gap it leaves, so
the order of the others can change.
-/

namespace Fabricate

/-- A row of named values, in the order in which the names were first put. -/
abbrev Fields (α : Type) := List (String × α)

namespace Fields

variable {α : Type}

/-- The names, in order. -/
def names (fs : Fields α) : List String :=
  fs.map Prod.fst

/-- The value of the first field of that name. -/
def get? (fs : Fields α) (name : String) : Option α :=
  match fs with
  | [] => none
  | (n, v) :: rest => if n = name then some v else get? rest name

/-- Whether a field has that name. -/
def has (fs : Fields α) (name : String) : Bool :=
  (fs.get? name).isSome

/-- Gives the named field a value, at its place or, for a new name, at the end. -/
def put (fs : Fields α) (name : String) (value : α) : Fields α :=
  match fs with
  | [] => [(name, value)]
  | (n, v) :: rest => if n = name then (n, value) :: rest else (n, v) :: put rest name value

/-- The row that the fields give when they are put one after the other. -/
def ofList (fs : List (String × α)) : Fields α :=
  fs.foldl (fun row (name, value) => row.put name value) []

/-- Puts the last of the fields in front of the others. -/
def lastFirst (fs : Fields α) : Fields α :=
  match fs.getLast? with
  | none => []
  | some last => last :: fs.dropLast

/-- Takes the named field out and moves the last field into its place. -/
def take (fs : Fields α) (name : String) : Option (α × Fields α) :=
  match fs with
  | [] => none
  | (n, v) :: rest =>
      if n = name then some (v, lastFirst rest)
      else (take rest name).map fun (w, others) => (w, (n, v) :: others)

theorem get?_put_self (fs : Fields α) (name : String) (value : α) :
    (fs.put name value).get? name = some value := by
  induction fs with
  | nil => simp [put, get?]
  | cons field rest ih =>
    by_cases h : field.1 = name
    · simp [put, get?, h]
    · simp [put, get?, h, ih]

theorem get?_put_of_ne (fs : Fields α) {name other : String} (h : other ≠ name) (value : α) :
    (fs.put name value).get? other = fs.get? other := by
  induction fs with
  | nil => simp [put, get?, h.symm]
  | cons field rest ih =>
    by_cases hn : field.1 = name
    · subst hn
      simp [put, get?, h.symm]
    · simp [put, get?, hn, ih]

theorem names_cons (name : String) (value : α) (fs : Fields α) :
    names ((name, value) :: fs) = name :: names fs := rfl

theorem has_iff {fs : Fields α} {name : String} : fs.has name = true ↔ name ∈ fs.names := by
  induction fs with
  | nil => simp [has, get?, names]
  | cons field rest ih =>
    obtain ⟨n, v⟩ := field
    rw [names_cons, List.mem_cons, ← ih]
    by_cases h : n = name
    · simp [has, get?, h]
    · simp [has, get?, h, Ne.symm h]

/-- A name put again keeps its place, and a new one comes last. -/
theorem names_put (fs : Fields α) (name : String) (value : α) :
    (fs.put name value).names = if name ∈ fs.names then fs.names else fs.names ++ [name] := by
  induction fs with
  | nil => simp [put, names]
  | cons field rest ih =>
    by_cases h : field.1 = name
    · simp [put, names, h]
    · rw [put, if_neg h, names_cons, names_cons, ih]
      by_cases hm : name ∈ names rest
      · rw [if_pos hm, if_pos (List.mem_cons_of_mem _ hm)]
      · rw [if_neg hm, if_neg (by simp [hm, Ne.symm h]), List.cons_append]

theorem nodup_names_put {fs : Fields α} (h : fs.names.Nodup) (name : String) (value : α) :
    (fs.put name value).names.Nodup := by
  rw [names_put]
  split
  · exact h
  · next new =>
    refine List.nodup_append.2 ⟨h, List.pairwise_singleton _ _, fun other member last here => ?_⟩
    rintro rfl
    exact new (List.mem_singleton.1 here ▸ member)

theorem mem_of_mem_put {fs : Fields α} {name : String} {value : α} {field : String × α}
    (h : field ∈ fs.put name value) : field ∈ fs ∨ field.2 = value := by
  induction fs with
  | nil =>
    obtain rfl := List.mem_singleton.1 h
    exact .inr rfl
  | cons first rest ih =>
    rw [put] at h
    split at h
    · rcases List.mem_cons.1 h with rfl | later
      · exact .inr rfl
      · exact .inl (List.mem_cons_of_mem _ later)
    · rcases List.mem_cons.1 h with rfl | later
      · exact .inl List.mem_cons_self
      · exact (ih later).imp (List.mem_cons_of_mem _) id

/-- A new name comes last with its value. -/
theorem put_of_notMem {fs : Fields α} {name : String} (h : name ∉ fs.names) (value : α) :
    fs.put name value = fs ++ [(name, value)] := by
  induction fs with
  | nil => rfl
  | cons field rest ih =>
    obtain ⟨n, v⟩ := field
    rw [names_cons, List.mem_cons, not_or] at h
    rw [put, if_neg (Ne.symm h.1), ih h.2, List.cons_append]

end Fields

end Fabricate
