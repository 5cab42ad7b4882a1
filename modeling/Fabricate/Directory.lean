/-!
# Directories

A directory is a row of named values sorted by name, each name once. The order of names is the order
of texts by code points.
-/

namespace Fabricate

/-- Named values in the order of their names. -/
abbrev Directory (α : Type) := List (String × α)

namespace Directory

variable {α : Type}

/-- The names, in order. -/
def names (d : Directory α) : List String :=
  d.map Prod.fst

/-- The value under a name. -/
def get? (d : Directory α) (name : String) : Option α :=
  match d with
  | [] => none
  | (n, v) :: rest => if n = name then some v else get? rest name

/-- Whether a value is kept under the name. -/
def has (d : Directory α) (name : String) : Bool :=
  (d.get? name).isSome

/-- Changes the value under a name, or puts the value made from nothing at the name's place. -/
def update (d : Directory α) (name : String) (change : Option α → α) : Directory α :=
  match d with
  | [] => [(name, change none)]
  | (n, v) :: rest =>
      if n = name then (n, change (some v)) :: rest
      else if name < n then (name, change none) :: (n, v) :: rest
      else (n, v) :: update rest name change

/-- Keeps a value under a name, in place of the one kept there before. -/
def put (d : Directory α) (name : String) (v : α) : Directory α :=
  d.update name fun _ => v

theorem get?_put_self (d : Directory α) (name : String) (v : α) :
    (d.put name v).get? name = some v := by
  simp only [put]
  induction d with
  | nil => simp [update, get?]
  | cons entry rest ih =>
    by_cases h : entry.1 = name
    · simp [update, get?, h]
    · by_cases hl : name < entry.1
      · simp [update, get?, h, hl]
      · simp [update, get?, h, hl, ih]

theorem get?_update_of_ne (d : Directory α) {name other : String} (h : other ≠ name)
    (change : Option α → α) : (d.update name change).get? other = d.get? other := by
  induction d with
  | nil => simp [update, get?, h.symm]
  | cons entry rest ih =>
    by_cases hn : entry.1 = name
    · subst hn
      simp [update, get?, h.symm]
    · by_cases hl : name < entry.1
      · simp [update, get?, hn, hl, h.symm]
      · simp [update, get?, hn, hl, ih]

end Directory

/-- How often each generator was called. -/
abbrev Usage := Directory Nat

/-- Counts some more calls of a generator. -/
def Usage.record (usage : Usage) (generator : String) (calls : Nat) : Usage :=
  Directory.update usage generator fun before => before.getD 0 + calls

/-- The counts of two runs together. -/
def Usage.add (a b : Usage) : Usage :=
  b.foldl (fun sum (generator, calls) => Usage.record sum generator calls) a

end Fabricate
