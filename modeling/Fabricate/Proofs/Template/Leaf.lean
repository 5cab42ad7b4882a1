import Fabricate.Template.Check

/-!
# The leaves of a template

A leaf is a text of a template together with its place. `leaves path v` lists the leaves of the
value `v` at the place `path` in the order in which they are met: fields in their order, items by
position, numbers and truth values not at all. Keys are no leaves.

A check only adds to its report, and what it adds is the concatenation, over the leaves, of what
each of them adds to an empty report (`visit_eq_append_join`). So the errors of a template are the
errors of its leaves in a row, followed by the complaint about a template without placeholders
(`errors_check`).
-/

namespace Fabricate

namespace Report

@[simp] theorem errors_append (a b : Report) : (a ++ b).errors = a.errors ++ b.errors := rfl

@[simp] theorem warnings_append (a b : Report) : (a ++ b).warnings = a.warnings ++ b.warnings := rfl

@[simp] theorem fields_append (a b : Report) : (a ++ b).fields = a.fields ++ b.fields := rfl

@[simp] theorem errors_empty : empty.errors = [] := rfl

@[simp] theorem errors_addError (r : Report) (i : Issue) :
    (r.addError i).errors = r.errors ++ [i] := rfl

@[simp] theorem errors_addWarning (r : Report) (i : Issue) :
    (r.addWarning i).errors = r.errors := rfl

@[simp] theorem errors_addField (r : Report) (f : DetectedField) :
    (r.addField f).errors = r.errors := rfl

@[simp] theorem warnings_empty : empty.warnings = [] := rfl

@[simp] theorem warnings_addError (r : Report) (i : Issue) :
    (r.addError i).warnings = r.warnings := rfl

@[simp] theorem warnings_addWarning (r : Report) (i : Issue) :
    (r.addWarning i).warnings = r.warnings ++ [i] := rfl

@[simp] theorem warnings_addField (r : Report) (f : DetectedField) :
    (r.addField f).warnings = r.warnings := rfl

@[simp] theorem fields_empty : empty.fields = [] := rfl

@[simp] theorem fields_addError (r : Report) (i : Issue) : (r.addError i).fields = r.fields := rfl

@[simp] theorem fields_addWarning (r : Report) (i : Issue) :
    (r.addWarning i).fields = r.fields := rfl

@[simp] theorem fields_addField (r : Report) (f : DetectedField) :
    (r.addField f).fields = r.fields ++ [f] := rfl

theorem append_assoc (a b c : Report) : a ++ b ++ c = a ++ (b ++ c) := by
  change Report.mk _ _ _ = Report.mk _ _ _
  simp

@[simp] theorem append_empty (a : Report) : a ++ empty = a := by
  change Report.mk _ _ _ = a
  simp [empty]

theorem append_addError (a b : Report) (i : Issue) :
    (a ++ b).addError i = a ++ b.addError i := by
  change Report.mk _ _ _ = Report.mk _ _ _
  simp [addError]

theorem append_addWarning (a b : Report) (i : Issue) :
    (a ++ b).addWarning i = a ++ b.addWarning i := by
  change Report.mk _ _ _ = Report.mk _ _ _
  simp [addWarning]

theorem append_addField (a b : Report) (f : DetectedField) :
    (a ++ b).addField f = a ++ b.addField f := by
  change Report.mk _ _ _ = Report.mk _ _ _
  simp [addField]

/-- The entries of a row of reports, one report after the other. -/
def join (rs : List Report) : Report :=
  rs.foldr (· ++ ·) empty

@[simp] theorem errors_join (rs : List Report) : (join rs).errors = rs.flatMap errors := by
  induction rs with
  | nil => rfl
  | cons r rs ih =>
      rw [List.flatMap_cons, ← ih]
      rfl

@[simp] theorem warnings_join (rs : List Report) :
    (join rs).warnings = rs.flatMap warnings := by
  induction rs with
  | nil => rfl
  | cons r rs ih =>
      rw [List.flatMap_cons, ← ih]
      rfl

@[simp] theorem fields_join (rs : List Report) : (join rs).fields = rs.flatMap fields := by
  induction rs with
  | nil => rfl
  | cons r rs ih =>
      rw [List.flatMap_cons, ← ih]
      rfl

/-- Steps that only add to a report add what they would add to an empty one. -/
theorem foldl_eq_append_join {α : Type} {f : Report → α → Report}
    (adds : ∀ r a, f r a = r ++ f empty a) (as : List α) (r : Report) :
    as.foldl f r = r ++ join (as.map (f empty)) := by
  induction as generalizing r with
  | nil => exact (append_empty r).symm
  | cons a as ih =>
      rw [List.foldl_cons, ih, adds, append_assoc]
      rfl

end Report

namespace Template

open Json

/-- A text of a template and its place. -/
structure Leaf where
  path : FieldPath
  text : String
  deriving DecidableEq

/-- The pieces of a leaf's text. -/
def Leaf.pieces (l : Leaf) : List Piece :=
  Template.pieces l.text.toList

mutual

/-- The leaves of a value at a place, in order. -/
def leaves (path : FieldPath) : Value → List Leaf
  | .object fields => leavesOfFields path fields
  | .array items => leavesOfItems path 0 items
  | .string text => [⟨path, text⟩]
  | .null => []
  | .bool _ => []
  | .number _ => []

/-- The leaves of the items from the given position on. -/
def leavesOfItems (path : FieldPath) (first : Nat) : List Value → List Leaf
  | [] => []
  | v :: rest => leaves (path.index first) v ++ leavesOfItems path (first + 1) rest

/-- The leaves of the fields. -/
def leavesOfFields (path : FieldPath) : List (String × Value) → List Leaf
  | [] => []
  | (name, v) :: rest => leaves (path.key name) v ++ leavesOfFields path rest

end

/-- What a leaf adds to a report. -/
def leafReport (s : Setting) (l : Leaf) : Report :=
  checkText s l.path l.text .empty

theorem checkName_append (s : Setting) (path : FieldPath) (name : String) (a b : Report) :
    checkName s path name (a ++ b) = a ++ checkName s path name b := by
  unfold checkName
  split
  · rw [Report.append_addError]
  · split
    · rw [Report.append_addWarning]
    · rfl

theorem checkCount_append (s : Setting) (path : FieldPath) (name : String) (a b : Report)
    (count : Except CountError Nat) :
    checkCount s path name (a ++ b) count = a ++ checkCount s path name b count := by
  cases count with
  | error e => exact Report.append_addError a b _
  | ok n =>
      dsimp only [checkCount]
      split
      · exact Report.append_addWarning a b _
      · rfl

theorem checkDeclared_append (s : Setting) (path : FieldPath) (name : String) (params : Params)
    (a b : Report) :
    checkDeclared s path name params (a ++ b) = a ++ checkDeclared s path name params b := by
  unfold checkDeclared
  split
  · rfl
  · split
    · rfl
    · rw [Report.append_addError]

theorem checkPlaceholder_append (s : Setting) (path : FieldPath) (a b : Report)
    (p : Placeholder) :
    checkPlaceholder s path (a ++ b) p = a ++ checkPlaceholder s path b p := by
  dsimp only [checkPlaceholder]
  rw [checkName_append]
  split
  · rw [Report.append_addError, Report.append_addField]
  · split
    · rw [checkCount_append, checkDeclared_append, Report.append_addField]
    · rw [checkDeclared_append, Report.append_addField]

theorem checkMixed_append (path : FieldPath) (ps : List Piece) (a b : Report) :
    checkMixed path ps (a ++ b) = a ++ checkMixed path ps b := by
  unfold checkMixed
  split
  · rw [Report.append_addError]
  · rfl

/-- What one placeholder adds is added to whatever was there. -/
theorem checkPlaceholder_eq_append (s : Setting) (path : FieldPath) (r : Report)
    (p : Placeholder) :
    checkPlaceholder s path r p = r ++ checkPlaceholder s path .empty p := by
  rw [← checkPlaceholder_append, Report.append_empty]

/-- The report of a leaf: the complaint about an array that is not alone, and what its
placeholders add. -/
theorem checkText_eq_append (s : Setting) (path : FieldPath) (text : String) (r : Report) :
    checkText s path text r =
      r ++ (checkMixed path (pieces text.toList) .empty ++
        Report.join ((placeholders (pieces text.toList)).map
          (checkPlaceholder s path .empty))) := by
  have mixed := checkMixed_append path (pieces text.toList) r .empty
  rw [Report.append_empty] at mixed
  rw [← Report.append_assoc, ← mixed]
  exact Report.foldl_eq_append_join (checkPlaceholder_eq_append s path) _ _

theorem checkText_eq_append_leafReport (s : Setting) (r : Report) (l : Leaf) :
    checkText s l.path l.text r = r ++ leafReport s l := by
  rw [leafReport, checkText_eq_append, checkText_eq_append s _ _ .empty]
  rfl

mutual

/-- A check visits the leaves one after the other. -/
theorem visit_eq_foldl (s : Setting) (path : FieldPath) :
    ∀ (v : Value) (r : Report),
      visit s path v r = (leaves path v).foldl (fun r l => checkText s l.path l.text r) r
  | .object fields, r => visitFields_eq_foldl s path fields r
  | .array items, r => visitItems_eq_foldl s path 0 items r
  | .string _, _ => rfl
  | .null, _ => rfl
  | .bool _, _ => rfl
  | .number _, _ => rfl

theorem visitItems_eq_foldl (s : Setting) (path : FieldPath) (first : Nat) :
    ∀ (vs : List Value) (r : Report),
      visitItems s path first vs r =
        (leavesOfItems path first vs).foldl (fun r l => checkText s l.path l.text r) r
  | [], _ => rfl
  | v :: rest, r => by
      rw [visitItems, leavesOfItems, List.foldl_append,
        visit_eq_foldl s (path.index first) v r]
      exact visitItems_eq_foldl s path (first + 1) rest _

theorem visitFields_eq_foldl (s : Setting) (path : FieldPath) :
    ∀ (fields : List (String × Value)) (r : Report),
      visitFields s path fields r =
        (leavesOfFields path fields).foldl (fun r l => checkText s l.path l.text r) r
  | [], _ => rfl
  | (name, v) :: rest, r => by
      rw [visitFields, leavesOfFields, List.foldl_append,
        visit_eq_foldl s (path.key name) v r]
      exact visitFields_eq_foldl s path rest _

end

/-- What a value adds to a report is what its leaves add, one after the other. -/
theorem visit_eq_append_join (s : Setting) (path : FieldPath) (v : Value) (r : Report) :
    visit s path v r = r ++ Report.join ((leaves path v).map (leafReport s)) := by
  rw [visit_eq_foldl]
  exact Report.foldl_eq_append_join (fun r l => checkText_eq_append_leafReport s r l) _ r

theorem errors_leafReport (s : Setting) (l : Leaf) :
    (leafReport s l).errors =
      (checkMixed l.path l.pieces .empty).errors ++
        (placeholders l.pieces).flatMap fun p => (checkPlaceholder s l.path .empty p).errors := by
  rw [leafReport, checkText_eq_append]
  simp [Leaf.pieces, List.flatMap_map]

/-- The errors of a template are those of its leaves in a row; a template in which nothing was
detected has one more. -/
theorem errors_check (s : Setting) (template : Value) :
    (check s template).errors =
      ((leaves .root template).flatMap fun l => (leafReport s l).errors) ++
        if (visit s .root template .empty).fields.isEmpty then [noPlaceholders] else [] := by
  have errors : (visit s .root template .empty).errors =
      (leaves .root template).flatMap fun l => (leafReport s l).errors := by
    rw [visit_eq_append_join]
    simp [List.flatMap_map]
  rw [← errors]
  unfold check
  split
  · next nothing =>
      rw [if_pos nothing]
      rfl
  · next something => rw [if_neg something, List.append_nil]

end Template

end Fabricate
