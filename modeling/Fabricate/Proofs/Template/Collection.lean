import Fabricate.Proofs.Template.Detection
import Fabricate.Proofs.Template.Suggestion

/-!
# A check collects everything

No problem of a template hides another one. What a check says of a template is what it says of each
leaf alone, in the order of the leaves, and what it says of a leaf is what each of its questions
about each placeholder finds by itself: is the name known, can the parameters be read, is the number
of elements accepted, are the parameters those that the generator declares. None of the answers
depends on the others (`errors_leafReport_eq`, `warnings_leafReport`).

Every placeholder has its entry, whatever is wrong with it, and the entry says what the template
says (`DetectedField.Describes`). An array's `count` is not among the parameters of its entry; the
others are, although their order may differ, since taking a field out moves the last one.
-/

namespace Fabricate

namespace Fields

variable {α : Type} {fs others : Fields α} {name : String} {v : α}

theorem perm_lastFirst (fs : Fields α) : fs.lastFirst.Perm fs := by
  unfold lastFirst
  cases last : fs.getLast? with
  | none =>
      rw [List.getLast?_eq_none_iff] at last
      rw [last]
  | some field =>
      obtain ⟨before, rfl⟩ := List.getLast?_eq_some_iff.1 last
      rw [List.dropLast_concat]
      exact (List.perm_append_singleton field before).symm

theorem filter_ne_of_notMem (h : name ∉ fs.names) :
    (fs.filter fun field => field.1 ≠ name) = fs := by
  rw [List.filter_eq_self]
  intro field member
  have named : field.1 ∈ fs.names := List.mem_map_of_mem member
  simp only [decide_eq_true_eq]
  rintro rfl
  exact h named

/-- What is left when a field was taken out are the other fields, in some order. -/
theorem perm_filter_of_take (distinct : fs.names.Nodup) (h : fs.take name = some (v, others)) :
    others.Perm (fs.filter fun field => field.1 ≠ name) := by
  induction fs generalizing others with
  | nil => cases h
  | cons field rest ih =>
      obtain ⟨n, w⟩ := field
      rw [names_cons, List.nodup_cons] at distinct
      rw [take] at h
      split at h
      · next same =>
          cases h
          subst same
          rw [List.filter_cons_of_neg (by simp), filter_ne_of_notMem distinct.1]
          exact perm_lastFirst rest
      · next other =>
          obtain ⟨⟨u, left⟩, taken, same⟩ := Option.map_eq_some_iff.1 h
          cases same
          rw [List.filter_cons_of_pos (by simpa using other)]
          exact (ih distinct.2 taken).cons (n, w)

end Fields

/-- Parameters that were read name each key once. -/
theorem Param.nodup_names_coerceInto {raws : List String} {params all : Params}
    (distinct : params.names.Nodup) (h : Param.coerceInto params raws = .ok all) :
    all.names.Nodup := by
  induction raws generalizing params with
  | nil =>
      cases h
      exact distinct
  | cons raw raws ih =>
      rw [coerceInto] at h
      split at h
      · cases h
      · exact ih (Fields.nodup_names_put distinct _ _) h

theorem Param.nodup_names_coerceAll {raws : List String} {params : Params}
    (h : Param.coerceAll raws = .ok params) : params.names.Nodup := by
  have empty : (Fields.names ([] : Params)).Nodup := List.nodup_nil
  exact nodup_names_coerceInto empty h

namespace Template

open Json

/-! ### The questions about a placeholder -/

section Questions

variable (s : Setting) (path : FieldPath) (p : Placeholder)

/-- The issue about parameters that cannot be read. -/
def unreadable? : Option Issue :=
  match Param.coerceAll p.params with
  | .error e => some (Issue.about path .parameterError (some p.name) e.message)
  | .ok _ => none

/-- The answer to how many elements an array has, if its parameters can be read. -/
def counted? : Option (Except CountError Nat) :=
  match Param.coerceAll p.params with
  | .error _ => none
  | .ok params =>
      if p.isArray then some (takeCount params s.options.maxArrayCount).1 else none

/-- The issue about a number of elements that is refused. -/
def refusedCount? : Option Issue :=
  match counted? s p with
  | some (.error e) => some (Issue.about path e.code (some p.name) e.message)
  | _ => none

/-- The parameters that a placeholder hands to its generator, if they can be read. -/
def forwarded? : Option Params :=
  match Param.coerceAll p.params with
  | .error _ => none
  | .ok params => some (if p.isArray then (takeCount params s.options.maxArrayCount).2 else params)

/-- The issue about parameters that are not those that a known generator declares. -/
def undeclared? : Option Issue :=
  match s.registry.resolve? p.name, forwarded? s p with
  | some g, some params =>
      (params.refusal? g.specs g.id).map fun e =>
        Issue.about path .parameterError (some p.name) e.message
  | _, _ => none

/-- The errors about a placeholder, one for each question that has a bad answer. -/
def placeholderErrors : List Issue :=
  [unknownName? s path p, unreadable? path p, refusedCount? s path p, undeclared? s path p].flatMap
    Option.toList

/-- The warning about a dotted name that is known. -/
def dotted? : Option Issue :=
  match s.registry.resolve? p.name with
  | some g =>
      if p.name.contains '.' then
        some <| Issue.about path .nestedReference (some p.name)
          ("nested reference '" ++ p.name ++ "' resolved to generator '" ++ g.id ++ "'")
      else none
  | none => none

/-- The warning about an array with many elements. -/
def large? : Option Issue :=
  match counted? s p with
  | some (.ok count) =>
      if s.options.arrayWarnThreshold < count then
        some <| Issue.about path .largeArray (some p.name)
          ("array count " ++ String.ofList (Decimal.ofNat count) ++
            " is large and may slow generation")
      else none
  | _ => none

/-- The warnings about a placeholder. -/
def placeholderWarnings : List Issue :=
  [dotted? s path p, large? s path p].flatMap Option.toList

end Questions

/-- The error about a leaf that holds an array among other content. It names the first array. -/
def mixed? (l : Leaf) : Option Issue :=
  match standalone? l.pieces with
  | some _ => none
  | none =>
      ((placeholders l.pieces).find? Placeholder.isArray).map fun p =>
        Issue.about l.path .templateStructure (some p.name) mixedReason

/-- The errors about a leaf. -/
def leafErrors (s : Setting) (l : Leaf) : List Issue :=
  (mixed? l).toList ++ (placeholders l.pieces).flatMap (placeholderErrors s l.path)

/-- The warnings about a leaf. -/
def leafWarnings (s : Setting) (l : Leaf) : List Issue :=
  (placeholders l.pieces).flatMap (placeholderWarnings s l.path)

theorem errors_checkName (s : Setting) (path : FieldPath) (p : Placeholder) (r : Report) :
    (checkName s path p.name r).errors = r.errors ++ (unknownName? s path p).toList := by
  unfold unknownName?
  cases known : s.registry.resolve? p.name with
  | none => exact errors_checkName_of_none s path p.name r known
  | some g => rw [errors_checkName_of_some s path p.name r known, Option.toList_none, List.append_nil]

theorem warnings_checkName (s : Setting) (path : FieldPath) (p : Placeholder) (r : Report) :
    (checkName s path p.name r).warnings = r.warnings ++ (dotted? s path p).toList := by
  unfold checkName dotted?
  cases s.registry.resolve? p.name with
  | none => exact (List.append_nil _).symm
  | some g =>
      dsimp only
      split
      · rfl
      · exact (List.append_nil _).symm

theorem errors_checkDeclared (s : Setting) (path : FieldPath) (p : Placeholder) {params : Params}
    (handed : forwarded? s p = some params) (r : Report) :
    (checkDeclared s path p.name params r).errors = r.errors ++ (undeclared? s path p).toList := by
  unfold undeclared?
  rw [handed]
  cases known : s.registry.resolve? p.name with
  | none =>
      rw [errors_checkDeclared_of_none s path p.name r params known]
      exact (List.append_nil _).symm
  | some g => exact errors_checkDeclared_of_some s path p.name r params known

theorem warnings_checkDeclared (s : Setting) (path : FieldPath) (name : String) (params : Params)
    (r : Report) : (checkDeclared s path name params r).warnings = r.warnings := by
  unfold checkDeclared
  split
  · rfl
  · split <;> rfl

theorem errors_checkCount (s : Setting) (path : FieldPath) (p : Placeholder)
    {count : Except CountError Nat} (asked : counted? s p = some count) (r : Report) :
    (checkCount s path p.name r count).errors = r.errors ++ (refusedCount? s path p).toList := by
  unfold refusedCount?
  rw [asked]
  cases count with
  | error e => rfl
  | ok n =>
      rw [errors_checkCount_ok]
      exact (List.append_nil _).symm

theorem warnings_checkCount (s : Setting) (path : FieldPath) (p : Placeholder)
    {count : Except CountError Nat} (asked : counted? s p = some count) (r : Report) :
    (checkCount s path p.name r count).warnings = r.warnings ++ (large? s path p).toList := by
  unfold large?
  rw [asked]
  cases count with
  | error e => exact (List.append_nil _).symm
  | ok n =>
      dsimp only [checkCount]
      split
      · rfl
      · exact (List.append_nil _).symm

/-- The errors and the warnings about a placeholder are the answers to the questions about it. -/
theorem issues_checkPlaceholder (s : Setting) (path : FieldPath) (p : Placeholder) :
    (checkPlaceholder s path .empty p).errors = placeholderErrors s path p ∧
      (checkPlaceholder s path .empty p).warnings = placeholderWarnings s path p := by
  unfold checkPlaceholder placeholderErrors placeholderWarnings
  dsimp only
  cases read : Param.coerceAll p.params with
  | error e =>
      have unread : unreadable? path p =
          some (Issue.about path .parameterError (some p.name) e.message) := by
        simp [unreadable?, read]
      have uncounted : counted? s p = none := by simp [counted?, read]
      have unhanded : forwarded? s p = none := by simp [forwarded?, read]
      have undeclared : undeclared? s path p = none := by
        unfold undeclared?
        rw [unhanded]
        split <;> simp_all
      simp [errors_checkName, warnings_checkName, unread, refusedCount?, large?, uncounted,
        undeclared]
  | ok params =>
      have unread : unreadable? path p = none := by simp [unreadable?, read]
      cases array : p.isArray with
      | true =>
          have asked : counted? s p = some (takeCount params s.options.maxArrayCount).1 := by
            simp [counted?, read, array]
          have handed : forwarded? s p = some (takeCount params s.options.maxArrayCount).2 := by
            simp [forwarded?, read, array]
          simp [errors_checkDeclared s path p handed, errors_checkCount s path p asked,
            errors_checkName, warnings_checkDeclared, warnings_checkCount s path p asked,
            warnings_checkName, unread]
      | false =>
          have uncounted : counted? s p = none := by simp [counted?, read, array]
          have handed : forwarded? s p = some params := by simp [forwarded?, read, array]
          simp [errors_checkDeclared s path p handed, errors_checkName, warnings_checkDeclared,
            warnings_checkName, unread, refusedCount?, large?, uncounted]

/-- The errors and the warnings about a leaf are those about its placeholders, in order; an array
that is not alone comes first. -/
theorem issues_leafReport (s : Setting) (l : Leaf) :
    (leafReport s l).errors = leafErrors s l ∧ (leafReport s l).warnings = leafWarnings s l := by
  have errors : (checkMixed l.path l.pieces .empty).errors = (mixed? l).toList := by
    unfold checkMixed mixed?
    cases standalone? l.pieces with
    | some p => rfl
    | none => cases (placeholders l.pieces).find? Placeholder.isArray <;> rfl
  have warnings : (checkMixed l.path l.pieces .empty).warnings = [] := by
    unfold checkMixed
    split <;> rfl
  constructor
  · rw [errors_leafReport, errors, leafErrors]
    simp only [(issues_checkPlaceholder s l.path _).1]
  · rw [leafReport, checkText_eq_append, ← Leaf.pieces]
    simp only [Report.warnings_append, Report.warnings_empty, warnings, Report.warnings_join,
      List.flatMap_map, (issues_checkPlaceholder s l.path _).2, List.nil_append, leafWarnings]

/-! ### Entries -/

/-- The number of elements that an array is accepted with: one without a `count`, and the value of
`count` when it is an integer from one up to the greatest number of elements. -/
def AcceptedCount (params : Params) (max : Nat) (n : Int64) : Prop :=
  (params.get? countKey = none ∧ n = 1) ∨
    ∃ v, params.get? countKey = some v ∧ v.int64? = some n ∧ 1 ≤ n.toInt ∧ n.toInt ≤ max

/-- An entry says of a placeholder what the template says: its place, its trimmed name, its kind,
its parameters without an array's `count`, and the number of elements of an accepted array. -/
structure Describes (s : Setting) (path : FieldPath) (p : Placeholder) (f : DetectedField) :
    Prop where
  path : f.path = path.label
  generator : Text.IsTrim f.generator.toList p.nameText
  shape : f.shape =
    if p.bracketed then .array else if p.paramText.isSome then .parameterized else .scalar
  unread : ∀ e, Param.coerceAll p.params = .error e → f.params = []
  read : ∀ params, Param.coerceAll p.params = .ok params →
    if p.isArray then f.params.Perm (params.filter fun field => field.1 ≠ countKey)
    else f.params = params
  count : ∀ n, f.arrayCount = some n ↔ p.isArray = true ∧ ∃ params,
    Param.coerceAll p.params = .ok params ∧ AcceptedCount params s.options.maxArrayCount n

theorem perm_takeCount {params : Params} (distinct : params.names.Nodup) (max : Nat) :
    (takeCount params max).2.Perm (params.filter fun field => field.1 ≠ countKey) := by
  unfold takeCount
  cases taken : Fields.take params countKey with
  | none =>
      have missing : countKey ∉ params.names := by
        rw [← Fields.has_iff, Fields.has, Fields.take_eq_none taken]
        exact Bool.false_ne_true
      rw [Fields.filter_ne_of_notMem missing]
  | some found => exact Fields.perm_filter_of_take distinct taken

/-- The number of elements in an entry is the one that the array is accepted with. -/
theorem acceptedCount_iff (params : Params) (max : Nat) (n : Int64) :
    (takeCount params max).1.toOption.map Int64.ofNat = some n ↔ AcceptedCount params max n := by
  have word : ∀ {k : Nat} {w : Int64}, w.toInt = k → Int64.ofNat k = w := by
    intro k w same
    rw [← Int64.ofInt_eq_ofNat, ← same, Int64.ofInt_toInt]
  constructor
  · intro h
    obtain ⟨k, found, rfl⟩ := Option.map_eq_some_iff.1 h
    cases count : takeCount params max with
    | mk number forwarded =>
        rw [count] at found
        cases number with
        | error e => cases found
        | ok m =>
            cases found
            rcases takeCount_eq_ok.1 count with
              ⟨missing, rfl, -⟩ | ⟨v, w, taken, integer, same, positive, limited⟩
            · exact .inl ⟨Fields.take_eq_none missing, rfl⟩
            · refine .inr ⟨v, Fields.get?_of_take taken, ?_, ?_, ?_⟩
              · rw [word same, integer]
              · rw [word same]
                omega
              · rw [word same]
                omega
  · rintro (⟨missing, rfl⟩ | ⟨v, given, integer, positive, limited⟩)
    · have untaken : Fields.take params countKey = none := by
        cases taken : Fields.take params countKey with
        | none => rfl
        | some found =>
            rw [Fields.get?_of_take taken] at missing
            cases missing
      rw [takeCount_eq_ok.2 (.inl ⟨untaken, rfl, rfl⟩)]
      rfl
    · obtain ⟨k, same⟩ := Int.eq_ofNat_of_zero_le (a := n.toInt) (by omega)
      cases taken : Fields.take params countKey with
      | none =>
          rw [Fields.take_eq_none taken] at given
          cases given
      | some found =>
          obtain ⟨u, others⟩ := found
          rw [Fields.get?_of_take taken] at given
          cases given
          have count : takeCount params max = (.ok k, others) :=
            takeCount_eq_ok.2 (.inr ⟨_, n, taken, integer, same, by omega, by omega⟩)
          rw [count]
          exact congrArg some (word same)

/-- The entry of a placeholder describes it. -/
theorem describes_fieldOf (s : Setting) (path : FieldPath) (p : Placeholder) :
    Describes s path p (fieldOf s path p) := by
  have name := isTrim_name p
  unfold fieldOf
  cases read : Param.coerceAll p.params with
  | error e =>
      refine ⟨rfl, name, rfl, fun _ _ => rfl, fun params other => ?_, fun n => ?_⟩
      · cases read.symm.trans other
      · simp [detected, read]
  | ok params =>
      have unique : ∀ {others : Params}, Param.coerceAll p.params = .ok others → others = params :=
        fun other => Except.ok.inj (other.symm.trans read)
      dsimp only
      split
      · next array =>
          refine ⟨rfl, name, rfl, fun e other => ?_, fun others other => ?_, fun n => ?_⟩
          · cases read.symm.trans other
          · rw [unique other, if_pos array]
            exact perm_takeCount (Param.nodup_names_coerceAll read) _
          · constructor
            · intro count
              exact ⟨array, params, read, (acceptedCount_iff _ _ _).1 count⟩
            · rintro ⟨-, others, other, accepted⟩
              rw [unique other] at accepted
              exact (acceptedCount_iff _ _ _).2 accepted
      · next scalar =>
          refine ⟨rfl, name, rfl, fun e other => ?_, fun others other => ?_, fun n => ?_⟩
          · cases read.symm.trans other
          · rw [unique other, if_neg scalar]
            rfl
          · constructor
            · intro count
              cases count
            · rintro ⟨array, -⟩
              exact absurd array scalar

/-! ### Templates -/

/-- The placeholders of a template, as they are parsed from its leaves, with their places. -/
def parsed (template : Value) : List (FieldPath × Placeholder) :=
  (leaves .root template).flatMap fun l => (tokens l.text).map fun t => (l.path, t.placeholder)

theorem parsed_eq_placed (template : Value) : parsed template = placed template := by
  unfold parsed placed
  refine List.flatMap_congr fun l _ => ?_
  rw [Leaf.pieces, ← map_placeholder_tokens, List.map_map]
  rfl

/-- The report of a check, part by part. -/
theorem parts_check (s : Setting) (template : Value) :
    (check s template).errors = ((leaves .root template).flatMap fun l => (leafReport s l).errors) ++
        (if parsed template = [] then [noPlaceholders] else []) ∧
      (check s template).warnings =
        ((leaves .root template).flatMap fun l => (leafReport s l).warnings) ∧
      (check s template).fields =
        (leaves .root template).flatMap fun l => (leafReport s l).fields := by
  have visited : (check s template).warnings = (visit s .root template .empty).warnings ∧
      (check s template).fields = (visit s .root template .empty).fields := by
    unfold check
    dsimp only
    split <;> exact ⟨rfl, rfl⟩
  have nothing : (visit s .root template .empty).fields.isEmpty = true ↔ parsed template = [] := by
    rw [← visited.2, fields_check, parsed_eq_placed, List.isEmpty_iff, List.map_eq_nil_iff]
  refine ⟨?_, ?_, ?_⟩
  · rw [errors_check]
    simp only [nothing]
  · rw [visited.1, visit_eq_append_join]
    simp [List.flatMap_map]
  · rw [visited.2, visit_eq_append_join]
    simp [List.flatMap_map]

/-- No answer to a question is about the absence of placeholders. -/
theorem code_ne_noPlaceholders_of_mem_placeholderErrors {s : Setting} {path : FieldPath}
    {p : Placeholder} {i : Issue} (h : i ∈ placeholderErrors s path p) :
    i.code ≠ .noPlaceholders := by
  simp only [placeholderErrors, List.flatMap_cons, List.flatMap_nil, List.mem_append,
    List.not_mem_nil, or_false, Option.mem_toList] at h
  rcases h with unknown | unread | count | undeclared
  · unfold unknownName? at unknown
    split at unknown <;> cases unknown
    exact IssueCode.noConfusion
  · unfold unreadable? at unread
    split at unread <;> cases unread
    exact IssueCode.noConfusion
  · unfold refusedCount? at count
    split at count
    · next e _ =>
        cases count
        cases e <;> exact IssueCode.noConfusion
    · cases count
  · unfold undeclared? at undeclared
    split at undeclared
    · obtain ⟨e, -, rfl⟩ := Option.map_eq_some_iff.1 undeclared
      exact IssueCode.noConfusion
    · cases undeclared

theorem code_ne_noPlaceholders_of_mem {s : Setting} {l : Leaf} {i : Issue}
    (h : i ∈ leafErrors s l) : i.code ≠ .noPlaceholders := by
  rcases List.mem_append.1 h with mixed | here
  · rw [Option.mem_toList] at mixed
    unfold mixed? at mixed
    split at mixed
    · cases mixed
    · obtain ⟨p, -, rfl⟩ := Option.map_eq_some_iff.1 mixed
      exact IssueCode.noConfusion
  · obtain ⟨p, -, here⟩ := List.mem_flatMap.1 here
    exact code_ne_noPlaceholders_of_mem_placeholderErrors here

/-- A leaf without placeholders holds no array and leaves no question to answer. -/
theorem leafErrors_of_placeholders_eq_nil (s : Setting) {l : Leaf}
    (none : placeholders l.pieces = []) : leafErrors s l = [] := by
  have unmixed : mixed? l = Option.none := by
    unfold mixed?
    rw [none]
    cases standalone? l.pieces <;> rfl
  rw [leafErrors, none, unmixed]
  rfl

theorem errors_leafReports_of_parsed_eq_nil (s : Setting) {template : Value}
    (none : parsed template = []) :
    ((leaves .root template).flatMap fun l => (leafReport s l).errors) = [] := by
  rw [parsed_eq_placed, placed, List.flatMap_eq_nil_iff] at none
  rw [List.flatMap_eq_nil_iff]
  intro l member
  rw [(issues_leafReport s l).1]
  exact leafErrors_of_placeholders_eq_nil s (List.map_eq_nil_iff.1 (none l member))

/-- A report that says of a template all that there is to say: what each leaf gives by itself, one
leaf after the other, an entry for every placeholder, and the absence of placeholders. -/
structure Collects (s : Setting) (template : Value) (r : Report) : Prop where
  errors : r.errors = ((leaves .root template).flatMap fun l => (leafReport s l).errors) ++
    if parsed template = [] then [noPlaceholders] else []
  warnings : r.warnings = (leaves .root template).flatMap fun l => (leafReport s l).warnings
  fields : r.fields = (leaves .root template).flatMap fun l => (leafReport s l).fields
  leafErrors : ∀ l ∈ leaves .root template, (leafReport s l).errors = leafErrors s l
  leafWarnings : ∀ l ∈ leaves .root template, (leafReport s l).warnings = leafWarnings s l
  entries : List.Forall₂ (fun t f => Describes s t.1 t.2 f) (parsed template) r.fields
  nothing : (∃ i ∈ r.errors, i.code = .noPlaceholders) ↔ parsed template = []
  onlyNothing : parsed template = [] → r.errors = [noPlaceholders]

/-- A check of a template collects everything. -/
theorem check_collects_everything (s : Setting) (template : Value) :
    Collects s template (check s template) := by
  obtain ⟨errors, warnings, fields⟩ := parts_check s template
  refine ⟨errors, warnings, fields, fun l _ => (issues_leafReport s l).1,
    fun l _ => (issues_leafReport s l).2, ?_, ?_, ?_⟩
  · rw [fields_check, ← parsed_eq_placed, List.forall₂_map_right_iff]
    exact List.forall₂_same.2 fun t _ => describes_fieldOf s t.1 t.2
  · constructor
    · rintro ⟨i, member, code⟩
      rw [errors, List.mem_append] at member
      rcases member with some | last
      · obtain ⟨l, -, here⟩ := List.mem_flatMap.1 some
        rw [(issues_leafReport s l).1] at here
        exact absurd code (code_ne_noPlaceholders_of_mem here)
      · split at last
        · next none => exact none
        · cases last
    · intro none
      refine ⟨noPlaceholders, ?_, rfl⟩
      rw [errors, if_pos none]
      exact List.mem_append_right _ (List.mem_singleton.2 rfl)
  · intro none
    rw [errors, errors_leafReports_of_parsed_eq_nil s none, if_pos none, List.nil_append]

-- Five things are wrong with one text, and all of them are said.
example : (check (.constant "word" [] (.text "x"))
      (.string "\x7b\x7b bogus:=1\x7d\x7d \x7b\x7b[wrod]:count=0\x7d\x7d")).errors.map Issue.code =
    [.templateStructure, .generatorNotFound, .parameterError, .generatorNotFound,
      .invalidArrayCount] := by
  decide +kernel

end Template

end Fabricate
