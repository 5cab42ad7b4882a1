import Fabricate.Proofs.Template.Refusal

/-!
# A walk and a check agree

A check collects all errors of a template, a walk stops at its first failure. When generators never
fail on parameters that their declarations accept, the two agree: a walk succeeds exactly when a
check finds no error but the absence of placeholders, and otherwise it fails with the first error
of the report. "The same error" is `Reported`: the same class, the same suggestions and the same
place. Only the place of one error differs: an array's parameters are refused where its first
element would be.

Both sides are read leaf by leaf. The first error of a leaf's report and the first refusal among
its slots belong together (`leaf_agrees`), and the rest is a search along two rows of leaves.
-/

namespace Fabricate

/-- The class of an error, as a failing walk tells it: a refused number of elements is a refused
parameter. -/
def IssueCode.category : IssueCode → IssueCode
  | .invalidArrayCount => .parameterError
  | code => code

namespace Template

open Json

/-- The failure of a walk at the place `found` is the error that a check reports at `place`. -/
structure Reported (place found : FieldPath) (f : Failure) (i : Issue) : Prop where
  issue : ∃ j, f.issue? = some j ∧ j.code = i.code.category ∧ j.suggestions = i.suggestions ∧
    j.path = found.label
  path : i.path = place.label

/-- The text is one array, and nothing is wrong with it except that the declarations of its
generator refuse the parameters. -/
def RefusedRow (s : Setting) (text : String) : Prop :=
  ∃ p g params n forwarded e,
    standalone? (pieces text.toList) = some p ∧ p.isArray = true ∧
      s.registry.resolve? p.name = some g ∧ Param.coerceAll p.params = .ok params ∧
      takeCount params s.options.maxArrayCount = (.ok n, forwarded) ∧
      forwarded.refusal? g.specs g.id = some e

/-- The failure of a walk is the error that a check reports about the leaf. -/
def Leaf.Agrees (s : Setting) (l : Leaf) (f : Failure) (i : Issue) : Prop :=
  (RefusedRow s l.text → Reported l.path (l.path.index 0) f i) ∧
    (¬RefusedRow s l.text → Reported l.path l.path f i)

/-! ### The errors of a placeholder -/

section Errors

variable (s : Setting) (path : FieldPath) (name : String) (r : Report)

theorem errors_checkName_of_none (unknown : s.registry.resolve? name = none) :
    (checkName s path name r).errors = r.errors ++
      [⟨path.label, some name, "generator '" ++ name ++ "' not found",
        s.registry.suggest name s.options.suggestionLimit, .generatorNotFound⟩] := by
  unfold checkName
  rw [unknown]
  rfl

theorem errors_checkName_of_some {g : Generator} (known : s.registry.resolve? name = some g) :
    (checkName s path name r).errors = r.errors := by
  unfold checkName
  rw [known]
  dsimp only
  split <;> rfl

theorem errors_checkCount_ok (n : Nat) : (checkCount s path name r (.ok n)).errors = r.errors := by
  dsimp only [checkCount]
  split <;> rfl

theorem errors_checkCount_error (e : CountError) :
    (checkCount s path name r (.error e)).errors =
      r.errors ++ [Issue.about path e.code (some name) e.message] := rfl

theorem errors_checkDeclared_of_none (params : Params)
    (unknown : s.registry.resolve? name = none) :
    (checkDeclared s path name params r).errors = r.errors := by
  unfold checkDeclared
  rw [unknown]

theorem errors_checkDeclared_of_some (params : Params) {g : Generator}
    (known : s.registry.resolve? name = some g) :
    (checkDeclared s path name params r).errors = r.errors ++
      ((params.refusal? g.specs g.id).map fun e =>
        Issue.about path .parameterError (some name) e.message).toList := by
  unfold checkDeclared
  rw [known]
  dsimp only
  cases params.refusal? g.specs g.id with
  | none => simp
  | some e => rfl

end Errors

/-- The first error about a placeholder with an unknown name is that the name is unknown. -/
theorem head?_errors_of_unknown {s : Setting} {p : Placeholder} (path : FieldPath)
    (unknown : s.registry.resolve? p.name = none) :
    (checkPlaceholder s path .empty p).errors.head? =
      some ⟨path.label, some p.name, "generator '" ++ p.name ++ "' not found",
        s.registry.suggest p.name s.options.suggestionLimit, .generatorNotFound⟩ := by
  have named := errors_checkName_of_none s path p.name .empty unknown
  dsimp only [checkPlaceholder]
  cases Param.coerceAll p.params with
  | error e => simp [named]
  | ok params =>
      dsimp only
      split
      · rw [Report.errors_addField, errors_checkDeclared_of_none _ _ _ _ _ unknown]
        cases (takeCount params s.options.maxArrayCount).1 with
        | error e => simp [errors_checkCount_error, named]
        | ok n => simp [errors_checkCount_ok, named]
      · simp [errors_checkDeclared_of_none _ _ _ _ _ unknown, named]

/-- The first error about a placeholder with a known name and unreadable parameters is about the
parameters. -/
theorem head?_errors_of_unreadable {s : Setting} {p : Placeholder} {g : Generator}
    {e : ParamError} (path : FieldPath) (known : s.registry.resolve? p.name = some g)
    (unreadable : Param.coerceAll p.params = .error e) :
    (checkPlaceholder s path .empty p).errors.head? =
      some (Issue.about path .parameterError (some p.name) e.message) := by
  have named := errors_checkName_of_some s path p.name .empty known
  unfold checkPlaceholder
  rw [unreadable]
  simp [named]

/-- What remains to be said of a value: whether the declarations refuse its parameters. -/
theorem head?_errors_of_single {s : Setting} {p : Placeholder} {g : Generator} {params : Params}
    (path : FieldPath) (known : s.registry.resolve? p.name = some g)
    (readable : Param.coerceAll p.params = .ok params) (single : p.isArray = false) :
    (checkPlaceholder s path .empty p).errors.head? =
      (params.refusal? g.specs g.id).map fun e =>
        Issue.about path .parameterError (some p.name) e.message := by
  have named := errors_checkName_of_some s path p.name .empty known
  unfold checkPlaceholder
  rw [readable, single]
  simp [errors_checkDeclared_of_some _ _ _ _ _ known, named, Option.head?_toList]

/-- What remains to be said of a row: whether its number of elements is refused, and if not,
whether the declarations refuse its other parameters. -/
theorem head?_errors_of_row {s : Setting} {p : Placeholder} {g : Generator} {params : Params}
    (path : FieldPath) (known : s.registry.resolve? p.name = some g)
    (readable : Param.coerceAll p.params = .ok params) (row : p.isArray = true) :
    (checkPlaceholder s path .empty p).errors.head? =
      match takeCount params s.options.maxArrayCount with
      | (.error e, _) => some (Issue.about path e.code (some p.name) e.message)
      | (.ok _, forwarded) =>
          (forwarded.refusal? g.specs g.id).map fun e =>
            Issue.about path .parameterError (some p.name) e.message := by
  have named := errors_checkName_of_some s path p.name .empty known
  unfold checkPlaceholder
  rw [readable, row]
  cases counted : takeCount params s.options.maxArrayCount with
  | mk count forwarded =>
      cases count with
      | error e =>
          simp [counted, errors_checkDeclared_of_some _ _ _ _ _ known, errors_checkCount_error,
            named]
      | ok n =>
          simp [counted, errors_checkDeclared_of_some _ _ _ _ _ known, errors_checkCount_ok,
            named, Option.head?_toList]

/-! ### One placeholder -/

theorem notFound_reported (s : Setting) (path : FieldPath) (name : String) :
    Reported path path (notFound s path name)
      ⟨path.label, some name, "generator '" ++ name ++ "' not found",
        s.registry.suggest name s.options.suggestionLimit, .generatorNotFound⟩ :=
  ⟨⟨_, rfl, rfl, rfl, rfl⟩, rfl⟩

theorem parameter_reported (place found : FieldPath) (generator : Option String)
    (name : String) (e : ParamError) :
    Reported place found (.parameter found.label generator e)
      (Issue.about place .parameterError (some name) e.message) :=
  ⟨⟨_, rfl, rfl, rfl, rfl⟩, rfl⟩

theorem count_reported (path : FieldPath) (name : String) (e : CountError) :
    Reported path path (e.failure path name)
      (Issue.about path e.code (some name) e.message) := by
  cases e with
  | invalid value => exact ⟨⟨_, rfl, rfl, rfl, rfl⟩, rfl⟩
  | tooLarge n max => exact ⟨⟨_, rfl, rfl, rfl, rfl⟩, rfl⟩

theorem mixed_reported (path : FieldPath) (name : String) :
    Reported path path (mixedFailure path name)
      (Issue.about path .templateStructure (some name) mixedReason) :=
  ⟨⟨_, rfl, rfl, rfl, rfl⟩, rfl⟩

/-! ### One leaf -/

theorem not_refusedRow_of_none {s : Setting} {text : String}
    (h : standalone? (pieces text.toList) = none) : ¬RefusedRow s text := by
  rintro ⟨p, -, -, -, -, -, alone, -⟩
  rw [h] at alone
  cases alone

theorem refusedRow_of_alone {s : Setting} {text : String} {p : Placeholder}
    (h : standalone? (pieces text.toList) = some p) :
    RefusedRow s text ↔ p.isArray = true ∧ ∃ g params n forwarded e,
      s.registry.resolve? p.name = some g ∧ Param.coerceAll p.params = .ok params ∧
        takeCount params s.options.maxArrayCount = (.ok n, forwarded) ∧
        forwarded.refusal? g.specs g.id = some e := by
  constructor
  · rintro ⟨q, g, params, n, forwarded, e, alone, array, rest⟩
    rw [h] at alone
    cases alone
    exact ⟨array, g, params, n, forwarded, e, rest⟩
  · rintro ⟨array, g, params, n, forwarded, e, rest⟩
    exact ⟨p, g, params, n, forwarded, e, h, array, rest⟩

theorem Leaf.agrees_of_not {s : Setting} {l : Leaf} {f : Failure} {i : Issue}
    (h : ¬RefusedRow s l.text) (reported : Reported l.path l.path f i) : l.Agrees s f i :=
  ⟨fun refused => absurd refused h, fun _ => reported⟩

/-- The refusal of a value is the first error about its placeholder. -/
theorem single_agrees {s : Setting} {l : Leaf} {p : Placeholder} (h : ¬RefusedRow s l.text)
    (single : p.isArray = false) :
    Option.Rel (l.Agrees s) ((Slot.single l.path p).refusal? s)
      (checkPlaceholder s l.path .empty p).errors.head? := by
  rw [Slot.refusal?, prepare]
  cases known : s.registry.resolve? p.name with
  | none =>
      rw [head?_errors_of_unknown l.path known]
      exact .some (Leaf.agrees_of_not h (notFound_reported s l.path p.name))
  | some g =>
      dsimp only
      cases readable : Param.coerceAll p.params with
      | error e =>
          rw [head?_errors_of_unreadable l.path known readable]
          exact .some (Leaf.agrees_of_not h (parameter_reported l.path l.path _ _ e))
      | ok params =>
          rw [head?_errors_of_single l.path known readable single]
          dsimp only
          cases params.refusal? g.specs g.id with
          | none => exact .none
          | some e =>
              exact .some (Leaf.agrees_of_not h (parameter_reported l.path l.path _ _ e))

/-- The refusal of a row that is alone in its leaf is the first error about its placeholder. -/
theorem row_agrees {s : Setting} {l : Leaf} {p : Placeholder}
    (alone : standalone? l.pieces = some p) (row : p.isArray = true) :
    Option.Rel (l.Agrees s) ((Slot.row l.path p).refusal? s)
      (checkPlaceholder s l.path .empty p).errors.head? := by
  have refusedRow := refusedRow_of_alone (s := s) alone
  rw [Slot.refusal?, prepare]
  cases known : s.registry.resolve? p.name with
  | none =>
      rw [head?_errors_of_unknown l.path known]
      refine .some (Leaf.agrees_of_not ?_ (notFound_reported s l.path p.name))
      rw [refusedRow, known]
      rintro ⟨-, g, -, -, -, -, found, -⟩
      cases found
  | some g =>
      dsimp only
      cases readable : Param.coerceAll p.params with
      | error e =>
          rw [head?_errors_of_unreadable l.path known readable]
          refine .some (Leaf.agrees_of_not ?_ (parameter_reported l.path l.path _ _ e))
          rw [refusedRow, readable]
          rintro ⟨-, -, params, -, -, -, -, found, -⟩
          cases found
      | ok params =>
          rw [head?_errors_of_row l.path known readable row]
          dsimp only
          cases counted : takeCount params s.options.maxArrayCount with
          | mk count forwarded =>
              cases count with
              | error e =>
                  refine .some (Leaf.agrees_of_not ?_ (count_reported l.path p.name e))
                  rw [refusedRow, readable]
                  rintro ⟨-, -, others, n, rest, -, -, found, accepted, -⟩
                  cases found
                  rw [counted] at accepted
                  cases accepted
              | ok n =>
                  dsimp only
                  cases refused : forwarded.refusal? g.specs g.id with
                  | none => exact .none
                  | some e =>
                      have here : RefusedRow s l.text :=
                        refusedRow.2 ⟨row, g, params, n, forwarded, e, known, readable, counted,
                          refused⟩
                      exact .some ⟨fun _ => parameter_reported l.path (l.path.index 0) _ _ e,
                        fun other => absurd here other⟩

/-- Two searches along a row find related things when they do at the first place where one of them
finds anything. -/
theorem rel_findSome? {α β γ : Type} {R : β → γ → Prop} {f : α → Option β} {g : α → Option γ}
    (as : List α)
    (h : ∀ before a after, as = before ++ a :: after → (∀ x ∈ before, g x = none) →
      Option.Rel R (f a) (g a)) :
    Option.Rel R (as.findSome? f) (as.findSome? g) := by
  induction as with
  | nil => exact .none
  | cons a as ih =>
      have first := h [] a as rfl (by simp)
      rw [List.findSome?_cons, List.findSome?_cons]
      cases hf : f a with
      | some b =>
          cases hg : g a with
          | some c =>
              rw [hf, hg] at first
              exact first
          | none => rw [hf, hg] at first; cases first
      | none =>
          cases hg : g a with
          | some c => rw [hf, hg] at first; cases first
          | none =>
              apply ih
              intro before b after parts nothing
              apply h (a :: before) b after
              · rw [parts, List.cons_append]
              · intro x hx
                rcases List.mem_cons.1 hx with rfl | later
                · exact hg
                · exact nothing x later

/-- The first refusal among the slots of a leaf is the first error of the leaf's report. -/
theorem leaf_agrees (s : Setting) (l : Leaf) :
    Option.Rel (l.Agrees s) (l.slots.findSome? (Slot.refusal? s))
      (leafReport s l).errors.head? := by
  rw [errors_leafReport, Leaf.slots]
  cases alone : standalone? l.pieces with
  | some p =>
      have unmixed : (checkMixed l.path l.pieces .empty).errors = [] := by
        unfold checkMixed
        rw [alone]
        rfl
      rw [unmixed, placeholders_of_standalone? alone]
      dsimp only
      cases row : p.isArray with
      | true => simpa using row_agrees alone row
      | false =>
          have single : ¬RefusedRow s l.text := by
            rw [refusedRow_of_alone alone, row]
            rintro ⟨array, -⟩
            cases array
          simpa using single_agrees single row
  | none =>
      have notRow := not_refusedRow_of_none (s := s) alone
      dsimp only
      cases found : (placeholders l.pieces).find? Placeholder.isArray with
      | some p =>
          have mixed : (checkMixed l.path l.pieces .empty).errors =
              [Issue.about l.path .templateStructure (some p.name) mixedReason] := by
            unfold checkMixed
            rw [alone, found]
            rfl
          rw [mixed]
          exact .some (Leaf.agrees_of_not notRow (mixed_reported l.path p.name))
      | none =>
          have unmixed : (checkMixed l.path l.pieces .empty).errors = [] := by
            unfold checkMixed
            rw [alone, found]
            rfl
          rw [unmixed, List.nil_append, List.head?_flatMap]
          dsimp only
          rw [List.findSome?_map]
          apply rel_findSome?
          intro before p after parts _
          have member : p ∈ placeholders l.pieces := by
            rw [parts]
            simp
          have single := List.find?_eq_none.1 found p member
          exact single_agrees notRow (Bool.eq_false_iff.2 single)

/-! ### The whole template -/

theorem findSome?_flatMap {α β γ : Type} (as : List α) (f : α → List β) (g : β → Option γ) :
    (as.flatMap f).findSome? g = as.findSome? fun a => (f a).findSome? g := by
  induction as with
  | nil => rfl
  | cons a as ih =>
      rw [List.flatMap_cons, List.findSome?_append, ih, List.findSome?_cons]
      cases (f a).findSome? g <;> rfl

/-- The leaf where the first error is, which is also the first refusal. -/
theorem template_agrees (s : Setting) (template : Value) :
    Option.Rel
      (fun f i => ∃ before l after,
        leaves .root template = before ++ l :: after ∧
          (∀ x ∈ before, (leafReport s x).errors = []) ∧
          (leafReport s l).errors.head? = some i ∧ l.Agrees s f i)
      ((slots .root template).findSome? (Slot.refusal? s))
      ((leaves .root template).flatMap fun l => (leafReport s l).errors).head? := by
  rw [slots, findSome?_flatMap, List.head?_flatMap]
  apply rel_findSome?
  intro before l after parts nothing
  have agrees := leaf_agrees s l
  cases first : (leafReport s l).errors.head? with
  | none =>
      rw [first] at agrees
      revert agrees
      cases l.slots.findSome? (Slot.refusal? s) <;> simp
  | some i =>
      rw [first] at agrees
      revert agrees
      cases l.slots.findSome? (Slot.refusal? s) with
      | none => simp
      | some f =>
          intro agrees
          refine .some ⟨before, l, after, parts, ?_, first, Option.rel_some_some.1 agrees⟩
          intro x hx
          exact List.head?_eq_none_iff.1 (nothing x hx)

/-- No failure is about the absence of placeholders. -/
theorem code_ne_noPlaceholders {s : Setting} {l : Leaf} {f : Failure} {i : Issue}
    (h : l.Agrees s f i) : i.code ≠ .noPlaceholders := by
  have reported : ∃ found, Reported l.path found f i := by
    by_cases refused : RefusedRow s l.text
    · exact ⟨_, h.1 refused⟩
    · exact ⟨_, h.2 refused⟩
  obtain ⟨found, ⟨j, issue, code, -⟩, -⟩ := reported
  intro absent
  rw [absent] at code
  cases f <;> cases issue <;> cases code

/-- When generators never fail on accepted parameters, a walk succeeds exactly when a check finds
no error, the absence of placeholders apart. A walk that fails does so at the first leaf with an
error, and its failure is the first error of the report. -/
theorem walk_agrees_with_check (s : Setting) (never : s.registry.NeverFails) (template : Value)
    (seed : UInt64) (world : World) :
    ((walk s template seed world).1.isOk = true ↔
        ∀ i ∈ (check s template).errors, i.code = .noPlaceholders) ∧
      ∀ f, (walk s template seed world).1 = .error f →
        ∃ before l after i rest,
          leaves .root template = before ++ l :: after ∧
            (∀ x ∈ before, (leafReport s x).errors = []) ∧
            (leafReport s l).errors.head? = some i ∧
            (check s template).errors = i :: rest ∧ l.Agrees s f i := by
  have agrees := template_agrees s template
  have errors := errors_check s template
  cases refused : (slots .root template).findSome? (Slot.refusal? s) with
  | none =>
      obtain ⟨cs, q, made⟩ :=
        mapM_fill_of_refusal?_eq_none never refused (.start seed world)
      have clean : ((leaves .root template).flatMap fun l => (leafReport s l).errors) = [] := by
        rw [refused] at agrees
        revert agrees
        cases (leaves .root template).flatMap fun l => (leafReport s l).errors <;> simp
      rw [walk_of_mapM_ok made, errors, clean]
      constructor
      · refine ⟨fun _ i member => ?_, fun _ => rfl⟩
        rw [List.nil_append] at member
        split at member
        · rw [List.mem_singleton.1 member]
          rfl
        · cases member
      · intro f failed
        cases failed
  | some f =>
      obtain ⟨i, rest, first⟩ : ∃ i rest,
          ((leaves .root template).flatMap fun l => (leafReport s l).errors) = i :: rest := by
        rw [refused] at agrees
        revert agrees
        cases (leaves .root template).flatMap fun l => (leafReport s l).errors <;> simp
      rw [refused, first] at agrees
      obtain ⟨before, l, after, parts, clean, head, same⟩ := Option.rel_some_some.1 agrees
      rw [walk_of_refusal? never refused, errors, first]
      constructor
      · refine ⟨fun ok => (by cases ok), fun absent => ?_⟩
        exact absurd (absent i (by simp)) (code_ne_noPlaceholders same)
      · intro g failure
        cases failure
        exact ⟨before, l, after, i, _, parts, clean, head, rfl, same⟩

/-- An array whose parameters are refused: the check reports `a`, the walk `a[0]`. -/
theorem walk_agrees_with_check_constant :
    let s : Setting := .constant "word" [⟨"size", .int, false⟩] (.text "x")
    let template : Value := .object [("a", .string "\x7b\x7b[word]:count=2,max=1\x7d\x7d")]
    let f : Failure := .parameter "a[0]" (some "word") (.unknownKey "word" "max")
    s.registry.NeverFails ∧ (walk s template 7 ⟨[], false⟩).1 = .error f ∧
      ∃ before l after i rest,
        leaves .root template = before ++ l :: after ∧
          (∀ x ∈ before, (leafReport s x).errors = []) ∧
          (leafReport s l).errors.head? = some i ∧
          (check s template).errors = i :: rest ∧ l.Agrees s f i := by
  intro s template f
  have never : s.registry.NeverFails := Registry.neverFails_constant _ _ _
  have failed : (walk s template 7 ⟨[], false⟩).1 = .error f :=
    walk_of_refusal? never (by decide +kernel) 7 ⟨[], false⟩
  exact ⟨never, failed, (walk_agrees_with_check s never template 7 ⟨[], false⟩).2 f failed⟩

end Template

end Fabricate
