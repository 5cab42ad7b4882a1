import Fabricate.Proofs.Generator.History
import Fabricate.Proofs.Name.Nearest
import Fabricate.Proofs.Template.Agreement
import Fabricate.Proofs.Template.FirstFailure
import Fabricate.Proofs.Template.Rename

/-!
# Following a suggestion

A name that stands for no generator is reported with the known names near to it. In a registry whose
names are in normal form every known name resolves, since what an alias points to is there. So a
template in which the unknown name is replaced by a suggestion has one problem less
(`Settles`): a check reports the unknown names that are left and no others, and a walk that ends at
an unknown name ends at one of these.

A known name need not be a name that can be written in a placeholder. One with a colon is cut there.
-/

namespace Fabricate

/-! ### Suggested names -/

namespace Registry

/-- In a registry with names in normal form every known name resolves. -/
theorem WellFormed.isSome_resolve?_of_mem {r : Registry} (h : r.WellFormed) (normal : r.NamesNormal)
    {name : String} (known : name ∈ r.ids ++ r.aliases.names) :
    (r.resolve? name).isSome = true := by
  have has : r.generators.has name = true ∨ r.aliases.has name = true := by
    rw [List.mem_append, ids, ← Directory.has_iff_mem_names, ← Directory.has_iff_mem_names] at known
    exact known
  have isNormal : IsNormal name := has.elim (normal.generators name) (normal.aliases name)
  rw [isSome_resolve?_iff, isNormal, String.ofList_toList]
  exact .inl (h.isSome_lookup?_iff.2 has)

theorem WellFormed.isSome_resolve?_of_mem_suggest {r : Registry} (h : r.WellFormed)
    (normal : r.NamesNormal) {name c : String} {limit : Nat}
    (suggested : c ∈ r.suggest name limit) : (r.resolve? c).isSome = true :=
  h.isSome_resolve?_of_mem normal (Name.mem_of_mem_nearest suggested)

/-- Blanks around a name do not matter. -/
theorem resolve?_trimmed (r : Registry) (name : String) :
    r.resolve? (Text.trimmed name) = r.resolve? name := by
  have same : normalName (Text.trimmed name) = normalName name := by
    unfold normalName Text.trimmed
    obtain ⟨-, head, last⟩ := Text.isTrim_trim name.toList
    rw [String.toList_ofList, Text.trim_eq_self head last]
  unfold resolve?
  rw [same]

end Registry

namespace Template

open Json

/-! ### Unknown names of a template -/

/-- The issue about a placeholder's name when it stands for no generator. -/
def unknownName? (s : Setting) (path : FieldPath) (p : Placeholder) : Option Issue :=
  match s.registry.resolve? p.name with
  | none => (notFound s path p.name).issue?
  | some _ => none

/-- The errors of a report that are about unknown names. -/
def unknownNames (r : Report) : List Issue :=
  r.errors.filter fun i => i.code = .generatorNotFound

theorem unknownNames_checkPlaceholder (s : Setting) (path : FieldPath) (p : Placeholder) :
    unknownNames (checkPlaceholder s path .empty p) = (unknownName? s path p).toList := by
  unfold unknownNames unknownName? checkPlaceholder
  cases resolved : s.registry.resolve? p.name with
  | none =>
      have named := errors_checkName_of_none s path p.name .empty resolved
      cases Param.coerceAll p.params with
      | error e => simp [named, Issue.about, notFound, Failure.issue?]
      | ok params =>
          dsimp only
          split
          · rw [Report.errors_addField, errors_checkDeclared_of_none _ _ _ _ _ resolved]
            cases (takeCount params s.options.maxArrayCount).1 with
            | error e =>
                cases e <;> simp [errors_checkCount_error, named, Issue.about, notFound,
                  Failure.issue?, CountError.code]
            | ok n => simp [errors_checkCount_ok, named, notFound, Failure.issue?]
          · simp [errors_checkDeclared_of_none _ _ _ _ _ resolved, named, notFound, Failure.issue?]
  | some g =>
      have named := errors_checkName_of_some s path p.name .empty resolved
      have declared : ∀ params : Params, ((params.refusal? g.specs g.id).map fun e =>
          Issue.about path .parameterError (some p.name) e.message).toList.filter
            (fun i => i.code = .generatorNotFound) = [] := by
        intro params
        cases params.refusal? g.specs g.id <;> rfl
      cases Param.coerceAll p.params with
      | error e => simp [named, Issue.about]
      | ok params =>
          dsimp only
          split
          · rw [Report.errors_addField, errors_checkDeclared_of_some _ _ _ _ _ resolved,
              List.filter_append, declared]
            cases (takeCount params s.options.maxArrayCount).1 with
            | error e =>
                cases e <;> simp [errors_checkCount_error, named, Issue.about, CountError.code]
            | ok n => simp [errors_checkCount_ok, named]
          · rw [Report.errors_addField, errors_checkDeclared_of_some _ _ _ _ _ resolved,
              List.filter_append, declared, named]
            rfl

/-- A check reports the unknown names of a template in the order of its placeholders. -/
theorem unknownNames_check (s : Setting) (template : Value) :
    unknownNames (check s template) =
      (placed template).flatMap fun t => (unknownName? s t.1 t.2).toList := by
  have leaf : ∀ l : Leaf, unknownNames (leafReport s l) =
      (placeholders l.pieces).flatMap fun p => (unknownName? s l.path p).toList := by
    intro l
    have mixed : (checkMixed l.path l.pieces .empty).errors.filter
        (fun i => i.code = .generatorNotFound) = [] := by
      unfold checkMixed
      split <;> rfl
    rw [unknownNames, errors_leafReport, List.filter_append, mixed, List.filter_flatMap]
    exact List.flatMap_congr fun p _ => unknownNames_checkPlaceholder s l.path p
  have nothing : ∀ b : Bool, (if b then [noPlaceholders] else []).filter
      (fun i => i.code = .generatorNotFound) = [] := by
    intro b
    cases b <;> rfl
  rw [unknownNames, errors_check, List.filter_append, nothing, List.append_nil, List.filter_flatMap,
    placed, List.flatMap_assoc]
  refine List.flatMap_congr fun l _ => ?_
  rw [List.flatMap_map]
  exact leaf l

/-- A placeholder that asks for no call as its name is unknown. -/
theorem unknownName?_of_invocations_error {s : Setting} {path : FieldPath} {p : Placeholder}
    {seed : UInt64} {f : Failure} {i : Issue} (h : p.invocations s path seed = .error f)
    (issue : f.issue? = some i) (unknown : i.code = .generatorNotFound) :
    unknownName? s path p = some i := by
  unfold Placeholder.invocations at h
  split at h
  · next e unprepared =>
      cases h
      unfold prepare at unprepared
      split at unprepared
      · next resolved =>
          cases unprepared
          unfold unknownName?
          rw [resolved, issue]
      · split at unprepared
        · cases unprepared
          cases issue
          cases unknown
        · cases unprepared
  · split at h
    · split at h
      · next e _ _ =>
          cases h
          cases e <;> cases issue <;> cases unknown
      · cases h
    · cases h

/-- A call that gives no value is not about an unknown name. -/
theorem Breaks.code_ne_generatorNotFound {s : Setting} {c : Invocation} {w later : World}
    {made : List Call} {ended : Option Outcome} {f : Failure}
    (h : Breaks s c w made ended f later) {i : Issue} (issue : f.issue? = some i) :
    i.code ≠ .generatorNotFound := by
  rintro unknown
  cases h with
  | refused _ =>
      cases issue
      cases unknown
  | @failed e _ _ =>
      cases e <;> cases issue
      cases unknown

/-- A walk that ends at an unknown name ends at one that a check reports. -/
theorem mem_unknownNames_of_walk {s : Setting} {template : Value} {seed : UInt64}
    {world later : World} {f : Failure} {i : Issue}
    (h : walk s template seed world = (.error f, later)) (issue : f.issue? = some i)
    (unknown : i.code = .generatorNotFound) : i ∈ unknownNames (check s template) := by
  obtain ⟨ls, l, ms, _, _, _, _, _, split, -, -, -, halts⟩ := halts_of_walk h
  cases halts with
  | mixed _ _ =>
      cases issue
      cases unknown
  | @placeholder _ after p _ _ _ _ _ parts stops =>
      cases stops with
      | called _ _ _ breaks => exact absurd unknown (breaks.code_ne_generatorNotFound issue)
      | unasked refused =>
          have here : (l.path, p) ∈ placed template := by
            rw [placed, split]
            refine List.mem_flatMap.2 ⟨l, by simp, ?_⟩
            change (l.path, p) ∈ l.placed
            rw [parts]
            simp
          rw [unknownNames_check]
          refine List.mem_flatMap.2 ⟨_, here, ?_⟩
          rw [unknownName?_of_invocations_error refused issue unknown]
          simp

/-! ### Replacing an unknown name -/

/-- The issue is about the replaced name at one of the places. -/
def isReplaced (here : String → Bool) (old : String) (i : Issue) : Bool :=
  here i.path && i.generator = some old

theorem isReplaced_of_unknownName? {s : Setting} {path : FieldPath} {p : Placeholder} {i : Issue}
    (h : unknownName? s path p = some i) (here : String → Bool) (old : String) :
    isReplaced here old i = (here path.label && p.name = old) := by
  unfold unknownName? at h
  split at h
  · cases h
    simp [isReplaced]
  · cases h

theorem filter_unknownName? (s : Setting) (path : FieldPath) (p : Placeholder)
    (here : String → Bool) (old : String) :
    ((unknownName? s path p).toList.filter fun i => !isReplaced here old i) =
      if here path.label && p.name = old then [] else (unknownName? s path p).toList := by
  cases unknown : unknownName? s path p with
  | none => split <;> rfl
  | some i =>
      rw [Option.toList_some, List.filter_singleton, isReplaced_of_unknownName? unknown]
      cases here path.label && p.name = old <;> rfl

/-- A placeholder whose new name resolves is not reported. -/
theorem unknownName?_renamed {s : Setting} {new : String}
    (resolves : (s.registry.resolve? new).isSome = true) (path : FieldPath) {p : Placeholder}
    {old : String} (named : p.name = old) : unknownName? s path (p.renamed old new) = none := by
  obtain ⟨g, known⟩ := Option.isSome_iff_exists.1 resolves
  have name : (p.renamed old new).name = Text.trimmed new := by
    rw [Placeholder.renamed, if_pos named]
    rfl
  unfold unknownName?
  rw [name, Registry.resolve?_trimmed, known]

/-- Replacing an unknown name by one that resolves takes its issues out of the report and changes no
other issue about a name. -/
theorem unknownNames_renamed {s : Setting} {new : String} (writable : Writable new)
    (resolves : (s.registry.resolve? new).isSome = true) (here : String → Bool) (old : String)
    (template : Value) :
    unknownNames (check s (renamed here old new template)) =
      (unknownNames (check s template)).filter fun i => !isReplaced here old i := by
  rw [unknownNames_check, unknownNames_check, placed_renamed writable, List.flatMap_assoc,
    List.filter_flatMap]
  apply List.flatMap_congr
  rintro ⟨path, p⟩ member
  rw [filter_unknownName?]
  dsimp only
  cases chosen : here path.label with
  | false => simp
  | true =>
      rw [if_pos rfl, List.flatMap_map, Bool.true_and]
      by_cases named : p.name = old
      · have gone : ∀ q ∈ placeholders (p.renamed old new).pieces,
            (unknownName? s path q).toList = [] := by
          intro q inside
          rw [placeholders_pieces] at inside
          split at inside
          · cases inside
          · cases List.mem_singleton.1 inside
            rw [unknownName?_renamed resolves path named]
            rfl
        rw [decide_eq_true named, if_pos rfl]
        exact List.flatMap_eq_nil_iff.2 gone
      · obtain ⟨l, -, placed⟩ := List.mem_flatMap.1 member
        obtain ⟨q, written, same⟩ := List.mem_map.1 placed
        cases same
        rw [Placeholder.renamed, if_neg named, placeholders_pieces_of_mem written,
          List.flatMap_singleton, decide_eq_false named, if_neg Bool.false_ne_true]

/-- After the name was replaced at the places, a check reports the unknown names that are left, and
a walk that ends at an unknown name ends at one of these. -/
structure Settles (s : Setting) (here : String → Bool) (old : String) (before after : Value) :
    Prop where
  check : unknownNames (check s after) =
    (unknownNames (check s before)).filter fun i => !isReplaced here old i
  walk : ∀ seed world later f i, walk s after seed world = (.error f, later) →
    f.issue? = some i → i.code = .generatorNotFound →
      i ∈ unknownNames (Template.check s before) ∧ isReplaced here old i = false

theorem settles_renamed {s : Setting} {new : String} (writable : Writable new)
    (resolves : (s.registry.resolve? new).isSome = true) (here : String → Bool) (old : String)
    (template : Value) : Settles s here old template (renamed here old new template) where
  check := unknownNames_renamed writable resolves here old template
  walk := by
    intro seed world later f i failed issue unknown
    have reported := mem_unknownNames_of_walk failed issue unknown
    rw [unknownNames_renamed writable resolves, List.mem_filter, Bool.not_eq_true'] at reported
    exact reported

/-- What is said of a generator that was not found, by a check or by a walk. -/
inductive Said (s : Setting) (template : Value) (i : Issue) : Prop
  | check : i ∈ unknownNames (check s template) → Said s template i
  | walk {seed : UInt64} {world later : World} {f : Failure} :
      walk s template seed world = (.error f, later) → f.issue? = some i →
      i.code = .generatorNotFound → Said s template i

/-- The issue about an unknown name carries the name and what is suggested for it. -/
theorem Said.suggestions {s : Setting} {template : Value} {i : Issue} (h : Said s template i) :
    ∃ name, i.generator = some name ∧ s.registry.resolve? name = none ∧
      i.suggestions = s.registry.suggest name s.options.suggestionLimit := by
  have reported : i ∈ unknownNames (Template.check s template) := by
    cases h with
    | check reported => exact reported
    | walk failed issue unknown => exact mem_unknownNames_of_walk failed issue unknown
  rw [unknownNames_check] at reported
  obtain ⟨⟨path, p⟩, -, here⟩ := List.mem_flatMap.1 reported
  rw [Option.mem_toList] at here
  dsimp only [unknownName?, notFound, Failure.issue?] at here
  split at here
  · next unknown =>
      rw [← Option.some.inj here]
      refine ⟨p.name, ?_, unknown, ?_⟩
      · dsimp only
      · dsimp only
  · cases here

/-- Every placeholder whose name is unknown is reported. -/
theorem exists_said {s : Setting} {template : Value} {path : FieldPath} {p : Placeholder}
    (member : (path, p) ∈ placed template) (unknown : s.registry.resolve? p.name = none) :
    ∃ i, Said s template i ∧ i.path = path.label ∧ i.generator = some p.name := by
  let i : Issue := ⟨path.label, some p.name, "generator '" ++ p.name ++ "' not found",
    s.registry.suggest p.name s.options.suggestionLimit, .generatorNotFound⟩
  have reported : unknownName? s path p = some i := by
    unfold unknownName?
    rw [unknown]
    rfl
  refine ⟨i, .check ?_, rfl, rfl⟩
  rw [unknownNames_check]
  exact List.mem_flatMap.2 ⟨(path, p), member, Option.mem_toList.2 reported⟩

/-- Suggestions can be followed when all names of the registry are in normal form. Each of them
resolves. Every unknown name of a template is reported with what is suggested for it, and when it is
replaced by a suggestion that can be written in a placeholder, it is not reported again, neither by
a check nor by a walk. -/
theorem suggestions_can_be_followed (s : Setting) (history : List Registry.Change)
    (normal : ∀ c ∈ history, c.Normal) (reached : s.registry = Registry.empty.after history) :
    (∀ name limit, ∀ c ∈ s.registry.suggest name limit, (s.registry.resolve? c).isSome = true) ∧
      ∀ template,
        (∀ t ∈ placed template, s.registry.resolve? t.2.name = none →
          ∃ i, Said s template i ∧ i.path = t.1.label ∧ i.generator = some t.2.name) ∧
        ∀ i, Said s template i → ∃ old, i.generator = some old ∧
          s.registry.resolve? old = none ∧
          i.suggestions = s.registry.suggest old s.options.suggestionLimit ∧
          ∀ new ∈ i.suggestions, Writable new → ∀ here : String → Bool,
            Settles s here old template (renamed here old new template) := by
  have wellFormed : s.registry.WellFormed := reached ▸ Registry.wellFormed_after history
  have names : s.registry.NamesNormal := reached ▸ Registry.namesNormal_after normal
  have resolves : ∀ name limit, ∀ c ∈ s.registry.suggest name limit,
      (s.registry.resolve? c).isSome = true :=
    fun name limit c suggested => wellFormed.isSome_resolve?_of_mem_suggest names suggested
  refine ⟨resolves, fun template => ⟨fun t member unknown => exists_said member unknown, ?_⟩⟩
  intro i said
  obtain ⟨old, name, unknown, listed⟩ := said.suggestions
  refine ⟨old, name, unknown, listed, fun new suggested writable here => ?_⟩
  rw [listed] at suggested
  exact settles_renamed writable (resolves old _ new suggested) here old template

/-- A misspelt name is replaced by what is suggested, and another unknown name stays. -/
theorem suggestions_can_be_followed_misspelt :
    let s : Setting := .constant "name" [] .null
    let history : List Registry.Change := [.register (.constant "name" [] .null)]
    let template : Value := .array [.string "\x7b\x7b nmae \x7d\x7d", .string "\x7b\x7bx\x7d\x7d"]
    let after : Value := .array [.string "\x7b\x7bname\x7d\x7d", .string "\x7b\x7bx\x7d\x7d"]
    (∀ c ∈ history, c.Normal) ∧ s.registry = Registry.empty.after history ∧
      ∃ i, Said s template i ∧ i.generator = some "nmae" ∧ "name" ∈ i.suggestions ∧
        Writable "name" ∧ Settles s (fun _ => true) "nmae" template after := by
  intro s history template after
  have normal : ∀ c ∈ history, c.Normal := by
    simp only [history, List.mem_singleton, forall_eq, Registry.Change.Normal, Registry.IsNormal]
    decide +kernel
  let i : Issue := ⟨"[0]", some "nmae", "generator 'nmae' not found", ["name"], .generatorNotFound⟩
  have said : Said s template i := .check (by decide +kernel)
  have writable : Writable "name" := by decide +kernel
  have replaced : renamed (fun _ => true) "nmae" "name" template = after := by
    change Value.array [.string _, .string _] = _
    congr 2
    · exact congrArg Value.string (by decide +kernel)
    · exact congrArg (fun text => [Value.string text]) (by decide +kernel)
  obtain ⟨old, name, -, -, settles⟩ :=
    ((suggestions_can_be_followed s history normal rfl).2 template).2 i said
  cases name
  have settled := settles "name" List.mem_cons_self writable fun _ => true
  rw [replaced] at settled
  exact ⟨normal, rfl, i, said, rfl, List.mem_cons_self, writable, settled⟩

/-- With the only generator `new` it is suggested for `old`, but written in a placeholder it stands
for the name `found`, which is not found either. -/
def FollowedInVain (old new found : String) : Prop :=
  let s : Setting := .constant new [] .null
  let before := "\x7b\x7b" ++ old ++ "\x7d\x7d"
  let after := "\x7b\x7b" ++ new ++ "\x7d\x7d"
  Registry.normalName new = new.toList ∧
    (unknownNames (check s (.string before))).map Issue.suggestions = [[new]] ∧
    rewritten (Placeholder.renamed old new) before.toList = after.toList ∧
    (unknownNames (check s (.string after))).map Issue.generator = [some found] ∧
    ((walk s (.string after) 7 ⟨[], false⟩).1.map fun _ => ()) =
      .error (.generatorNotFound "template" found [new])

/-- Names that are suggested and cannot be written in a placeholder: with a colon, in brackets, with
closing and with opening braces. -/
theorem suggestion_unwritable_is_not_found :
    FollowedInVain "abc" "ab:c" "ab" ∧ FollowedInVain "ab" "[ab]" "ab" ∧
      FollowedInVain "ab" "a\x7d\x7db" "a" ∧ FollowedInVain "ab" "a\x7b\x7bb" "b" := by
  unfold FollowedInVain
  decide +kernel

end Template

end Fabricate
