import Fabricate.Proofs.Param.Declared
import Fabricate.Proofs.Template.Collection

/-!
# What an array's count leaves

Taking a field out moves the last one into its place. The fields before it keep their places, and
of those behind it the last one comes first (`take_eq`). So all others are there with their values,
and their order is the old one exactly when at most one of them stood behind (`lastFirst_eq_iff`).

The order of parameters shows: in the entry of the placeholder, and in the choice of the parameter
that is named when several are bad, since they are looked at in order (`firstOffence?_append`).
Where at most one parameter stands behind `count`, neither depends on the place of `count`, and nor
does anything that a walk makes of the placeholder (`expand_of_same`).
-/

namespace Fabricate

namespace Fields

variable {α : Type}

/-- The fields in front of the first one of that name. -/
def before (fs : Fields α) (name : String) : Fields α :=
  fs.takeWhile fun field => field.1 ≠ name

/-- The fields behind the first one of that name. -/
def behind (fs : Fields α) (name : String) : Fields α :=
  (fs.dropWhile fun field => field.1 ≠ name).tail

/-- The fields of other names, in order. -/
def without (fs : Fields α) (name : String) : Fields α :=
  fs.filter fun field => field.1 ≠ name

section

variable {name : String} (v : α) (rest : Fields α)

theorem before_cons_self : before ((name, v) :: rest) name = [] := by
  simp [before]

theorem behind_cons_self : behind ((name, v) :: rest) name = rest := by
  simp [behind]

variable {other : String} (h : other ≠ name)

include h

theorem before_cons_of_ne :
    before ((other, v) :: rest) name = (other, v) :: rest.before name := by
  simp [before, h]

theorem behind_cons_of_ne : behind ((other, v) :: rest) name = rest.behind name := by
  simp [behind, h]

theorem without_cons_of_ne :
    without ((other, v) :: rest) name = (other, v) :: rest.without name := by
  simp [without, h]

end

/-- The last of the fields behind moves in front of them, and those before stay. -/
theorem take_eq (fs : Fields α) (name : String) :
    fs.take name =
      (fs.get? name).map fun v => (v, fs.before name ++ (fs.behind name).lastFirst) := by
  induction fs with
  | nil => rfl
  | cons field rest ih =>
      obtain ⟨n, w⟩ := field
      by_cases h : n = name
      · subst h
        rw [take, get?, if_pos rfl, if_pos rfl, before_cons_self, behind_cons_self]
        rfl
      · rw [take, get?, if_neg h, if_neg h, ih, before_cons_of_ne w rest h,
          behind_cons_of_ne w rest h, Option.map_map]
        rfl

theorem before_of_get?_eq_none {fs : Fields α} {name : String} (h : fs.get? name = none) :
    fs.before name = fs ∧ fs.behind name = [] := by
  induction fs with
  | nil => exact ⟨rfl, rfl⟩
  | cons field rest ih =>
      obtain ⟨n, w⟩ := field
      rw [get?] at h
      split at h
      · cases h
      · next other =>
          obtain ⟨kept, none⟩ := ih h
          exact ⟨by rw [before_cons_of_ne w rest other, kept],
            by rw [behind_cons_of_ne w rest other, none]⟩

/-- Where names are not repeated, the others are those before and those behind. -/
theorem without_eq {fs : Fields α} (distinct : fs.names.Nodup) (name : String) :
    fs.without name = fs.before name ++ fs.behind name := by
  induction fs with
  | nil => rfl
  | cons field rest ih =>
      obtain ⟨n, w⟩ := field
      rw [names_cons, List.nodup_cons] at distinct
      by_cases h : n = name
      · subst h
        rw [before_cons_self, behind_cons_self, without, List.filter_cons_of_neg (by simp),
          filter_ne_of_notMem distinct.1, List.nil_append]
      · rw [without_cons_of_ne w rest h, before_cons_of_ne w rest h, behind_cons_of_ne w rest h,
          ih distinct.2, List.cons_append]

theorem nodup_names_behind {fs : Fields α} (distinct : fs.names.Nodup) (name : String) :
    (fs.behind name).names.Nodup :=
  distinct.sublist (((List.tail_sublist _).trans (List.dropWhile_sublist _)).map Prod.fst)

theorem lastFirst_concat (fs : Fields α) (field : String × α) :
    lastFirst (fs ++ [field]) = field :: fs := by
  rw [lastFirst, List.getLast?_concat, List.dropLast_concat]

/-- Putting the last field first changes nothing only where there is no other. -/
theorem lastFirst_eq_iff {fs : Fields α} (distinct : fs.names.Nodup) :
    fs.lastFirst = fs ↔ fs.length ≤ 1 := by
  rcases List.eq_nil_or_concat' fs with rfl | ⟨front, last, rfl⟩
  · simp [lastFirst]
  rw [lastFirst_concat]
  cases front with
  | nil => simp
  | cons first others =>
      -- Were nothing changed, the last field would be the first one, whose name is not repeated.
      have apart : first.1 ≠ last.1 := by
        intro same
        rw [List.cons_append, names, List.map_cons, List.nodup_cons] at distinct
        exact distinct.1 (same ▸ List.mem_map_of_mem (by simp))
      constructor
      · intro kept
        rw [List.cons_append] at kept
        exact absurd (congrArg Prod.fst (List.cons.inj kept).1).symm apart
      · intro short
        simp at short

end Fields

/-- Parameters are looked at in order. -/
theorem Params.firstOffence?_append (id : String) (specs : List ParamSpec) (front back : Params) :
    firstOffence? id specs (front ++ back) =
      (firstOffence? id specs front).or (firstOffence? id specs back) := by
  simp only [firstOffence?_eq_findSome?, List.findSome?_append]

namespace Template

open Json

/-- At most one parameter stands behind `count`. -/
def CountNearEnd (params : Params) : Prop :=
  (Fields.behind params countKey).length ≤ 1

instance (params : Params) : Decidable (CountNearEnd params) :=
  inferInstanceAs <| Decidable <| (Fields.behind params countKey).length ≤ 1

/-- What an accepted `count` leaves of the parameters: all others with their values; those before
it in their places, and behind them the last one in front of the rest; in the old order exactly when
there is no such rest. The first bad parameter is the first one in the new order. -/
structure LeftByCount (params forwarded : Params) : Prop where
  mem_iff : ∀ field, field ∈ forwarded ↔ field ∈ params ∧ field.1 ≠ countKey
  distinct : forwarded.names.Nodup
  order : forwarded =
    Fields.before params countKey ++ Fields.lastFirst (Fields.behind params countKey)
  kept_iff : forwarded = Fields.without params countKey ↔ CountNearEnd params
  offence : ∀ id specs, Params.firstOffence? id specs forwarded =
    (Params.firstOffence? id specs (Fields.before params countKey)).or
      (Params.firstOffence? id specs (Fields.lastFirst (Fields.behind params countKey)))

theorem takeCount_order {params forwarded : Params} {max n : Nat}
    (h : takeCount params max = (.ok n, forwarded)) :
    forwarded = Fields.before params countKey ++
      Fields.lastFirst (Fields.behind params countKey) := by
  rcases takeCount_eq_ok.1 h with ⟨missing, -, rfl⟩ | ⟨v, -, taken, -⟩
  · obtain ⟨kept, none⟩ := Fields.before_of_get?_eq_none (Fields.take_eq_none missing)
    rw [kept, none]
    exact (List.append_nil _).symm
  · have given := Fields.get?_of_take taken
    rw [Fields.take_eq, given] at taken
    exact (Prod.mk.inj (Option.some.inj taken)).2.symm

theorem leftByCount {params forwarded : Params} {max n : Nat} (distinct : params.names.Nodup)
    (h : takeCount params max = (.ok n, forwarded)) : LeftByCount params forwarded := by
  have order := takeCount_order h
  have others : forwarded.Perm (Fields.without params countKey) := by
    have left := perm_takeCount distinct max
    rwa [h] at left
  refine ⟨fun field => ?_, ?_, order, ?_, fun id specs => ?_⟩
  · rw [others.mem_iff, Fields.without, List.mem_filter, decide_eq_true_eq]
  · have names : (Fields.without params countKey).names.Nodup :=
      distinct.sublist (List.filter_sublist.map Prod.fst)
    exact (others.map Prod.fst).nodup_iff.2 names
  · rw [order, Fields.without_eq distinct, List.append_cancel_left_eq,
      Fields.lastFirst_eq_iff (Fields.nodup_names_behind distinct countKey), CountNearEnd]
  · rw [order, Params.firstOffence?_append]

/-- The placeholder is an array with these parameters, of which `count` is accepted and taken
out. -/
structure TakesCount (s : Setting) (p : Placeholder) (params : Params) (n : Nat)
    (forwarded : Params) : Prop where
  array : p.isArray = true
  read : Param.coerceAll p.params = .ok params
  taken : takeCount params s.options.maxArrayCount = (.ok n, forwarded)

section

variable {s : Setting} {path : FieldPath} {p q : Placeholder} {params params' forwarded : Params}
  {n : Nat} (h : TakesCount s p params n forwarded)

include h

theorem fieldOf_of_takesCount : fieldOf s path p = detected path p forwarded (some n) := by
  rw [fieldOf, h.read]
  dsimp only
  rw [if_pos h.array, h.taken]
  rfl

theorem unreadable?_of_takesCount : unreadable? path p = none := by
  rw [unreadable?, h.read]

theorem refusedCount?_of_takesCount : refusedCount? s path p = none := by
  rw [refusedCount?, counted?, h.read]
  dsimp only
  rw [if_pos h.array, h.taken]

theorem forwarded?_of_takesCount : forwarded? s p = some forwarded := by
  rw [forwarded?, h.read]
  dsimp only
  rw [if_pos h.array, h.taken]

/-! ### The same parameters with `count` elsewhere -/

variable (h' : TakesCount s q params' n forwarded) (name : q.name = p.name)

include h' name

theorem fieldOf_of_same : fieldOf s path q = fieldOf s path p := by
  have bracketed : p.bracketed = true := h.array
  have bracketed' : q.bracketed = true := h'.array
  have shape : q.shape = p.shape := by
    rw [Placeholder.shape, Placeholder.shape, bracketed, bracketed']
    rfl
  rw [fieldOf_of_takesCount h, fieldOf_of_takesCount h', detected, detected, name, shape]

theorem placeholderErrors_of_same : placeholderErrors s path q = placeholderErrors s path p := by
  have declared : undeclared? s path q = undeclared? s path p := by
    rw [undeclared?, undeclared?, forwarded?_of_takesCount h, forwarded?_of_takesCount h', name]
  have known : unknownName? s path q = unknownName? s path p := by
    rw [unknownName?, unknownName?, name]
  rw [placeholderErrors, placeholderErrors, known, declared, unreadable?_of_takesCount h,
    unreadable?_of_takesCount h', refusedCount?_of_takesCount h, refusedCount?_of_takesCount h']

/-- The walk makes the same of two arrays that forward the same. -/
theorem expand_of_same : expand s path q = expand s path p := by
  cases known : s.registry.resolve? p.name with
  | none =>
      have unprepared : ∀ r : Placeholder, r.name = p.name →
          prepare s path r = .error (notFound s path p.name) := by
        intro r same
        rw [prepare, same, known]
      funext t
      rw [expand_of_prepare_error (unprepared q name), expand_of_prepare_error (unprepared p rfl)]
  | some g =>
      have prepared : prepare s path p = .ok (g, params) := prepare_eq_ok.2 ⟨known, h.read⟩
      have prepared' : prepare s path q = .ok (g, params') :=
        prepare_eq_ok.2 ⟨name ▸ known, h'.read⟩
      funext t
      rw [expand_of_count_ok prepared h.taken, expand_of_count_ok prepared' h'.taken]

end

/-- An accepted `count` leaves all other parameters, and keeps their order exactly when at most one
of them stands behind it. So among those places it does not matter where `count` stands: the entry
of the array, the errors about it and what a walk makes of it are the same. -/
theorem count_leaves_others (s : Setting) (path : FieldPath) {p : Placeholder}
    {params forwarded : Params} {n : Nat} (h : TakesCount s p params n forwarded) :
    LeftByCount params forwarded ∧ (fieldOf s path p).params = forwarded ∧
      ∀ (q : Placeholder) (params' forwarded' : Params),
        TakesCount s q params' n forwarded' → q.name = p.name →
        Fields.without params' countKey = Fields.without params countKey →
        CountNearEnd params → CountNearEnd params' →
          fieldOf s path q = fieldOf s path p ∧
            placeholderErrors s path q = placeholderErrors s path p ∧
            expand s path q = expand s path p := by
  have left := leftByCount (Param.nodup_names_coerceAll h.read) h.taken
  refine ⟨left, by rw [fieldOf_of_takesCount h]; rfl, ?_⟩
  intro q params' forwarded' h' name same near near'
  have left' := leftByCount (Param.nodup_names_coerceAll h'.read) h'.taken
  have forwards : forwarded' = forwarded := by
    rw [left'.kept_iff.2 near', left.kept_iff.2 near, same]
  subst forwards
  exact ⟨fieldOf_of_same h h' name, placeholderErrors_of_same h h' name,
    expand_of_same h h' name⟩

/-- With `count` before the last parameter and behind it, the undeclared `a` is named first. -/
theorem count_leaves_others_near_end :
    let s : Setting := .constant "word" [] (.text "x")
    let p : Placeholder := ⟨true, "word".toList, some "a=1,count=2,b=2".toList⟩
    let q : Placeholder := ⟨true, "word".toList, some "a=1,b=2,count=2".toList⟩
    let left : Params := [("a", .ofInt64 1), ("b", .ofInt64 2)]
    TakesCount s p [("a", .ofInt64 1), ("count", .ofInt64 2), ("b", .ofInt64 2)] 2 left ∧
      TakesCount s q [("a", .ofInt64 1), ("b", .ofInt64 2), ("count", .ofInt64 2)] 2 left ∧
      (fieldOf s .root p).params = left ∧
      (placeholderErrors s .root p).map Issue.message = ["word: unknown parameter 'a'"] ∧
      fieldOf s .root q = fieldOf s .root p ∧
      placeholderErrors s .root q = placeholderErrors s .root p ∧
      expand s .root q = expand s .root p := by
  intro s p q left
  have h : TakesCount s p [("a", .ofInt64 1), ("count", .ofInt64 2), ("b", .ofInt64 2)] 2 left :=
    ⟨rfl, rfl, rfl⟩
  have h' : TakesCount s q [("a", .ofInt64 1), ("b", .ofInt64 2), ("count", .ofInt64 2)] 2 left :=
    ⟨rfl, rfl, rfl⟩
  obtain ⟨-, entry, alike⟩ := count_leaves_others s .root h
  have first : (placeholderErrors s .root p).map Issue.message =
      ["word: unknown parameter 'a'"] := by decide +kernel
  have others : Fields.without ([("a", .ofInt64 1), ("b", .ofInt64 2), ("count", .ofInt64 2)] :
      Params) countKey =
        Fields.without [("a", .ofInt64 1), ("count", .ofInt64 2), ("b", .ofInt64 2)] countKey := rfl
  have name : q.name = p.name := by decide
  have near : CountNearEnd [("a", .ofInt64 1), ("count", .ofInt64 2), ("b", .ofInt64 2)] := by
    decide
  have near' : CountNearEnd [("a", .ofInt64 1), ("b", .ofInt64 2), ("count", .ofInt64 2)] := by
    decide
  have same := alike q _ left h' name others near near'
  exact ⟨h, h', entry, first, same⟩

/-- With `count` in front of two undeclared parameters, the last one comes first and is named. -/
theorem count_in_front_moves_last :
    let s : Setting := .constant "word" [] (.text "x")
    let p : Placeholder := ⟨true, "word".toList, some "count=2,a=1,b=2".toList⟩
    TakesCount s p [("count", .ofInt64 2), ("a", .ofInt64 1), ("b", .ofInt64 2)] 2
        [("b", .ofInt64 2), ("a", .ofInt64 1)] ∧
      (fieldOf s .root p).params.names = ["b", "a"] ∧
      (placeholderErrors s .root p).map Issue.message = ["word: unknown parameter 'b'"] := by
  intro s p
  exact ⟨⟨rfl, rfl, rfl⟩, by decide +kernel, by decide +kernel⟩

end Template

end Fabricate
