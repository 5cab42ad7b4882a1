import Mathlib.Data.List.Nodup
import Fabricate.Generator.Number

/-!
# Declared parameters are read

Every kind of parameter has a getter, which reads some values and not others (`ParamKind.Reads`). A
value has the kind exactly when the getter reads it (`ParamKind.admits_iff`), so where parameters
are not refused, the getter of a declared key finds the value that was supplied. A default stands
for an absent key and for nothing else.

Parameters are refused when one of them is not declared or cannot be read as its kind, or when a
required one is missing (`Params.Meets`), and the first offence in order is the one that is named
(`Params.Offends`).
-/

namespace Fabricate

open Json

namespace ParamKind

/-- What the getter of a kind gives. -/
def Answer : ParamKind → Type
  | .bool => Bool
  | .int => Int64
  | .float => Float
  | .string => String

/-- What a value is read as by the getter of a kind. -/
inductive Reads : (kind : ParamKind) → Value → kind.Answer → Prop
  | truth (b : Bool) : Reads .bool (.bool b) b
  | word (n : Int64) : Reads .int (.ofInt64 n) n
  | real (n : Number) : Reads .float (.number n) n.toFloat
  | text (s : String) : Reads .string (.string s) s
  | numeral (n : Number) : Reads .string (.number n) (String.ofList n.text)
  | spelled (b : Bool) : Reads .string (.bool b) (if b then "true" else "false")

/-- The getter of a kind, on the value of a parameter. -/
def value? : (kind : ParamKind) → Value → Option kind.Answer
  | .bool => Value.bool?
  | .int => Value.int64?
  | .float => Value.float?
  | .string => Params.scalarText?

/-- The getter of a kind. -/
def get? (params : Params) (key : String) : (kind : ParamKind) → Option kind.Answer
  | .bool => params.bool? key
  | .int => params.int? key
  | .float => params.float? key
  | .string => params.text? key

theorem get?_eq (params : Params) (key : String) (kind : ParamKind) :
    get? params key kind = (params.get? key).bind kind.value? := by
  cases kind <;> rfl

theorem int64?_eq_some_iff {v : Value} {n : Int64} : v.int64? = some n ↔ v = .ofInt64 n := by
  constructor
  · intro read
    cases v with
    | number m =>
        cases m with
        | integer m =>
            obtain ⟨val, least, bound⟩ := m
            obtain rfl : n.toInt = val := Word.toInt_of_signed? read
            rfl
        | real x => cases read
    | _ => cases read
  · rintro rfl
    exact Word.signed?_toInt n

theorem value?_eq_some_iff {kind : ParamKind} {v : Value} {a : kind.Answer} :
    kind.value? v = some a ↔ kind.Reads v a := by
  constructor
  · intro read
    cases kind with
    | bool =>
        cases v <;> cases read
        exact .truth _
    | int =>
        obtain rfl := int64?_eq_some_iff.1 read
        exact .word a
    | float =>
        cases v <;> cases read
        exact .real _
    | string =>
        cases v <;> cases read
        · exact .spelled _
        · exact .numeral _
        · exact .text _
  · rintro (b | n | n | s | n | b)
    case word => exact Word.signed?_toInt n
    all_goals rfl

/-- A value has a kind exactly when the getter reads it. -/
theorem admits_iff {kind : ParamKind} {v : Value} :
    kind.admits v = true ↔ ∃ a, kind.Reads v a := by
  have found : kind.admits v = (kind.value? v).isSome := by
    cases kind <;> cases v <;> rfl
  rw [found, Option.isSome_iff_exists]
  exact exists_congr fun a => value?_eq_some_iff

end ParamKind

theorem Fields.mem_of_get? {α : Type} {fs : Fields α} {name : String} {v : α}
    (h : fs.get? name = some v) : (name, v) ∈ fs := by
  induction fs with
  | nil => cases h
  | cons field rest ih =>
      rw [get?] at h
      split at h
      · next same =>
          cases h
          exact same ▸ List.mem_cons_self
      · exact List.mem_cons_of_mem _ (ih h)

namespace Params

/-- The parameter is declared, and the getter of its kind reads it. -/
def IsDeclared (specs : List ParamSpec) (field : String × Value) : Prop :=
  ∃ spec ∈ specs, spec.key = field.1 ∧ ∃ a, spec.kind.Reads field.2 a

/-- The parameters are declared and can be read, and none of the required ones is missing. -/
structure Meets (params : Params) (specs : List ParamSpec) : Prop where
  declared : ∀ field ∈ params, IsDeclared specs field
  complete : ∀ spec ∈ specs, spec.required = true → spec.key ∈ params.names

/-- The first offence: of the parameters in their order, or, where all of them are fine, of the
required ones in the order in which they are declared. -/
inductive Offends (params : Params) (specs : List ParamSpec) (generator : String) :
    ParamError → Prop
  | unknown {before after : Params} {key : String} {v : Value}
      (place : params = before ++ (key, v) :: after)
      (earlier : ∀ field ∈ before, IsDeclared specs field) (free : ∀ spec ∈ specs, spec.key ≠ key) :
      Offends params specs generator (.unknownKey generator key)
  | mistyped {before after : Params} {spec : ParamSpec} {v : Value}
      (place : params = before ++ (spec.key, v) :: after)
      (earlier : ∀ field ∈ before, IsDeclared specs field) (declared : spec ∈ specs)
      (unread : ∀ a, ¬ spec.kind.Reads v a) :
      Offends params specs generator (.invalidValue generator spec.key)
  | missing {before after : List ParamSpec} {spec : ParamSpec}
      (declared : ∀ field ∈ params, IsDeclared specs field)
      (place : specs = before ++ spec :: after)
      (earlier : ∀ other ∈ before, other.required = true → other.key ∈ params.names)
      (required : spec.required = true) (absent : spec.key ∉ params.names) :
      Offends params specs generator (.missingRequired generator spec.key)

/-- A supplied value is what the getter of the declared key reads, whatever default stands by. -/
structure ReadsSupplied (params : Params) (spec : ParamSpec) : Prop where
  isSome_iff : (spec.kind.get? params spec.key).isSome = true ↔ spec.key ∈ params.names
  getD_eq : ∀ v, params.get? spec.key = some v → ∃ a, spec.kind.Reads v a ∧
    ∀ default, (spec.kind.get? params spec.key).getD default = a
  bounded_eq : spec.kind = .int → ∀ v, params.get? spec.key = some v → ∃ n, v = .ofInt64 n ∧
    ∀ default min max, Generator.bounded params spec.key default min max =
      Generator.bounded [] spec.key n.toInt min max

/-! ### Offences -/

/-- What is wrong with one parameter. -/
def offence? (specs : List ParamSpec) (generator : String) (field : String × Value) :
    Option ParamError :=
  match specs.find? (·.key = field.1) with
  | none => some (.unknownKey generator field.1)
  | some spec =>
      if spec.kind.admits field.2 then none else some (.invalidValue generator field.1)

theorem firstOffence?_eq_findSome? (specs : List ParamSpec) (generator : String)
    (params : Params) :
    firstOffence? generator specs params = params.findSome? (offence? specs generator) := by
  induction params with
  | nil => rfl
  | cons field rest ih =>
      obtain ⟨key, v⟩ := field
      rw [firstOffence?, List.findSome?_cons, offence?, ih]
      dsimp only
      cases specs.find? (·.key = key) with
      | none => rfl
      | some spec =>
          dsimp only
          by_cases kind : spec.kind.admits v = true
          · rw [if_pos kind, if_pos kind]
          · rw [if_neg kind, if_neg kind]

variable {specs : List ParamSpec} {generator : String} {params : Params}

theorem firstMissing?_eq_none_iff :
    firstMissing? generator params specs = none ↔
      ∀ spec ∈ specs, spec.required = true → spec.key ∈ params.names := by
  rw [firstMissing?, Option.map_eq_none_iff, List.find?_eq_none]
  refine forall₂_congr fun spec _ => ?_
  rw [← Fields.has_iff]
  cases spec.required <;> simp

theorem firstMissing?_eq_some_iff {e : ParamError} :
    firstMissing? generator params specs = some e ↔
      ∃ before spec after, specs = before ++ spec :: after ∧
        (∀ other ∈ before, other.required = true → other.key ∈ params.names) ∧
        spec.required = true ∧ spec.key ∉ params.names ∧
        .missingRequired generator spec.key = e := by
  have absent : ∀ spec : ParamSpec, (spec.required && !params.has spec.key) = true ↔
      spec.required = true ∧ spec.key ∉ params.names := by
    intro spec
    rw [Bool.and_eq_true, Bool.not_eq_true', ← Bool.not_eq_true, Fields.has_iff]
  have present : ∀ spec : ParamSpec, (!(spec.required && !params.has spec.key)) = true ↔
      (spec.required = true → spec.key ∈ params.names) := by
    intro spec
    rw [Bool.not_eq_true', ← Bool.not_eq_true, absent, not_and, not_not]
  simp only [firstMissing?, Option.map_eq_some_iff, List.find?_eq_some_iff_append, absent, present]
  constructor
  · rintro ⟨spec, ⟨⟨required, missing⟩, before, after, place, earlier⟩, named⟩
    exact ⟨before, spec, after, place, earlier, required, missing, named⟩
  · rintro ⟨before, spec, after, place, earlier, required, missing, named⟩
    exact ⟨spec, ⟨⟨required, missing⟩, before, after, place, earlier⟩, named⟩

section

variable (distinct : (specs.map ParamSpec.key).Nodup)

include distinct

/-- A declaration is found under its key. -/
theorem find?_key {spec : ParamSpec} (h : spec ∈ specs) :
    specs.find? (·.key = spec.key) = some spec := by
  cases found : specs.find? (·.key = spec.key) with
  | none =>
      have other := List.find?_eq_none.1 found spec h
      simp at other
  | some other =>
      have same : other.key = spec.key := by simpa using List.find?_some found
      rw [List.inj_on_of_nodup_map distinct (List.mem_of_find?_eq_some found) h same]

theorem offence?_eq_none_iff {field : String × Value} :
    offence? specs generator field = none ↔ IsDeclared specs field := by
  constructor
  · intro fine
    rw [offence?] at fine
    split at fine
    · cases fine
    · next spec found =>
      split at fine
      · next kind =>
        exact ⟨spec, List.mem_of_find?_eq_some found, by simpa using List.find?_some found,
          ParamKind.admits_iff.1 kind⟩
      · cases fine
  · rintro ⟨spec, declared, same, read⟩
    rw [offence?, ← same, find?_key distinct declared]
    dsimp only
    rw [if_pos (ParamKind.admits_iff.2 read)]

/-- The offence of a parameter that is not declared, or that its getter does not read. -/
theorem offence?_eq_some_iff {key : String} {v : Value} {e : ParamError} :
    offence? specs generator (key, v) = some e ↔
      (∀ spec ∈ specs, spec.key ≠ key) ∧ e = .unknownKey generator key ∨
        ∃ spec ∈ specs, spec.key = key ∧ (∀ a, ¬ spec.kind.Reads v a) ∧
          e = .invalidValue generator key := by
  rw [offence?]
  constructor
  · intro bad
    split at bad
    · next free =>
      cases bad
      refine .inl ⟨fun spec declared same => ?_, rfl⟩
      simpa [same] using List.find?_eq_none.1 free spec declared
    · next spec found =>
      split at bad
      · cases bad
      · next other =>
        cases bad
        refine .inr ⟨spec, List.mem_of_find?_eq_some found, by simpa using List.find?_some found,
          fun a read => ?_, rfl⟩
        exact other (ParamKind.admits_iff.2 ⟨a, read⟩)
  · rintro (⟨free, rfl⟩ | ⟨spec, declared, rfl, unread, rfl⟩)
    · have none : specs.find? (·.key = key) = none := by
        rw [List.find?_eq_none]
        exact fun spec declared => by simpa using free spec declared
      rw [none]
    · have other : ¬ spec.kind.admits v = true := fun kind =>
        (ParamKind.admits_iff.1 kind).elim unread
      rw [find?_key distinct declared]
      dsimp only
      rw [if_neg other]

theorem firstOffence?_eq_none_iff :
    firstOffence? generator specs params = none ↔ ∀ field ∈ params, IsDeclared specs field := by
  rw [firstOffence?_eq_findSome?, List.findSome?_eq_none_iff]
  exact forall₂_congr fun field _ => offence?_eq_none_iff distinct

theorem refusal?_eq_none_iff : params.refusal? specs generator = none ↔ params.Meets specs := by
  rw [refusal?, Option.or_eq_none_iff, firstOffence?_eq_none_iff distinct,
    firstMissing?_eq_none_iff]
  exact ⟨fun h => ⟨h.1, h.2⟩, fun h => ⟨h.declared, h.complete⟩⟩

theorem refusal?_eq_some_iff {e : ParamError} :
    params.refusal? specs generator = some e ↔ params.Offends specs generator e := by
  have fine : ∀ fields : Params, (∀ field ∈ fields, offence? specs generator field = none) ↔
      ∀ field ∈ fields, IsDeclared specs field := fun fields =>
    forall₂_congr fun field _ => offence?_eq_none_iff distinct
  rw [refusal?, Option.or_eq_some_iff, firstOffence?_eq_none_iff distinct,
    firstMissing?_eq_some_iff, firstOffence?_eq_findSome?, List.findSome?_eq_some_iff]
  constructor
  · rintro (⟨before, ⟨key, v⟩, after, place, bad, earlier⟩ |
      ⟨declared, before, spec, after, place, earlier, required, absent, rfl⟩)
    · rw [fine] at earlier
      rcases (offence?_eq_some_iff distinct).1 bad with
        ⟨free, rfl⟩ | ⟨spec, declared, rfl, unread, rfl⟩
      · exact .unknown place earlier free
      · exact .mistyped place earlier declared unread
    · exact .missing declared place earlier required absent
  · intro offends
    cases offends with
    | unknown place earlier free =>
        exact .inl ⟨_, _, _, place, (offence?_eq_some_iff distinct).2 (.inl ⟨free, rfl⟩),
          (fine _).2 earlier⟩
    | mistyped place earlier declared unread =>
        exact .inl ⟨_, _, _, place,
          (offence?_eq_some_iff distinct).2 (.inr ⟨_, declared, rfl, unread, rfl⟩),
          (fine _).2 earlier⟩
    | missing declared place earlier required absent =>
        exact .inr ⟨declared, _, _, _, place, earlier, required, absent, rfl⟩

theorem Meets.readsSupplied (h : params.Meets specs) {spec : ParamSpec} (declared : spec ∈ specs) :
    params.ReadsSupplied spec := by
  -- A supplied value is read by some declaration of its key, and there is only one.
  have read : ∀ v, params.get? spec.key = some v → ∃ a, spec.kind.Reads v a := by
    intro v given
    obtain ⟨other, there, same, read⟩ := h.declared _ (Fields.mem_of_get? given)
    rwa [List.inj_on_of_nodup_map distinct there declared same] at read
  have found : ∀ v a, params.get? spec.key = some v → spec.kind.Reads v a →
      spec.kind.get? params spec.key = some a := by
    intro v a given read
    rw [ParamKind.get?_eq, given]
    exact ParamKind.value?_eq_some_iff.2 read
  refine ⟨?_, fun v given => ?_, fun int v given => ?_⟩
  · rw [← Fields.has_iff, Fields.has]
    cases given : Fields.get? params spec.key with
    | none =>
        rw [ParamKind.get?_eq, given]
        rfl
    | some v =>
        obtain ⟨a, read⟩ := read v given
        rw [found v a given read]
        exact iff_of_true rfl rfl
  · obtain ⟨a, read⟩ := read v given
    refine ⟨a, read, fun default => ?_⟩
    rw [found v a given read, Option.getD_some]
  · have read := read v given
    rw [int] at read
    obtain ⟨n, word⟩ := read
    cases word
    have found : params.int? spec.key = some n := by
      rw [int?, given]
      exact Word.signed?_toInt n
    refine ⟨n, rfl, fun default min max => ?_⟩
    rw [Generator.bounded, found]
    rfl

end

/-- What is not refused is declared, complete and read as it was supplied, and what is refused is
refused for its first offence. So a default never takes the place of a supplied parameter. -/
theorem supplied_parameters_are_read {specs : List ParamSpec}
    (distinct : (specs.map ParamSpec.key).Nodup) (params : Params) (generator : String) :
    (params.refusal? specs generator = none ↔ params.Meets specs) ∧
      (∀ e, params.refusal? specs generator = some e ↔ params.Offends specs generator e) ∧
      (params.refusal? specs generator = none → ∀ spec ∈ specs, params.ReadsSupplied spec) := by
  refine ⟨refusal?_eq_none_iff distinct, fun e => refusal?_eq_some_iff distinct, ?_⟩
  intro accepted spec declared
  exact ((refusal?_eq_none_iff distinct).1 accepted).readsSupplied distinct declared

/-- A real that is given as an integer, a text that is given as a truth value, and a key that is
left out. -/
theorem supplied_parameters_are_read_converted :
    let specs : List ParamSpec :=
      [⟨"size", .int, true⟩, ⟨"ratio", .float, false⟩, ⟨"label", .string, false⟩,
        ⟨"flag", .bool, false⟩]
    let params : Params :=
      [("label", .bool true), ("ratio", .ofInt64 3), ("size", .ofInt64 (-7))]
    (specs.map ParamSpec.key).Nodup ∧ params.refusal? specs "g" = none ∧ params.Meets specs ∧
      ∀ spec ∈ specs, params.ReadsSupplied spec := by
  intro specs params
  have distinct : (specs.map ParamSpec.key).Nodup := by decide
  have accepted : params.refusal? specs "g" = none := by rfl
  obtain ⟨meets, -, reads⟩ := supplied_parameters_are_read distinct params "g"
  exact ⟨distinct, accepted, meets.1 accepted, reads accepted⟩

end Params

end Fabricate
