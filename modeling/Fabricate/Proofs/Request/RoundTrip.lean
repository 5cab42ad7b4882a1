import Fabricate.Proofs.Json.Distinct
import Fabricate.Request

/-!
# Requests read back

A request is written as a JSON object with all of its fields, so its text is read as the request
itself and not as a template, whatever number of documents is the default. A template that does not
look like a request may be written bare: it is read as the request of that template alone.

Objects are maps: a template that was read names no field of an object twice
(`Json.namesDistinct_of_parse`).
-/

namespace Fabricate

open Json

theorem Json.Value.uint64?_ofUInt64 (n : UInt64) : (Value.ofUInt64 n).uint64? = some n := by
  have nonneg : (0 : Int) ≤ (Integer.ofUInt64 n).val := Int.natCast_nonneg _
  rw [ofUInt64, uint64?, if_pos nonneg]
  exact congrArg some (UInt64.ofNat_toNat (x := n))

theorem OutputFormat.ofName?_name (f : OutputFormat) : ofName? f.name = some f := by
  cases f <;> rfl

namespace Request

/-- An object with a template and with no fields but those of a request. -/
def RequestShaped (v : Value) : Prop :=
  ∃ fields, v = .object fields ∧ "template" ∈ Fields.names fields ∧
    ∀ name ∈ Fields.names fields, name ∈ ["template", "count", "locale", "seed", "format"]

/-- A template as the only field of a request. -/
def wrapped (template : Value) : Value :=
  .object [("template", template)]

/-- The fields that a request is written with. -/
def fields (r : Request) : Fields Value :=
  [("template", r.template), ("count", .ofUInt64 r.count), ("locale", optionalText r.locale),
    ("seed", optionalSeed r.seed), ("format", .string r.format.name)]

theorem toJson_eq (r : Request) : r.toJson = .object r.fields := rfl

theorem names_fields (r : Request) : Fields.names r.fields = keys := rfl

theorem field_of_get? {α : Type} {fields : Fields Value} {name : String} {read : Value → Option α}
    {default : α} {v : Value} {a : α} (h : fields.get? name = some v) (h' : read v = some a) :
    field fields name read default = .ok a := by
  rw [field, h]
  dsimp only
  rw [h']

theorem ofFields_fields (r : Request) : ofFields r.fields = .ok r := by
  have locale : nullable Value.string? (optionalText r.locale) = some r.locale := by
    cases r.locale <;> rfl
  have seed : nullable Value.uint64? (optionalSeed r.seed) = some r.seed := by
    cases r.seed with
    | none => rfl
    | some n =>
        have word : (Value.uint64? (.ofUInt64 n)).map some = some (some n) :=
          congrArg (Option.map some) (Value.uint64?_ofUInt64 n)
        exact word
  have format : format? (.string r.format.name) = some r.format := r.format.ofName?_name
  rw [ofFields, field_of_get? (v := r.template) (a := r.template) rfl rfl,
    field_of_get? (v := .ofUInt64 r.count) rfl (Value.uint64?_ofUInt64 r.count),
    field_of_get? (v := optionalText r.locale) rfl locale,
    field_of_get? (v := optionalSeed r.seed) rfl seed,
    field_of_get? (v := .string r.format.name) rfl format]
  rfl

theorem isRequest_iff (fields : Fields Value) :
    isRequest fields = true ↔ RequestShaped (.object fields) := by
  rw [isRequest, Bool.and_eq_true, Fields.has_iff, List.all_eq_true]
  constructor
  · rintro ⟨template, only⟩
    exact ⟨fields, rfl, template, fun name member => List.contains_iff_mem.1 (only name member)⟩
  · rintro ⟨others, same, template, only⟩
    cases same
    exact ⟨template, fun name member => List.contains_iff_mem.2 (only name member)⟩

theorem realFree_toJson {r : Request} (free : r.template.RealFree) : r.toJson.RealFree := by
  have locale : (optionalText r.locale).RealFree := by cases r.locale <;> trivial
  have seed : (optionalSeed r.seed).RealFree := by cases r.seed <;> trivial
  exact ⟨free, trivial, locale, seed, trivial, trivial⟩

theorem namesDistinct_toJson {r : Request} (distinct : r.template.NamesDistinct) :
    r.toJson.NamesDistinct := by
  have locale : (optionalText r.locale).NamesDistinct := by cases r.locale <;> trivial
  have seed : (optionalSeed r.seed).NamesDistinct := by cases r.seed <;> trivial
  have once : (Fields.names r.fields).Nodup := by
    rw [names_fields]
    decide
  exact ⟨once, distinct, trivial, locale, seed, trivial, trivial⟩

/-- A request is read from its text as itself, whatever the default. -/
theorem read_render_toJson {r : Request} (free : r.template.RealFree)
    (distinct : r.template.NamesDistinct) (shallow : r.toJson.depth < 128) (count : UInt64) :
    read r.toJson.render count = .ok r := by
  have deep : r.toJson.depth ≤ maxOpen := Nat.le_of_lt_succ shallow
  have parsed := parse_render (realFree_toJson free) (namesDistinct_toJson distinct) deep
  have shaped : isRequest r.fields = true := by
    refine (isRequest_iff r.fields).2 ⟨r.fields, rfl, ?_, fun name member => ?_⟩
    · rw [names_fields]
      exact List.mem_cons_self
    · rwa [names_fields] at member
  rw [read, parsed, toJson_eq]
  dsimp only
  rw [ofJson, if_pos shaped, ofFields_fields]
  rfl

/-- A template that is not shaped like a request is read from its text. -/
theorem read_render_template {t : Value}
    (container : (∃ fields, t = .object fields) ∨ ∃ items, t = .array items) (free : t.RealFree)
    (distinct : t.NamesDistinct) (shallow : t.depth < 128) (other : ¬RequestShaped t) (count : UInt64) :
    read t.render count = .ok (ofTemplate t count) := by
  have parsed := parse_render free distinct (Nat.le_of_lt_succ shallow)
  rw [read, parsed]
  rcases container with ⟨fields, rfl⟩ | ⟨items, rfl⟩
  · have unshaped : isRequest fields = false := by
      rw [← isRequest_iff] at other
      exact Bool.eq_false_iff.2 other
    dsimp only
    rw [ofJson, unshaped]
    rfl
  · rfl

theorem read_render_wrapped {t : Value} (free : t.RealFree) (distinct : t.NamesDistinct)
    (shallow : (wrapped t).depth < 128) (count : UInt64) :
    read (wrapped t).render count = .ok (ofTemplate t 1) := by
  have once : (wrapped t).NamesDistinct := ⟨List.pairwise_singleton _ _, distinct, trivial⟩
  have parsed := parse_render (v := wrapped t) ⟨free, trivial⟩ once (Nat.le_of_lt_succ shallow)
  have shaped : isRequest [("template", t)] = true := by
    refine (isRequest_iff _).2 ⟨_, rfl, List.mem_cons_self, fun name member => ?_⟩
    rw [List.mem_singleton.1 member]
    exact List.mem_cons_self
  rw [read, parsed, wrapped]
  dsimp only
  rw [ofJson, if_pos shaped]
  rfl

/-- A request is read from its text as itself, whatever the default. The bare text of a template
that is not shaped like a request is read, with the default one, like the text of a request with
this template alone. -/
theorem requests_read_back :
    (∀ r : Request, r.template.RealFree → r.template.NamesDistinct → r.toJson.depth < 128 →
        ∀ count, read r.toJson.render count = .ok r) ∧
      ∀ t : Value, ((∃ fields, t = .object fields) ∨ ∃ items, t = .array items) →
        t.RealFree → t.NamesDistinct → (wrapped t).depth < 128 → ¬RequestShaped t →
          ∀ count, read t.render 1 = .ok (ofTemplate t 1) ∧
            read t.render 1 = read (wrapped t).render count := by
  refine ⟨fun r free distinct shallow count => read_render_toJson free distinct shallow count, ?_⟩
  intro t container free distinct shallow other count
  have inner : t.depth < 128 := by
    rw [wrapped, Value.depth, Value.fieldDepths] at shallow
    omega
  have bare := read_render_template container free distinct inner other 1
  exact ⟨bare, bare.trans (read_render_wrapped free distinct shallow count).symm⟩

/-- A request with characters that are escaped and with the greatest words, and a template that
only looks like a request. -/
theorem requests_read_back_extremes :
    let t : Value := .object
      [("template", .string "\x7b\x7bword\x7d\x7d"),
        ("other\"\\\n\u0001é", .array [.ofInt64 (-9223372036854775808), .array [], .null])]
    let r : Request := ⟨t, 18446744073709551615, some "", some 18446744073709551615, .csv⟩
    r.template.RealFree ∧ r.template.NamesDistinct ∧ r.toJson.depth < 128 ∧
      read r.toJson.render 7 = .ok r ∧
      ((∃ fields, t = .object fields) ∨ ∃ items, t = .array items) ∧ (wrapped t).depth < 128 ∧
      ¬RequestShaped t ∧
      read t.render 1 = .ok (ofTemplate t 1) ∧ read t.render 1 = read (wrapped t).render 7 := by
  intro t r
  have free : t.RealFree := ⟨trivial, ⟨trivial, trivial, trivial, trivial⟩, trivial⟩
  have distinct : t.NamesDistinct :=
    ⟨by decide, trivial, ⟨trivial, trivial, trivial, trivial⟩, trivial⟩
  have other : ¬RequestShaped t := by
    rintro ⟨fields, same, -, only⟩
    rw [← Value.object.inj same] at only
    exact absurd (only _ (List.mem_cons_of_mem _ List.mem_cons_self)) (by decide)
  have container : (∃ fields, t = .object fields) ∨ ∃ items, t = .array items := .inl ⟨_, rfl⟩
  have shallow : r.toJson.depth < 128 := by decide
  have shallow' : (wrapped t).depth < 128 := by decide
  exact ⟨free, distinct, shallow, requests_read_back.1 r free distinct shallow 7, container,
    shallow', other, requests_read_back.2 t container free distinct shallow' other 7⟩

end Request

end Fabricate
