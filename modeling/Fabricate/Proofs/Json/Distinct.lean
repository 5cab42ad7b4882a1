import Fabricate.Proofs.Json.Parser

/-!
# Names in what was read

Reading a text never gives an object that names a field twice: the machine puts every field into the
object it belongs to, and a field that is put again keeps its place and takes the later value. So
`NamesDistinct` is no demand on values that come from a text.
-/

namespace Fabricate.Json

theorem Value.fieldNamesDistinct_iff {fields : List (String × Value)} :
    Value.FieldNamesDistinct fields ↔ ∀ field ∈ fields, field.2.NamesDistinct := by
  induction fields with
  | nil => simp [FieldNamesDistinct]
  | cons field rest ih => simp [FieldNamesDistinct, ih]

theorem Value.itemNamesDistinct_iff {items : List Value} :
    Value.ItemNamesDistinct items ↔ ∀ v ∈ items, v.NamesDistinct := by
  induction items with
  | nil => simp [ItemNamesDistinct]
  | cons v rest ih => simp [ItemNamesDistinct, ih]

theorem Value.namesDistinct_put {fields : Fields Value} {v : Value}
    (h : (Value.object fields).NamesDistinct) (name : String) (inner : v.NamesDistinct) :
    (Value.object (fields.put name v)).NamesDistinct := by
  refine ⟨Fields.nodup_names_put h.1 name v, fieldNamesDistinct_iff.2 fun field member => ?_⟩
  rcases Fields.mem_of_mem_put member with old | same
  · exact fieldNamesDistinct_iff.1 h.2 field old
  · rwa [same]

theorem Value.namesDistinct_reverse {v : Value} {items : List Value} (first : v.NamesDistinct)
    (h : (Value.array items).NamesDistinct) :
    (Value.array (v :: items).reverse).NamesDistinct := by
  refine itemNamesDistinct_iff.2 fun w member => ?_
  rcases List.mem_cons.1 (List.mem_reverse.1 member) with rfl | earlier
  · exact first
  · exact itemNamesDistinct_iff.1 h w earlier

/-- What is said of the values that an open container holds so far. -/
def Frame.NamesDistinct : Frame → Prop
  | .array items => (Value.array items).NamesDistinct
  | .object fields _ => (Value.object fields).NamesDistinct

/-- What is said of the values that the machine holds so far. -/
def Reading.NamesDistinct : Reading → Prop
  | .value frames => ∀ f ∈ frames, f.NamesDistinct
  | .item frames => ∀ f ∈ frames, f.NamesDistinct
  | .name fields _ frames => (Value.object fields).NamesDistinct ∧ ∀ f ∈ frames, f.NamesDistinct
  | .colon fields _ frames => (Value.object fields).NamesDistinct ∧ ∀ f ∈ frames, f.NamesDistinct
  | .next v frames => v.NamesDistinct ∧ ∀ f ∈ frames, f.NamesDistinct

theorem eq_of_opened {count : Nat} {r r' : Reading} (h : opened count r = .ok r') : r' = r := by
  rw [opened] at h
  split at h
  · cases h
    rfl
  · cases h

theorem namesDistinct_of_startValue {frames : List Frame} {t : Token} {r : Reading}
    (h : startValue frames t = .ok r) (held : ∀ f ∈ frames, f.NamesDistinct)
    (scalar : ∀ v, t = .scalar v → v.NamesDistinct) : r.NamesDistinct := by
  unfold startValue at h
  split at h
  · exact eq_of_opened h ▸ held
  · exact eq_of_opened h ▸ ⟨⟨.nil, trivial⟩, held⟩
  · cases h
    exact ⟨trivial, held⟩
  · cases h
    exact ⟨scalar _ rfl, held⟩
  · cases h
  · cases h

theorem namesDistinct_of_step_name {fields : Fields Value} {mayEnd : Bool} {frames : List Frame}
    {t : Token} {r : Reading} (h : (Reading.name fields mayEnd frames).step t = .ok r)
    (held : (Reading.name fields mayEnd frames).NamesDistinct) : r.NamesDistinct := by
  cases t with
  | string s =>
      cases mayEnd <;> cases h <;> exact held
  | closeObject =>
      cases mayEnd with
      | true =>
          cases h
          exact held
      | false => cases h
  | bad quoted fault => cases mayEnd <;> cases quoted <;> cases h
  | _ => cases mayEnd <;> cases h

/-- A value that is complete goes into the innermost container. -/
theorem namesDistinct_of_step_next {v : Value} {frames : List Frame} {t : Token} {r : Reading}
    (h : (Reading.next v frames).step t = .ok r) (held : (Reading.next v frames).NamesDistinct) :
    r.NamesDistinct := by
  cases frames with
  | nil => cases t <;> cases h
  | cons frame frames =>
      obtain ⟨inner, container, others⟩ := And.imp_right List.forall_mem_cons.1 held
      cases frame with
      | array items =>
          cases t with
          | comma =>
              cases h
              exact List.forall_mem_cons.2 ⟨⟨inner, container⟩, others⟩
          | closeArray =>
              cases h
              exact ⟨Value.namesDistinct_reverse inner container, others⟩
          | _ => cases h
      | object fields name =>
          have put := Value.namesDistinct_put container name inner
          cases t with
          | comma =>
              cases h
              exact ⟨put, others⟩
          | closeObject =>
              cases h
              exact ⟨put, others⟩
          | _ => cases h

/-- A step keeps the names of every object apart. -/
theorem namesDistinct_of_step {r r' : Reading} {t : Token} (h : r.step t = .ok r')
    (held : r.NamesDistinct) (scalar : ∀ v, t = .scalar v → v.NamesDistinct) :
    r'.NamesDistinct := by
  cases r with
  | value frames => exact namesDistinct_of_startValue h held scalar
  | item frames =>
      have inside : ∀ f ∈ Frame.array [] :: frames, f.NamesDistinct :=
        List.forall_mem_cons.2 ⟨trivial, held⟩
      by_cases closes : t = .closeArray
      · subst closes
        cases h
        exact ⟨trivial, held⟩
      · rw [step_item closes] at h
        exact namesDistinct_of_startValue h inside scalar
  | name fields mayEnd frames => exact namesDistinct_of_step_name h held
  | colon fields name frames =>
      cases t with
      | colon =>
          cases h
          exact List.forall_mem_cons.2 held
      | _ => cases h
  | next v frames => exact namesDistinct_of_step_next h held

theorem namesDistinct_of_run {r : Reading} {ts : List Token} {v : Value} (h : r.run ts = .ok v)
    (held : r.NamesDistinct) (scalars : ∀ w, .scalar w ∈ ts → w.NamesDistinct) :
    v.NamesDistinct := by
  fun_induction Reading.run r ts with
  | case1 w =>
      cases h
      exact held.1
  | case2 => cases h
  | case3 r t ts r' next ih =>
      refine ih h ?_ fun w later => scalars w (List.mem_cons_of_mem _ later)
      exact namesDistinct_of_step next held fun w same => scalars w (same ▸ List.mem_cons_self)
  | case4 => cases h

theorem namesDistinct_of_constant {name : List Char} {atEnd : Bool} {v : Value}
    (h : constant name atEnd = .ok v) : v.NamesDistinct := by
  unfold constant at h
  split at h
  · cases h
    trivial
  · split at h
    · cases h
      trivial
    · split at h
      · cases h
        trivial
      · split at h <;> cases h

theorem namesDistinct_of_numeral {form : List Char} {atEnd : Bool} {v : Value}
    (h : numeral form atEnd = .ok v) : v.NamesDistinct := by
  unfold numeral at h
  split at h
  · cases h
    trivial
  · cases h
  · cases h

theorem mark?_ne_scalar {c : Char} {t : Token} (h : mark? c = some t) (v : Value) :
    t ≠ .scalar v := by
  rintro rfl
  unfold mark? at h
  repeat
    split at h
    · cases h
  cases h

theorem namesDistinct_of_scalar {cs : List Char} {v : Value} (h : .scalar v ∈ tokens cs) :
    v.NamesDistinct := by
  fun_induction tokens cs with
  | case1 => cases h
  | case2 c r space ih => exact ih h
  | case3 c r other t mark ih =>
      rcases List.mem_cons.1 h with same | later
      · exact absurd same.symm (mark?_ne_scalar mark v)
      · exact ih later
  | case4 => cases List.mem_singleton.1 h
  | case5 r space mark s n body ih =>
      rcases List.mem_cons.1 h with same | later
      · cases same
      · exact ih later
  | case6 => cases List.mem_singleton.1 h
  | case7 c r space mark quote alpha rest w read ih =>
      rcases List.mem_cons.1 h with same | later
      · cases same
        exact namesDistinct_of_constant read
      · exact ih later
  | case8 => cases List.mem_singleton.1 h
  | case9 c r space mark quote alpha start rest w read ih =>
      rcases List.mem_cons.1 h with same | later
      · cases same
        exact namesDistinct_of_numeral read
      · exact ih later
  | case10 => cases List.mem_singleton.1 h

/-- A value that was read names each field of an object once. -/
theorem namesDistinct_of_parse {text : String} {v : Value} (h : parse text = .ok v) :
    v.NamesDistinct :=
  namesDistinct_of_run h nofun fun _ member => namesDistinct_of_scalar member

end Fabricate.Json
