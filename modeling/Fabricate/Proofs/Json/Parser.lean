import Fabricate.Json.Parser
import Fabricate.Proofs.Json.Token

/-!
# Values read back

The machine that reads tokens takes the tokens of a value to the value, whatever containers are open
around it and whatever tokens follow (`run_tokens`). What is asked of the value is that its
containers and those open around it are not too many together, and that no object names a field
twice: of two fields of one name the machine keeps the last.

With the tokens of a value's text this gives the round trip: the text of a value without reals is
read as the value (`parse_render`).
-/

namespace Fabricate.Json

mutual

/-- Every object of the value names each of its fields once. -/
def Value.NamesDistinct : Value → Prop
  | .array items => Value.ItemNamesDistinct items
  | .object fields => (Fields.names fields).Nodup ∧ Value.FieldNamesDistinct fields
  | _ => True

/-- Every object of the items names each of its fields once. -/
def Value.ItemNamesDistinct : List Value → Prop
  | [] => True
  | v :: rest => v.NamesDistinct ∧ Value.ItemNamesDistinct rest

/-- Every object of the field values names each of its fields once. -/
def Value.FieldNamesDistinct : List (String × Value) → Prop
  | [] => True
  | (_, v) :: rest => v.NamesDistinct ∧ Value.FieldNamesDistinct rest

end

/-! ### Steps of the machine -/

theorem run_step {r r' : Reading} {t : Token} (h : r.step t = .ok r') (ts : List Token) :
    r.run (t :: ts) = r'.run ts := by
  rw [Reading.run, h]

theorem notMem_names_of_nodup {before after : Fields Value} {name : String} {v : Value}
    (h : (Fields.names (before ++ (name, v) :: after)).Nodup) : name ∉ Fields.names before := by
  rw [Fields.names, List.map_append, List.nodup_append] at h
  exact fun member => h.2.2 name member name List.mem_cons_self rfl

theorem opened_of_lt {count : Nat} (h : count < maxOpen) (r : Reading) : opened count r = .ok r :=
  if_pos h

theorem exists_tokens_eq_cons (v : Value) : ∃ t ts, v.tokens = t :: ts ∧ t ≠ .closeArray := by
  cases v <;> exact ⟨_, _, rfl, by simp⟩

theorem step_item {t : Token} (h : t ≠ .closeArray) (frames : List Frame) :
    (Reading.item frames).step t = startValue (.array [] :: frames) t := by
  cases t <;> first | rfl | exact absurd rfl h

/-- The first item of an array is read like the items after it. -/
theorem run_item {vs : List Value} (h : vs ≠ []) (frames : List Frame) (ts : List Token) :
    Reading.run (.item frames) (Value.itemTokens vs ++ ts) =
      Reading.run (.value (.array [] :: frames)) (Value.itemTokens vs ++ ts) := by
  have first : ∃ t rest, Value.itemTokens vs = t :: rest ∧ t ≠ .closeArray := by
    match vs with
    | [] => exact absurd rfl h
    | [v] => exact exists_tokens_eq_cons v
    | v :: w :: vs =>
        obtain ⟨t, rest, first, other⟩ := exists_tokens_eq_cons v
        exact ⟨t, rest ++ .comma :: Value.itemTokens (w :: vs),
          congrArg (· ++ .comma :: Value.itemTokens (w :: vs)) first, other⟩
  obtain ⟨t, rest, first, other⟩ := first
  rw [first, List.cons_append, Reading.run, Reading.run, step_item other]
  rfl

/-- A name and its colon are read before the value of a field. -/
theorem run_name (before : Fields Value) (name : String) (mayEnd : Bool) (frames : List Frame)
    (ts : List Token) :
    Reading.run (.name before mayEnd frames) (.string name :: .colon :: ts) =
      Reading.run (.value (.object before name :: frames)) ts := by
  have named : (Reading.name before mayEnd frames).step (.string name) =
      .ok (.colon before name frames) := by
    cases mayEnd <;> rfl
  rw [run_step named, run_step rfl]

/-! ### Values -/

mutual

/-- The tokens of a value are read as the value. -/
theorem run_tokens :
    ∀ v : Value, v.NamesDistinct → ∀ (frames : List Frame) (ts : List Token),
      frames.length + v.depth ≤ maxOpen →
        Reading.run (.value frames) (v.tokens ++ ts) = Reading.run (.next v frames) ts
  | .null, _, frames, ts, _ => run_step rfl ts
  | .bool _, _, frames, ts, _ => run_step rfl ts
  | .number _, _, frames, ts, _ => run_step rfl ts
  | .string _, _, frames, ts, _ => run_step rfl ts
  | .array items, distinct, frames, ts, deep => by
      rw [Value.depth] at deep
      have opens : (Reading.value frames).step .openArray = .ok (.item frames) :=
        opened_of_lt (by omega) _
      rw [Value.tokens, List.cons_append, run_step opens, List.append_assoc,
        List.singleton_append]
      cases items with
      | nil => exact run_step rfl ts
      | cons v rest =>
          have nonempty : v :: rest ≠ [] := by simp
          rw [run_item nonempty]
          exact run_itemTokens (v :: rest) distinct nonempty [] frames ts (by omega)
  | .object fields, distinct, frames, ts, deep => by
      rw [Value.depth] at deep
      have opens : (Reading.value frames).step .openObject = .ok (.name [] true frames) :=
        opened_of_lt (by omega) _
      rw [Value.tokens, List.cons_append, run_step opens, List.append_assoc,
        List.singleton_append]
      cases fields with
      | nil => exact run_step rfl ts
      | cons field rest =>
          exact run_fieldTokens (field :: rest) distinct.2 (by simp) [] true frames ts
            (by simpa using distinct.1) (by omega)

theorem run_itemTokens :
    ∀ vs : List Value, Value.ItemNamesDistinct vs → vs ≠ [] →
      ∀ (before : List Value) (frames : List Frame) (ts : List Token),
        frames.length + 1 + Value.depths vs ≤ maxOpen →
          Reading.run (.value (.array before :: frames))
              (Value.itemTokens vs ++ .closeArray :: ts) =
            Reading.run (.next (.array (before.reverse ++ vs)) frames) ts
  | [], _, nonempty, _, _, _, _ => absurd rfl nonempty
  | [v], distinct, _, before, frames, ts, deep => by
      rw [Value.depths] at deep
      have here := run_tokens v distinct.1 (.array before :: frames) (.closeArray :: ts)
        (by simp only [List.length_cons]; omega)
      rw [Value.itemTokens, here, run_step rfl, List.reverse_cons]
  | v :: w :: vs, distinct, _, before, frames, ts, deep => by
      have text : Value.itemTokens (v :: w :: vs) =
          v.tokens ++ .comma :: Value.itemTokens (w :: vs) := rfl
      rw [Value.depths] at deep
      have here := run_tokens v distinct.1 (.array before :: frames)
        (.comma :: (Value.itemTokens (w :: vs) ++ .closeArray :: ts))
        (by simp only [List.length_cons]; omega)
      have later := run_itemTokens (w :: vs) distinct.2 (by simp) (v :: before) frames ts (by omega)
      rw [text, List.append_assoc, List.cons_append, here, run_step rfl, later]
      simp

theorem run_fieldTokens :
    ∀ fields : List (String × Value), Value.FieldNamesDistinct fields → fields ≠ [] →
      ∀ (before : Fields Value) (mayEnd : Bool) (frames : List Frame) (ts : List Token),
        (Fields.names (before ++ fields)).Nodup →
        frames.length + 1 + Value.fieldDepths fields ≤ maxOpen →
          Reading.run (.name before mayEnd frames)
              (Value.fieldTokens fields ++ .closeObject :: ts) =
            Reading.run (.next (.object (before ++ fields)) frames) ts
  | [], _, nonempty, _, _, _, _, _, _ => absurd rfl nonempty
  | [(name, v)], distinct, _, before, mayEnd, frames, ts, nodup, deep => by
      rw [Value.fieldDepths] at deep
      have new := notMem_names_of_nodup nodup
      have here := run_tokens v distinct.1 (.object before name :: frames) (.closeObject :: ts)
        (by simp only [List.length_cons]; omega)
      rw [Value.fieldTokens, List.cons_append, List.cons_append, run_name, here, run_step rfl,
        Fields.put_of_notMem new]
  | (name, v) :: field :: fields, distinct, _, before, mayEnd, frames, ts, nodup, deep => by
      -- The name is new among the fields read before, so the machine puts its field behind them.
      have text : Value.fieldTokens ((name, v) :: field :: fields) =
          .string name :: .colon :: (v.tokens ++ .comma :: Value.fieldTokens (field :: fields)) :=
        rfl
      rw [Value.fieldDepths] at deep
      have new := notMem_names_of_nodup nodup
      have here := run_tokens v distinct.1 (.object before name :: frames)
        (.comma :: (Value.fieldTokens (field :: fields) ++ .closeObject :: ts))
        (by simp only [List.length_cons]; omega)
      have later := run_fieldTokens (field :: fields) distinct.2 (by simp)
        (before ++ [(name, v)]) false frames ts (by simpa using nodup) (by omega)
      rw [text, List.cons_append, List.cons_append, run_name, List.append_assoc, List.cons_append,
        here, run_step rfl, Fields.put_of_notMem new, later]
      simp

end

/-- The text of a value is read as the value, unless it holds a real, names a field twice or nests
too deeply. -/
theorem parse_render {v : Value} (free : v.RealFree) (distinct : v.NamesDistinct)
    (deep : v.depth ≤ maxOpen) : parse v.render = .ok v := by
  have cut := tokens_compact v free [] ends_nil
  have read := run_tokens v distinct [] [] (by simpa using deep)
  rw [List.append_nil, tokens] at cut
  rw [List.append_nil] at cut read
  rw [parse, Value.render, String.toList_ofList, cut, read]
  rfl

end Fabricate.Json
