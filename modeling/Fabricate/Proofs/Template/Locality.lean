import Fabricate.Proofs.Template.Form

/-!
# Places and random values

What is generated for a placeholder depends on its position among the placeholders of its template
and on nothing else there. Of two templates walked with one seed, the placeholders at the same
position give the same value when they call the same generator with the same parameters; an array
gives the same elements as far as both go, so the shorter row starts the longer one. So a change of
one placeholder, or of a text or key around it, changes nothing that the others give.

The reason is that every slot takes one seed of the stream, whatever it is (`fits_of_walk`), and
that the elements of an array have seeds of their own, made from this one (`sameContent_of_fits`).
-/

namespace Fabricate.Template

open Json Fabricate.Random

/-- The placeholders of a template: fields in their order, items by position, and within a text from
left to right. -/
def tokensIn (template : Value) : List Placeholder :=
  (leaves .root template).flatMap fun l => (tokens l.text).map Token.placeholder

/-- The placeholders of a template with the places of their leaves. -/
def placed (template : Value) : List (FieldPath × Placeholder) :=
  (leaves .root template).flatMap fun l => (placeholders l.pieces).map (Prod.mk l.path)

/-- The slot of a placeholder at a place. -/
def Slot.of (path : FieldPath) (p : Placeholder) : Slot :=
  if p.isArray then .row path p else .single path p

namespace Placeholder

/-- What is left of the parameters for the generator: all of them, or for an array all but
`count`. -/
def passed (s : Setting) (p : Placeholder) (params : Params) : Params :=
  if p.isArray then (takeCount params s.options.maxArrayCount).2 else params

/-- The placeholder asks for this number of elements. -/
def Asks (p : Placeholder) (n : Nat) : Prop :=
  ∃ params, Param.coerceAll p.params = .ok params ∧ Counts params n

end Placeholder

/-- Both placeholders are arrays or neither is, and they call the same generator with parameters
that it does not tell apart. -/
structure CalledAlike (s : Setting) (alike : Params → Params → Prop) (p p' : Placeholder) :
    Prop where
  kind : p.isArray = p'.isArray
  call : ∃ g params params', Prepared s p g params ∧ Prepared s p' g params' ∧
    alike (p.passed s params) (p'.passed s params')

/-- The same value, or rows of the numbers of elements asked for that are the same as far as both
go. -/
inductive SameContent (p p' : Placeholder) : Content → Content → Prop
  | single (v : Datum) : p.isArray = false → SameContent p p' (.single v) (.single v)
  | row {vs ws : List Value} :
      p.isArray = true → p.Asks vs.length → p'.Asks ws.length →
      (∀ j, j < vs.length → j < ws.length → vs[j]? = ws[j]?) →
      (vs.length ≤ ws.length → vs <+: ws) → (ws.length ≤ vs.length → ws <+: vs) →
      SameContent p p' (.row vs) (.row ws)

/-! ### Slots and placeholders -/

theorem Slot.of_array {path : FieldPath} {p : Placeholder} (h : p.isArray = true) :
    Slot.of path p = .row path p :=
  if_pos h

theorem Slot.of_scalar {path : FieldPath} {p : Placeholder} (h : p.isArray = false) :
    Slot.of path p = .single path p :=
  if_neg (Bool.eq_false_iff.1 h)

theorem map_snd_placed (template : Value) : (placed template).map Prod.snd = tokensIn template := by
  rw [placed, tokensIn, List.map_flatMap]
  congr 1
  funext l
  rw [map_placeholder_tokens, List.map_map]
  exact List.map_id _

/-- A leaf that is not mixed has one slot for each of its placeholders. -/
theorem Leaf.slots_eq_map {l : Leaf} (unmixed : ∀ path name, .mixed path name ∉ l.slots) :
    l.slots = (placeholders l.pieces).map (Slot.of l.path) := by
  unfold Leaf.slots at unmixed ⊢
  cases found : standalone? l.pieces with
  | some p =>
      have one : (placeholders l.pieces).map (Slot.of l.path) = [Slot.of l.path p] := by
        rw [placeholders_of_standalone? found]
        rfl
      rw [one]
      dsimp only
      by_cases array : p.isArray = true
      · rw [if_pos array, Slot.of_array array]
      · rw [if_neg array, Slot.of_scalar (Bool.eq_false_iff.2 array)]
  | none =>
      rw [found] at unmixed
      cases array : (placeholders l.pieces).find? Placeholder.isArray with
      | some p =>
          rw [array] at unmixed
          exact absurd List.mem_cons_self (unmixed l.path p.name)
      | none =>
          apply List.map_congr_left
          intro p member
          have scalar := List.find?_eq_none.1 array p member
          rw [Slot.of_scalar (Bool.eq_false_iff.2 scalar)]

/-- A template without mixed leaves has one slot for each of its placeholders. -/
theorem slots_eq_map {template : Value}
    (unmixed : ∀ path name, .mixed path name ∉ slots .root template) :
    slots .root template = (placed template).map fun q => Slot.of q.1 q.2 := by
  rw [slots, placed, List.map_flatMap]
  apply List.flatMap_congr
  intro l member
  rw [List.map_map]
  apply Leaf.slots_eq_map
  intro path name mixed
  exact unmixed path name (List.mem_flatMap.2 ⟨l, member, mixed⟩)

/-- A walk that succeeds gives every placeholder of its template a content, the one at a position
with the seed at this position of the stream. -/
theorem fits_of_token {s : Setting} {template : Value} {seed : UInt64} {world : World}
    {filled : Filled} (h : (walk s template seed world).1 = .ok filled) :
    ∃ cs made, contents s template seed world = .ok cs ∧
      filled.document = assemble template cs ∧ cs.length = (tokensIn template).length ∧
      ∀ k p, (tokensIn template)[k]? = some p →
        ∃ (c : Content) (path : FieldPath), cs[k]? = some c ∧
          c.Fits s made (seedAt (Stream.ofSeed seed) k) (Slot.of path p) := by
  obtain ⟨cs, made, filling, document, length, -, fits⟩ := fits_of_walk h
  have filledAt : ∀ k j, (slots .root template)[k]? = some j → ∃ c : Content, cs[k]? = some c ∧
      c.Fits s made (seedAt (Stream.ofSeed seed) k) j := by
    intro k j slot
    have inside : k < cs.length := by
      rw [length]
      exact (List.getElem?_eq_some_iff.1 slot).1
    exact ⟨cs[k], List.getElem?_eq_getElem inside,
      fits k _ _ (List.getElem?_eq_getElem inside) slot⟩
  have unmixed : ∀ path name, .mixed path name ∉ slots .root template := by
    intro path name mixed
    obtain ⟨k, slot⟩ := List.getElem?_of_mem mixed
    obtain ⟨c, -, refused⟩ := filledAt k _ slot
    cases c <;> cases refused
  have all := slots_eq_map unmixed
  refine ⟨cs, made, filling, document, ?_, fun k p token => ?_⟩
  · rw [length, all, ← map_snd_placed, List.length_map, List.length_map]
  · rw [← map_snd_placed, List.getElem?_map, Option.map_eq_some_iff] at token
    obtain ⟨⟨path, p⟩, here, rfl⟩ := token
    have slot : (slots .root template)[k]? = some (Slot.of path p) := by
      rw [all, List.getElem?_map, here]
      rfl
    obtain ⟨c, content, fit⟩ := filledAt k _ slot
    exact ⟨c, path, content, fit⟩

/-! ### Two walks -/

/-- A generator that is a function of its parameters gives the same value for the same seed. -/
theorem Gives.eq {s : Setting} {alike : Params → Params → Prop}
    (functional : s.registry.Functional alike) {name : String} {g : Generator}
    (known : s.registry.resolve? name = some g) {made made' : List (Answered s)}
    {params params' : Params} (same : alike params params') {seed : UInt64} {v w : Datum}
    (h : Gives s made g params seed v) (h' : Gives s made' g params' seed w) : v = w := by
  obtain ⟨id, member⟩ := Registry.mem_of_resolve? known
  obtain ⟨world, value, -⟩ := h
  obtain ⟨world', value', -⟩ := h'
  obtain ⟨-, outcome, -⟩ := Generator.invoke_eq_ok.1 (Prod.ext value rfl)
  obtain ⟨-, outcome', -⟩ := Generator.invoke_eq_ok.1 (Prod.ext value' rfl)
  rw [functional id g member s.context params params' world world' _ same, outcome'] at outcome
  cases outcome
  rfl

theorem prefix_of_agree {α : Type} {xs ys : List α}
    (agree : ∀ j, j < xs.length → j < ys.length → xs[j]? = ys[j]?)
    (shorter : xs.length ≤ ys.length) : xs <+: ys := by
  rw [List.prefix_iff_getElem?]
  intro j inside
  rw [← agree j inside (by omega), List.getElem?_eq_getElem inside]

theorem sameContent_of_fits {s : Setting} {alike : Params → Params → Prop}
    (functional : s.registry.Functional alike) {p p' : Placeholder}
    (same : CalledAlike s alike p p') {path path' : FieldPath}
    {made made' : List (Answered s)}
    {seed : UInt64} {c c' : Content} (h : c.Fits s made seed (.of path p))
    (h' : c'.Fits s made' seed (.of path' p')) : SameContent p p' c c' := by
  obtain ⟨kind, g, params, params', prepared, prepared', passed⟩ := same
  cases array : p.isArray with
  | false =>
      have array' := kind.symm.trans array
      rw [Slot.of_scalar array] at h
      rw [Slot.of_scalar array'] at h'
      obtain ⟨v, rfl, gives⟩ := h.single prepared
      obtain ⟨w, rfl, gives'⟩ := h'.single prepared'
      rw [Placeholder.passed, Placeholder.passed, array, array'] at passed
      cases gives.eq functional prepared.generator passed gives'
      exact .single v array
  | true =>
      have array' := kind.symm.trans array
      rw [Slot.of_array array] at h
      rw [Slot.of_array array'] at h'
      obtain ⟨vs, forwarded, rfl, count, gives⟩ := h.row prepared
      obtain ⟨ws, forwarded', rfl, count', gives'⟩ := h'.row prepared'
      rw [Placeholder.passed, Placeholder.passed, array, array', if_pos rfl, if_pos rfl, count,
        count'] at passed
      have agree : ∀ j, j < vs.length → j < ws.length → vs[j]? = ws[j]? := by
        intro j inside inside'
        rw [List.getElem?_eq_getElem inside, List.getElem?_eq_getElem inside']
        obtain ⟨v, here, made_v⟩ := gives j _ (List.getElem?_eq_getElem inside)
        obtain ⟨w, here', made_w⟩ := gives' j _ (List.getElem?_eq_getElem inside')
        rw [here, here', made_v.eq functional prepared.generator passed made_w]
      refine .row array ⟨params, prepared.params, (counts_of_takeCount count).1⟩
        ⟨params', prepared'.params, (counts_of_takeCount count').1⟩ agree
        (prefix_of_agree agree) (prefix_of_agree fun j inside inside' => ?_)
      exact (agree j inside' inside).symm

/-- Two templates walked with one seed: where both have placeholders that call the same generator
with the same parameters, they have the same content, whatever stands elsewhere in them. -/
theorem placeholders_are_local (s : Setting) (alike : Params → Params → Prop)
    (functional : s.registry.Functional alike) (template template' : Value) (seed : UInt64)
    (world world' : World) (filled filled' : Filled)
    (h : (walk s template seed world).1 = .ok filled)
    (h' : (walk s template' seed world').1 = .ok filled') :
    ∃ cs cs', contents s template seed world = .ok cs ∧
      contents s template' seed world' = .ok cs' ∧
      filled.document = assemble template cs ∧ filled'.document = assemble template' cs' ∧
      cs.length = (tokensIn template).length ∧ cs'.length = (tokensIn template').length ∧
      ∀ (k : Nat) (p p' : Placeholder),
        (tokensIn template)[k]? = some p → (tokensIn template')[k]? = some p' →
        CalledAlike s alike p p' →
          ∃ c c', cs[k]? = some c ∧ cs'[k]? = some c' ∧ SameContent p p' c c' := by
  obtain ⟨cs, made, filling, document, length, fits⟩ := fits_of_token h
  obtain ⟨cs', made', filling', document', length', fits'⟩ := fits_of_token h'
  refine ⟨cs, cs', filling, filling', document, document', length, length', ?_⟩
  intro k p p' token token' same
  obtain ⟨c, path, here, fit⟩ := fits k p token
  obtain ⟨c', path', here', fit'⟩ := fits' k p' token'
  exact ⟨c, c', here, here', sameContent_of_fits functional same fit fit'⟩

/-- Arrays of two and of three elements, at the same position of templates that are otherwise
different. -/
theorem placeholders_are_local_constant :
    let s : Setting := .constant "word" [] (.bool true)
    let template : Value := .array [.string "\x7b\x7b[word]:count=2\x7d\x7d", .null]
    let template' : Value := .object
      [("key", .string " \x7b\x7b[word]:count=3\x7d\x7d"),
        ("other", .string "a \x7b\x7bword\x7d\x7d")]
    let p : Placeholder := ⟨true, "word".toList, some "count=2".toList⟩
    let p' : Placeholder := ⟨true, "word".toList, some "count=3".toList⟩
    s.registry.Functional (· = ·) ∧ CalledAlike s (· = ·) p p' ∧
      ∃ filled filled', ∃ cs cs' : List Content, ∃ c c' : Content,
        (walk s template 7 ⟨[], false⟩).1 = .ok filled ∧
        (walk s template' 7 ⟨[], false⟩).1 = .ok filled' ∧
        filled.document = assemble template cs ∧ filled'.document = assemble template' cs' ∧
        cs[0]? = some c ∧ cs'[0]? = some c' ∧ SameContent p p' c c' := by
  intro s template template' p p'
  have functional : s.registry.Functional (· = ·) := Registry.functional_constant _ _ _ _
  have never : s.registry.NeverFails := Registry.neverFails_constant _ _ _
  have prepared : Prepared (.constant "word" [] (.bool true))
      ⟨true, "word".toList, some "count=2".toList⟩ (.constant "word" [] (.bool true))
      [("count", .ofInt64 2)] := ⟨rfl, rfl⟩
  have prepared' : Prepared (.constant "word" [] (.bool true))
      ⟨true, "word".toList, some "count=3".toList⟩ (.constant "word" [] (.bool true))
      [("count", .ofInt64 3)] := ⟨rfl, rfl⟩
  have same : CalledAlike s (· = ·) p p' :=
    ⟨(rfl : true = true), _, _, _, prepared, prepared', (rfl : ([] : Params) = [])⟩
  have accepted : (slots .root template).findSome? (Slot.refusal? s) = none :=
    Option.isNone_iff_eq_none.1 (by decide +kernel)
  have accepted' : (slots .root template').findSome? (Slot.refusal? s) = none :=
    Option.isNone_iff_eq_none.1 (by decide +kernel)
  obtain ⟨filled, ok⟩ := walk_of_refusal?_eq_none never accepted 7 ⟨[], false⟩
  obtain ⟨filled', ok'⟩ := walk_of_refusal?_eq_none never accepted' 7 ⟨[], false⟩
  obtain ⟨cs, cs', -, -, document, document', -, -, locally⟩ :=
    placeholders_are_local s (· = ·) functional template template' 7 ⟨[], false⟩ ⟨[], false⟩
      filled filled' ok ok'
  obtain ⟨c, c', here, here', content⟩ :=
    locally 0 p p' (by decide +kernel) (by decide +kernel) same
  exact ⟨functional, same, filled, filled', cs, cs', c, c', ok, ok', document, document', here,
    here', content⟩

end Fabricate.Template
