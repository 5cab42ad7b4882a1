import Fabricate.Proofs.Template.Filling
import Fabricate.Proofs.Template.Token

/-!
# The form of a document

A walk keeps the form of its template. Objects keep their keys and their order, arrays their length,
and all that holds no placeholder stays as it is. A text that is one array up to blanks around it
becomes an array with as many elements as its `count` says, a text that is one other placeholder
becomes the JSON value of what was generated for it, and any other text with placeholders becomes a
text (`HasForm`).

What was generated for a text is the answer to a call of this walk, made with the seed of the text's
place among the placeholders. So the form is told with the calls made and with a position: the items
of an array, and the values of an object, stand one behind the other, each after all the
placeholders of those before it (`RowForm`).

The form follows from what the slots were filled with (`Content.Fits`), by recursion on the
template; the calls that gave the contents are fixed, so that the parts of a template share them.
-/

namespace Fabricate

theorem Fields.take_eq_none {α : Type} {fs : Fields α} {name : String}
    (h : fs.take name = none) : fs.get? name = none := by
  induction fs with
  | nil => rfl
  | cons field rest ih =>
      rw [take] at h
      split at h
      · cases h
      · next other =>
          rw [get?, if_neg other]
          exact ih (Option.map_eq_none_iff.1 h)

theorem Fields.get?_of_take {α : Type} {fs others : Fields α} {name : String} {v : α}
    (h : fs.take name = some (v, others)) : fs.get? name = some v := by
  induction fs generalizing others with
  | nil => cases h
  | cons field rest ih =>
      rw [take] at h
      split at h
      · next same =>
          cases h
          rw [get?, if_pos same]
      · next other =>
          obtain ⟨⟨w, left⟩, taken, same⟩ := Option.map_eq_some_iff.1 h
          cases same
          rw [get?, if_neg other]
          exact ih taken

namespace Template

open Json Fabricate.Random

/-- The parameters ask for this number of elements: the value of `count`, or one without it. -/
def Counts (params : Params) (n : Nat) : Prop :=
  (params.get? countKey = none ∧ n = 1) ∨
    ∃ v w, params.get? countKey = some v ∧ v.int64? = some w ∧ w.toInt = n

/-- The text is the placeholder up to blanks around it. -/
structure Alone (text : String) (p : Placeholder) : Prop where
  wellFormed : p.WellFormed
  blanks : ∃ a b, text.toList = a ++ p.written ++ b ∧
    (∀ c ∈ a, Text.isBlank c = true) ∧ ∀ c ∈ b, Text.isBlank c = true

/-- What a text of a template becomes, for the calls made and the seed of its first placeholder. -/
inductive TextForm (s : Setting) (made : List (Answered s)) (seed : UInt64) (text : String) :
    Value → Prop
  | literal : tokens text = [] → TextForm s made seed text (.string text)
  | single {p : Placeholder} {g : Generator} {params : Params} {v : Datum} :
      Alone text p → p.isArray = false → Prepared s p g params → Gives s made g params seed v →
      TextForm s made seed text v.toJson
  | row {p : Placeholder} {g : Generator} {params : Params} {vs : List Value} :
      Alone text p → p.isArray = true → Prepared s p g params → Counts params vs.length →
      1 ≤ vs.length → vs.length ≤ s.options.maxArrayCount →
      (∀ j w, vs[j]? = some w → ∃ v : Datum, w = v.toJson ∧
        Gives s made g (takeCount params s.options.maxArrayCount).2
          (Seed.element seed (UInt64.ofNat j)) v) →
      TextForm s made seed text (.array vs)
  | spliced {result : String} :
      tokens text ≠ [] → (∀ p, ¬ Alone text p) → TextForm s made seed text (.string result)

mutual

/-- What a value of a template becomes, for the calls made and the position of its first
placeholder. -/
inductive HasForm (s : Setting) (made : List (Answered s)) (seeds : Stream) :
    Nat → Value → Value → Prop
  | object {k : Nat} {fields others : List (String × Value)} :
      others.map Prod.fst = fields.map Prod.fst →
      RowForm s made seeds k (fields.map Prod.snd) (others.map Prod.snd) →
      HasForm s made seeds k (.object fields) (.object others)
  | array {k : Nat} {items others : List Value} :
      RowForm s made seeds k items others →
      HasForm s made seeds k (.array items) (.array others)
  | string {k : Nat} {text : String} {v : Value} :
      TextForm s made (seedAt seeds k) text v → HasForm s made seeds k (.string text) v
  | null (k : Nat) : HasForm s made seeds k .null .null
  | bool (k : Nat) (b : Bool) : HasForm s made seeds k (.bool b) (.bool b)
  | number (k : Nat) (n : Number) : HasForm s made seeds k (.number n) (.number n)

/-- What the values of a row become, each with the position after the placeholders of those before
it. -/
inductive RowForm (s : Setting) (made : List (Answered s)) (seeds : Stream) :
    Nat → List Value → List Value → Prop
  | nil (k : Nat) : RowForm s made seeds k [] []
  | cons {k : Nat} {v w : Value} {vs ws : List Value} :
      HasForm s made seeds k v w → RowForm s made seeds (k + slotCount v) vs ws →
      RowForm s made seeds k (v :: vs) (w :: ws)

end

/-! ### Counts -/

theorem counts_of_takeCount {params forwarded : Params} {max n : Nat}
    (h : takeCount params max = (.ok n, forwarded)) :
    Counts params n ∧ (1 ≤ max → n ≤ max) := by
  rcases takeCount_eq_ok.1 h with ⟨missing, rfl, -⟩ | ⟨v, w, taken, word, same, -, limited⟩
  · exact ⟨.inl ⟨Fields.take_eq_none missing, rfl⟩, id⟩
  · exact ⟨.inr ⟨v, w, Fields.get?_of_take taken, word, same⟩, fun _ => limited⟩

/-! ### Texts -/

theorem isBlank_openingBrace : Text.isBlank '\x7b' = false := by decide

/-- Pieces are blank exactly when they are written with blanks alone. -/
theorem isBlank_written_iff (ps : List Piece) :
    (∀ c ∈ ps.flatMap Piece.written, Text.isBlank c = true) ↔
      ∀ piece ∈ ps, piece.isBlank = true := by
  constructor
  · intro h piece member
    cases piece with
    | literal c => exact h c (List.mem_flatMap.2 ⟨_, member, List.mem_singleton.2 rfl⟩)
    | placeholder p =>
        obtain ⟨r, opens⟩ := written_eq_braces p
        have brace : '\x7b' ∈ (Piece.placeholder p).written := by
          rw [Piece.written, opens]
          exact List.mem_cons_self
        have blank := h _ (List.mem_flatMap.2 ⟨_, member, brace⟩)
        rw [isBlank_openingBrace] at blank
        cases blank
  · intro h c written
    obtain ⟨piece, member, shown⟩ := List.mem_flatMap.1 written
    have blank := h piece member
    cases piece with
    | literal d =>
        cases List.mem_singleton.1 shown
        exact blank
    | placeholder p => cases blank

theorem placeholders_of_isBlank {ps : List Piece} (h : ∀ piece ∈ ps, piece.isBlank = true) :
    placeholders ps = [] := by
  rw [placeholders, List.filterMap_eq_nil_iff]
  intro piece member
  cases piece with
  | literal c => rfl
  | placeholder p => cases h _ member

theorem standalone?_eq_some_iff (ps : List Piece) (p : Placeholder) :
    standalone? ps = some p ↔ ∃ xs ys, ps = xs ++ .placeholder p :: ys ∧
      (∀ piece ∈ xs, piece.isBlank = true) ∧ ∀ piece ∈ ys, piece.isBlank = true := by
  constructor
  · intro h
    have only := placeholders_of_standalone? h
    have all : ∀ piece ∈ ps, piece.isBlank = true ∨ piece.placeholder?.isSome = true := by
      unfold standalone? at h
      rw [only] at h
      dsimp only at h
      split at h
      · next blank => simpa using blank
      · cases h
    have blank : ∀ piece ∈ ps, piece.placeholder? = none → piece.isBlank = true := by
      intro piece member literal
      rcases all piece member with blank | found
      · exact blank
      · rw [literal] at found
        cases found
    rw [placeholders, List.filterMap_eq_cons_iff] at only
    obtain ⟨xs, piece, ys, rfl, before, found, after⟩ := only
    rw [List.filterMap_eq_nil_iff] at after
    cases piece with
    | literal c => cases found
    | placeholder q =>
        cases found
        refine ⟨xs, ys, rfl, fun x member => ?_, fun y member => ?_⟩
        · exact blank x (by simp [member]) (before x member)
        · exact blank y (by simp [member]) (after y member)
  · rintro ⟨xs, ys, rfl, left, right⟩
    have noneLeft := placeholders_of_isBlank left
    have noneRight := placeholders_of_isBlank right
    have only : placeholders (xs ++ .placeholder p :: ys) = [p] := by
      rw [placeholders] at noneLeft noneRight ⊢
      rw [List.filterMap_append, noneLeft, List.filterMap_cons, noneRight]
      rfl
    unfold standalone?
    rw [only]
    dsimp only
    rw [if_pos]
    rw [List.all_eq_true]
    intro piece member
    rw [Bool.or_eq_true]
    rcases List.mem_append.1 member with early | late
    · exact .inl (left piece early)
    · rcases List.mem_cons.1 late with rfl | late
      · exact .inr rfl
      · exact .inl (right piece late)

theorem standalone?_pieces_iff (text : String) (p : Placeholder) :
    standalone? (pieces text.toList) = some p ↔ Alone text p := by
  rw [standalone?_eq_some_iff]
  constructor
  · rintro ⟨xs, ys, cut, left, right⟩
    have whole := pieces_written text.toList
    rw [cut, List.flatMap_append, List.flatMap_cons] at whole
    constructor
    · refine @wellFormed_of_mem_pieces text.toList _ ?_
      rw [cut]
      simp
    · refine ⟨_, _, ?_, (isBlank_written_iff xs).2 left, (isBlank_written_iff ys).2 right⟩
      rw [← whole, List.append_assoc]
      rfl
  · rintro ⟨wellFormed, a, b, split, left, right⟩
    obtain ⟨xs, cut, before⟩ := pieces_of_spelled wellFormed text.toList a b split
    rw [← before] at left
    rw [← pieces_written b] at right
    exact ⟨xs, pieces b, cut, (isBlank_written_iff xs).1 left,
      (isBlank_written_iff (pieces b)).1 right⟩

theorem weave_of_placeholders_eq_nil {ps : List Piece} (h : placeholders ps = [])
    (cs : List Content) : weave ps cs = ps.flatMap Piece.written := by
  induction ps with
  | nil => rfl
  | cons piece ps ih =>
      cases piece with
      | literal c =>
          rw [placeholders_literal] at h
          rw [weave, ih h]
          rfl
      | placeholder p => cases h

/-! ### Documents -/

/-- The calls gave the contents for the slots, of which the first one has the seed at the
position. -/
structure FitsFrom (s : Setting) (made : List (Answered s)) (seeds : Stream) (k : Nat)
    (cs : List Content) (js : List Slot) : Prop where
  length : cs.length = js.length
  fits : ∀ i (c : Content) j, cs[i]? = some c → js[i]? = some j →
    c.Fits s made (seedAt seeds (k + i)) j

namespace FitsFrom

variable {s : Setting} {made : List (Answered s)} {seeds : Stream} {k : Nat} {cs : List Content}
  {left right : List Slot}

theorem take_append (h : FitsFrom s made seeds k cs (left ++ right)) :
    FitsFrom s made seeds k (cs.take left.length) left := by
  have length := h.length
  rw [List.length_append] at length
  refine ⟨by rw [List.length_take]; omega, fun i c j content slot => ?_⟩
  have inside : i < left.length := (List.getElem?_eq_some_iff.1 slot).1
  rw [List.getElem?_take_of_lt inside] at content
  apply h.fits i c j content
  rw [List.getElem?_append_left inside, slot]

theorem drop_append (h : FitsFrom s made seeds k cs (left ++ right)) :
    FitsFrom s made seeds (k + left.length) (cs.drop left.length) right := by
  have length := h.length
  rw [List.length_append] at length
  refine ⟨by rw [List.length_drop]; omega, fun i c j content slot => ?_⟩
  rw [List.getElem?_drop] at content
  rw [Nat.add_assoc]
  apply h.fits (left.length + i) c j content
  rw [List.getElem?_append_right (Nat.le_add_right _ _), Nat.add_sub_cancel_left, slot]

theorem singleton {j : Slot} (h : FitsFrom s made seeds k cs [j]) :
    ∃ c : Content, cs = [c] ∧ c.Fits s made (seedAt seeds k) j := by
  obtain ⟨c, rfl⟩ := List.length_eq_one_iff.1 h.length
  exact ⟨c, rfl, h.fits 0 c j rfl rfl⟩

end FitsFrom

theorem textForm_of_single {s : Setting} {made : List (Answered s)} {seed : UInt64}
    {path : FieldPath} {text : String} {p : Placeholder} {c : Content} (alone : Alone text p)
    (scalar : p.isArray = false) (fits : c.Fits s made seed (.single path p)) :
    TextForm s made seed text c.toJson := by
  cases c with
  | single v =>
      obtain ⟨g, params, prepared, gives⟩ := fits
      exact .single alone scalar prepared gives
  | row vs => cases fits

theorem textForm_of_row {s : Setting} (atLeastOne : 1 ≤ s.options.maxArrayCount)
    {made : List (Answered s)} {seed : UInt64} {path : FieldPath} {text : String} {p : Placeholder}
    {c : Content} (alone : Alone text p) (array : p.isArray = true)
    (fits : c.Fits s made seed (.row path p)) : TextForm s made seed text c.toJson := by
  cases c with
  | single v => cases fits
  | row vs =>
      obtain ⟨g, given, forwarded, prepared, count, gives⟩ := fits
      obtain ⟨counts, limited⟩ := counts_of_takeCount count
      refine .row alone array prepared counts (takeCount_pos count) (limited atLeastOne) ?_
      rw [count]
      exact gives

theorem textForm_of_not_alone {s : Setting} {made : List (Answered s)} {seed : UInt64}
    {text : String} (apart : standalone? (pieces text.toList) = none) (cs : List Content) :
    TextForm s made seed text (.string (String.ofList (weave (pieces text.toList) cs))) := by
  cases found : tokens text with
  | nil =>
      have literal : placeholders (pieces text.toList) = [] := by
        rw [← map_placeholder_tokens, found]
        rfl
      rw [weave_of_placeholders_eq_nil literal, pieces_written, String.ofList_toList]
      exact .literal found
  | cons t ts =>
      refine .spliced (by simp [found]) fun p alone => ?_
      rw [(standalone?_pieces_iff text p).2 alone] at apart
      cases apart

theorem textForm_textValue {s : Setting} (atLeastOne : 1 ≤ s.options.maxArrayCount)
    {made : List (Answered s)} {seeds : Stream} {k : Nat} {path : FieldPath} {text : String}
    {cs : List Content} (fits : FitsFrom s made seeds k cs (Leaf.slots ⟨path, text⟩)) :
    TextForm s made (seedAt seeds k) text (textValue text cs) := by
  dsimp only [Leaf.slots, Leaf.pieces] at fits
  unfold textValue
  cases found : standalone? (pieces text.toList) with
  | some p =>
      have alone := (standalone?_pieces_iff text p).1 found
      rw [found] at fits
      dsimp only at fits
      cases kind : p.isArray with
      | true =>
          rw [kind] at fits
          obtain ⟨c, rfl, fit⟩ := fits.singleton
          exact textForm_of_row atLeastOne alone kind fit
      | false =>
          rw [kind] at fits
          obtain ⟨c, rfl, fit⟩ := fits.singleton
          exact textForm_of_single alone kind fit
  | none => exact textForm_of_not_alone found cs

mutual

theorem hasForm_assemble {s : Setting} (atLeastOne : 1 ≤ s.options.maxArrayCount)
    {made : List (Answered s)} {seeds : Stream} (path : FieldPath) :
    ∀ (v : Value) (k : Nat) (cs : List Content), FitsFrom s made seeds k cs (slots path v) →
      HasForm s made seeds k v (assemble v cs)
  | .object fields, k, cs, fits => by
      obtain ⟨keys, values⟩ := rowForm_assembleFields atLeastOne path fields k cs fits
      exact .object keys values
  | .array items, k, cs, fits => .array (rowForm_assembleItems atLeastOne path 0 items k cs fits)
  | .string text, k, cs, fits => by
      rw [slots, leaves, List.flatMap_singleton] at fits
      exact .string (textForm_textValue atLeastOne fits)
  | .null, k, _, _ => .null k
  | .bool b, k, _, _ => .bool k b
  | .number n, k, _, _ => .number k n

theorem rowForm_assembleItems {s : Setting} (atLeastOne : 1 ≤ s.options.maxArrayCount)
    {made : List (Answered s)} {seeds : Stream} (path : FieldPath) (first : Nat) :
    ∀ (vs : List Value) (k : Nat) (cs : List Content),
      FitsFrom s made seeds k cs ((leavesOfItems path first vs).flatMap Leaf.slots) →
        RowForm s made seeds k vs (assembleItems vs cs)
  | [], k, _, _ => .nil k
  | v :: rest, k, cs, fits => by
      rw [leavesOfItems, List.flatMap_append, ← slots] at fits
      have here := fits.take_append
      have later := fits.drop_append
      rw [length_slots] at here later
      exact .cons (hasForm_assemble atLeastOne _ v k _ here)
        (rowForm_assembleItems atLeastOne path (first + 1) rest _ _ later)

theorem rowForm_assembleFields {s : Setting} (atLeastOne : 1 ≤ s.options.maxArrayCount)
    {made : List (Answered s)} {seeds : Stream} (path : FieldPath) :
    ∀ (fields : List (String × Value)) (k : Nat) (cs : List Content),
      FitsFrom s made seeds k cs ((leavesOfFields path fields).flatMap Leaf.slots) →
        (assembleFields fields cs).map Prod.fst = fields.map Prod.fst ∧
          RowForm s made seeds k (fields.map Prod.snd) ((assembleFields fields cs).map Prod.snd)
  | [], k, _, _ => ⟨rfl, .nil k⟩
  | (name, v) :: rest, k, cs, fits => by
      rw [leavesOfFields, List.flatMap_append, ← slots] at fits
      have here := fits.take_append
      have later := fits.drop_append
      rw [length_slots] at here later
      obtain ⟨keys, values⟩ := rowForm_assembleFields atLeastOne path rest _ _ later
      exact ⟨congrArg (name :: ·) keys, .cons (hasForm_assemble atLeastOne _ v k _ here) values⟩

end

/-- A walk that succeeds keeps the form of its template, and what stands for a placeholder was given
by the calls that the walk made one after the other, in the world that the ones before left and with
the seed of the placeholder's position. -/
theorem walk_keeps_form (s : Setting) (atLeastOne : 1 ≤ s.options.maxArrayCount)
    (template : Value) (seed : UInt64) (world : World) (filled : Filled)
    (h : (walk s template seed world).1 = .ok filled) :
    ∃ made : List (Answered s), Leads made world (walk s template seed world).2 ∧
      (walk s template seed world).2.calls =
        (made.map Answered.call).reverse ++ world.calls ∧
      HasForm s made (Stream.ofSeed seed) 0 template filled.document := by
  obtain ⟨cs, made, -, document, length, leads, fits⟩ := fits_of_walk h
  refine ⟨made, leads, leads.calls, ?_⟩
  rw [document]
  apply hasForm_assemble atLeastOne .root
  refine ⟨length, fun i c j content slot => ?_⟩
  rw [Nat.zero_add]
  exact fits i c j content slot

/-- A template with every kind of leaf, and with placeholders among its keys. -/
theorem walk_keeps_form_constant :
    let s : Setting := .constant "word" [] (.bool true)
    let template : Value := .object
      [("\x7b\x7bword\x7d\x7d", .array [.bool true, .null, .string "plain"]),
        ("row", .string " \x7b\x7b[word]:count=2\x7d\x7d "),
        ("one", .string "\x7b\x7bword\x7d\x7d"),
        ("text", .string "a \x7b\x7bword\x7d\x7d")]
    1 ≤ s.options.maxArrayCount ∧ ∃ filled, (walk s template 7 ⟨[], false⟩).1 = .ok filled ∧
      ∃ made : List (Answered s), Leads made ⟨[], false⟩ (walk s template 7 ⟨[], false⟩).2 ∧
        (walk s template 7 ⟨[], false⟩).2.calls = (made.map Answered.call).reverse ++ [] ∧
        HasForm s made (Stream.ofSeed 7) 0 template filled.document := by
  intro s template
  have atLeastOne : 1 ≤ s.options.maxArrayCount := by decide
  have never : s.registry.NeverFails := Registry.neverFails_constant _ _ _
  have accepted : (slots .root template).findSome? (Slot.refusal? s) = none :=
    Option.isNone_iff_eq_none.1 (by decide +kernel)
  obtain ⟨filled, ok⟩ := walk_of_refusal?_eq_none never accepted 7 ⟨[], false⟩
  exact ⟨atLeastOne, filled, ok, walk_keeps_form s atLeastOne template 7 ⟨[], false⟩ filled ok⟩

end Template

end Fabricate
