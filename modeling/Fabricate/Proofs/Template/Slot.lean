import Fabricate.Proofs.Template.Leaf

/-!
# The slots of a template

A slot is a place of a template that generators fill: one value, the row of an array, or a leaf
that mixes an array with other content, which is refused as soon as it is met. `slots path v`
lists the slots of a value in the order of its leaves and, within a leaf, of its placeholders.

Filling a template is filling its slots in this order and then placing what was made for them:
`fill` is the traversal of the slots followed by `assemble` (`fill_eq_mapM`). Statements about all
templates thereby become statements about all rows of slots, proved by induction on the row.
-/

namespace Fabricate.Template

open Json

/-- A place that generators fill. -/
inductive Slot where
  | single (path : FieldPath) (p : Placeholder)
  | row (path : FieldPath) (p : Placeholder)
  | mixed (path : FieldPath) (name : String)

/-- What was made for a slot. -/
inductive Content where
  | single (v : Datum)
  | row (vs : List Value)

namespace Content

/-- The value that the content is when it fills its leaf alone. -/
def toJson : Content → Value
  | single v => v.toJson
  | row vs => .array vs

/-- The characters that stand for the content among other text; rows never stand there. -/
def shown : Content → List Char
  | single v => v.shown
  | row _ => []

end Content

/-- Fills one slot. -/
def Slot.fill (s : Setting) : Slot → Fill Content
  | .single path p => Content.single <$> produce s path p
  | .row path p => Content.row <$> expand s path p
  | .mixed path name => throw (mixedFailure path name)

/-- The slots of a leaf, from left to right. -/
def Leaf.slots (l : Leaf) : List Slot :=
  match standalone? l.pieces with
  | some p => if p.isArray then [.row l.path p] else [.single l.path p]
  | none =>
      match (placeholders l.pieces).find? Placeholder.isArray with
      | some p => [.mixed l.path p.name]
      | none => (placeholders l.pieces).map (.single l.path)

/-- The slots of a value at a place, in the order in which they are filled. -/
def slots (path : FieldPath) (v : Value) : List Slot :=
  (leaves path v).flatMap Leaf.slots

/-- The characters of the pieces with contents in place of the placeholders. -/
def weave : List Piece → List Content → List Char
  | [], _ => []
  | .literal c :: ps, cs => c :: weave ps cs
  | .placeholder _ :: ps, [] => weave ps []
  | .placeholder _ :: ps, c :: cs => c.shown ++ weave ps cs

/-- The value of a text whose slots have the given contents. -/
def textValue (text : String) (cs : List Content) : Value :=
  match standalone? (pieces text.toList), cs with
  | some _, c :: _ => c.toJson
  | some _, [] => .null
  | none, cs => .string (String.ofList (weave (pieces text.toList) cs))

/-- The number of slots of a value, which does not depend on its place. -/
def slotCount (v : Value) : Nat :=
  (slots .root v).length

mutual

/-- The document of a template whose slots have the given contents. -/
def assemble : Value → List Content → Value
  | .object fields, cs => .object (assembleFields fields cs)
  | .array items, cs => .array (assembleItems items cs)
  | .string text, cs => textValue text cs
  | .null, _ => .null
  | .bool b, _ => .bool b
  | .number n, _ => .number n

/-- The items of a document. -/
def assembleItems : List Value → List Content → List Value
  | [], _ => []
  | v :: rest, cs =>
      assemble v (cs.take (slotCount v)) :: assembleItems rest (cs.drop (slotCount v))

/-- The fields of a document. -/
def assembleFields : List (String × Value) → List Content → List (String × Value)
  | [], _ => []
  | (name, v) :: rest, cs =>
      (name, assemble v (cs.take (slotCount v))) :: assembleFields rest (cs.drop (slotCount v))

end

mutual

theorem map_text_leaves (path other : FieldPath) :
    ∀ v : Value, (leaves path v).map Leaf.text = (leaves other v).map Leaf.text
  | .object fields => map_text_leavesOfFields path other fields
  | .array items => map_text_leavesOfItems path other 0 0 items
  | .string _ => rfl
  | .null => rfl
  | .bool _ => rfl
  | .number _ => rfl

theorem map_text_leavesOfItems (path other : FieldPath) (first start : Nat) :
    ∀ vs : List Value,
      (leavesOfItems path first vs).map Leaf.text = (leavesOfItems other start vs).map Leaf.text
  | [] => rfl
  | v :: rest => by
      rw [leavesOfItems, leavesOfItems, List.map_append, List.map_append,
        map_text_leaves (path.index first) (other.index start) v,
        map_text_leavesOfItems path other (first + 1) (start + 1) rest]

theorem map_text_leavesOfFields (path other : FieldPath) :
    ∀ fields : List (String × Value),
      (leavesOfFields path fields).map Leaf.text = (leavesOfFields other fields).map Leaf.text
  | [] => rfl
  | (name, v) :: rest => by
      rw [leavesOfFields, leavesOfFields, List.map_append, List.map_append,
        map_text_leaves (path.key name) (other.key name) v,
        map_text_leavesOfFields path other rest]

end

theorem Leaf.length_slots_eq (path other : FieldPath) (text : String) :
    (Leaf.slots ⟨path, text⟩).length = (Leaf.slots ⟨other, text⟩).length := by
  dsimp only [Leaf.slots, Leaf.pieces]
  cases standalone? (Template.pieces text.toList) with
  | some p =>
      dsimp only
      split <;> rfl
  | none =>
      cases (placeholders (Template.pieces text.toList)).find? Placeholder.isArray with
      | some p => rfl
      | none => rw [List.length_map, List.length_map]

theorem length_slots (path : FieldPath) (v : Value) : (slots path v).length = slotCount v := by
  have byText : ∀ ls : List Leaf, (ls.flatMap Leaf.slots).length =
      ((ls.map Leaf.text).map fun text => (Leaf.slots ⟨.root, text⟩).length).sum := by
    intro ls
    rw [List.length_flatMap, List.map_map]
    congr 1
    apply List.map_congr_left
    intro l _
    exact Leaf.length_slots_eq l.path .root l.text
  rw [slotCount, slots, slots, byText, byText, map_text_leaves path .root v]

/-! ### Runs of a traversal -/

theorem fill_bind_eq_ok {α β : Type} {x : Fill α} {f : α → Fill β} {p q : Progress} {b : β} :
    (x >>= f) p = .ok b q ↔ ∃ a r, x p = .ok a r ∧ f a r = .ok b q := by
  change EStateM.bind x f p = _ ↔ _
  unfold EStateM.bind
  constructor
  · intro h
    split at h
    · next a r ran => exact ⟨a, r, ran, h⟩
    · cases h
  · rintro ⟨a, r, ran, h⟩
    rw [ran]
    exact h

theorem fill_bind_eq_error {α β : Type} {x : Fill α} {f : α → Fill β} {p q : Progress}
    {e : Failure} :
    (x >>= f) p = .error e q ↔ x p = .error e q ∨ ∃ a r, x p = .ok a r ∧ f a r = .error e q := by
  change EStateM.bind x f p = _ ↔ _
  unfold EStateM.bind
  constructor
  · intro h
    split at h
    · next a r ran => exact .inr ⟨a, r, ran, h⟩
    · next d r failed =>
        cases h
        exact .inl failed
  · rintro (failed | ⟨a, r, ran, h⟩)
    · rw [failed]
    · rw [ran]
      exact h

theorem fill_map_eq_ok {α β : Type} {x : Fill α} {f : α → β} {p q : Progress} {b : β} :
    (f <$> x) p = .ok b q ↔ ∃ a, x p = .ok a q ∧ f a = b := by
  change EStateM.map f x p = _ ↔ _
  unfold EStateM.map
  constructor
  · intro h
    split at h
    · next a r ran =>
        cases h
        exact ⟨a, ran, rfl⟩
    · cases h
  · rintro ⟨a, ran, rfl⟩
    rw [ran]

theorem fill_map_eq_error {α β : Type} {x : Fill α} {f : α → β} {p q : Progress} {e : Failure} :
    (f <$> x) p = .error e q ↔ x p = .error e q := by
  change EStateM.map f x p = _ ↔ _
  unfold EStateM.map
  constructor
  · intro h
    split at h
    · cases h
    · next d r failed =>
        cases h
        exact failed
  · intro failed
    rw [failed]

theorem length_of_mapM_fill {α β : Type} {f : α → Fill β} {xs : List α} {ys : List β}
    {p q : Progress} (h : xs.mapM f p = .ok ys q) : ys.length = xs.length := by
  induction xs generalizing ys p with
  | nil =>
      cases h
      rfl
  | cons x xs ih =>
      rw [List.mapM_cons, fill_bind_eq_ok] at h
      obtain ⟨y, r, -, h⟩ := h
      rw [fill_bind_eq_ok] at h
      obtain ⟨zs, t, others, h⟩ := h
      cases h
      rw [List.length_cons, List.length_cons, ih others]

/-- What follows the traversal of a row of slots needs to be known only for rows of contents of the
same length. -/
theorem mapM_fill_bind_congr {α : Type} {s : Setting} {js : List Slot}
    {f g : List Content → Fill α} (same : ∀ cs, cs.length = js.length → f cs = g cs) :
    js.mapM (Slot.fill s) >>= f = js.mapM (Slot.fill s) >>= g := by
  funext p
  change EStateM.bind _ f p = EStateM.bind _ g p
  unfold EStateM.bind
  cases h : js.mapM (Slot.fill s) p with
  | ok cs q =>
      change f cs q = g cs q
      rw [same cs (length_of_mapM_fill h)]
  | error e q => rfl

/-! ### Filling is traversing and assembling -/

@[simp] theorem placeholders_literal (c : Char) (ps : List Piece) :
    placeholders (.literal c :: ps) = placeholders ps := rfl

@[simp] theorem placeholders_placeholder (p : Placeholder) (ps : List Piece) :
    placeholders (.placeholder p :: ps) = p :: placeholders ps := rfl

theorem splice_eq_mapM (s : Setting) (path : FieldPath) (ps : List Piece) :
    splice s path ps =
      weave ps <$> ((placeholders ps).map (.single path)).mapM (Slot.fill s) := by
  induction ps with
  | nil => rfl
  | cons piece ps ih =>
      cases piece with
      | literal c =>
          rw [splice, ih]
          simp [weave]
      | placeholder p =>
          rw [splice, ih]
          simp [weave, Slot.fill, Content.shown]

theorem placeholders_of_standalone? {ps : List Piece} {p : Placeholder}
    (h : standalone? ps = some p) : placeholders ps = [p] := by
  unfold standalone? at h
  split at h
  · next q only =>
      split at h
      · cases h
        exact only
      · cases h
  · cases h

/-- A text is filled by filling its slots. -/
theorem fillText_eq_mapM (s : Setting) (path : FieldPath) (text : String) :
    fillText s path text =
      textValue text <$> (Leaf.slots ⟨path, text⟩).mapM (Slot.fill s) := by
  dsimp only [fillText, Leaf.slots, Leaf.pieces]
  cases alone : standalone? (pieces text.toList) with
  | some p =>
      dsimp only
      split <;> simp [Slot.fill, textValue, alone, Content.toJson]
  | none =>
      have value : textValue text =
          fun cs => .string (String.ofList (weave (pieces text.toList) cs)) := by
        funext cs
        simp [textValue, alone]
      cases (placeholders (pieces text.toList)).find? Placeholder.isArray with
      | some p => rfl
      | none =>
          rw [value, splice_eq_mapM]
          simp

mutual

/-- A template is filled by filling its slots in order and assembling what was made for them. -/
theorem fill_eq_mapM (s : Setting) (path : FieldPath) :
    ∀ v : Value, fill s path v = assemble v <$> (slots path v).mapM (Slot.fill s)
  | .object fields => by
      rw [fill, fillFields_eq_mapM s path fields]
      simp [slots, leaves, assemble]
  | .array items => by
      rw [fill, fillItems_eq_mapM s path 0 items]
      simp [slots, leaves, assemble]
  | .string text => by
      rw [fill, fillText_eq_mapM]
      simp [slots, leaves, assemble]
  | .null => rfl
  | .bool _ => rfl
  | .number _ => rfl

theorem fillItems_eq_mapM (s : Setting) (path : FieldPath) (first : Nat) :
    ∀ vs : List Value, fillItems s path first vs =
      assembleItems vs <$>
        ((leavesOfItems path first vs).flatMap Leaf.slots).mapM (Slot.fill s)
  | [] => rfl
  | v :: rest => by
      rw [fillItems, fill_eq_mapM s (path.index first) v,
        fillItems_eq_mapM s path (first + 1) rest, leavesOfItems, List.flatMap_append,
        List.mapM_append]
      simp only [bind_map_left, map_bind, bind_pure_comp, Functor.map_map]
      apply mapM_fill_bind_congr
      intro cs length
      rw [length_slots] at length
      simp [assembleItems, ← length]

theorem fillFields_eq_mapM (s : Setting) (path : FieldPath) :
    ∀ fields : List (String × Value), fillFields s path fields =
      assembleFields fields <$>
        ((leavesOfFields path fields).flatMap Leaf.slots).mapM (Slot.fill s)
  | [] => rfl
  | (name, v) :: rest => by
      rw [fillFields, fill_eq_mapM s (path.key name) v,
        fillFields_eq_mapM s path rest, leavesOfFields, List.flatMap_append,
        List.mapM_append]
      simp only [bind_map_left, map_bind, bind_pure_comp, Functor.map_map]
      apply mapM_fill_bind_congr
      intro cs length
      rw [length_slots] at length
      simp [assembleFields, ← length]

end

/-! ### Walks -/

/-- The state in which a walk starts. -/
def Progress.start (seed : UInt64) (world : World) : Progress :=
  ⟨Random.Stream.ofSeed seed, world, []⟩

/-- A walk traverses its slots and assembles what was made for them. -/
theorem walk_eq_mapM (s : Setting) (template : Value) (seed : UInt64) (world : World) :
    walk s template seed world =
      match (slots .root template).mapM (Slot.fill s) (.start seed world) with
      | .ok cs q => (.ok ⟨assemble template cs, q.usage⟩, q.world)
      | .error f q => (.error f, q.world) := by
  unfold walk EStateM.run
  rw [← Progress.start, fill_eq_mapM]
  cases ran : (slots .root template).mapM (Slot.fill s) (.start seed world) with
  | ok cs q => rw [fill_map_eq_ok.2 ⟨cs, ran, rfl⟩]
  | error f q => rw [fill_map_eq_error.2 ran]

theorem walk_of_mapM_ok {s : Setting} {template : Value} {seed : UInt64} {world : World}
    {cs : List Content} {q : Progress}
    (h : (slots .root template).mapM (Slot.fill s) (.start seed world) = .ok cs q) :
    walk s template seed world = (.ok ⟨assemble template cs, q.usage⟩, q.world) := by
  rw [walk_eq_mapM, h]

theorem walk_of_mapM_error {s : Setting} {template : Value} {seed : UInt64} {world : World}
    {f : Failure} {q : Progress}
    (h : (slots .root template).mapM (Slot.fill s) (.start seed world) = .error f q) :
    walk s template seed world = (.error f, q.world) := by
  rw [walk_eq_mapM, h]

/-- The document of a walk is assembled from what its slots were filled with. -/
theorem mapM_of_walk_ok {s : Setting} {template : Value} {seed : UInt64} {world : World}
    {filled : Filled} (h : (walk s template seed world).1 = .ok filled) :
    ∃ cs q, (slots .root template).mapM (Slot.fill s) (.start seed world) = .ok cs q ∧
      filled = ⟨assemble template cs, q.usage⟩ := by
  cases ran : (slots .root template).mapM (Slot.fill s) (.start seed world) with
  | ok cs q =>
      rw [walk_of_mapM_ok ran] at h
      cases h
      exact ⟨cs, q, rfl, rfl⟩
  | error f q =>
      rw [walk_of_mapM_error ran] at h
      cases h

end Fabricate.Template
