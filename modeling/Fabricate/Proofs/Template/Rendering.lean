import Fabricate.Proofs.Template.Form

/-!
# Texts with placeholders among other text

What becomes of a text whose placeholders do not stand alone, said with the bytes of the text and a
cursor that runs over its tokens (`Rendered`): up to the next token the text is kept, in place of
the token stands its value, and after the last token the text is kept to its end. All the pieces
that are kept are pieces between two bytes at which characters begin (`Spells`), so no token is cut
and no character is.

There is one such rendering for every row of as many values as there are tokens, and filling the
text gives it. A rendering only reads the text of the template, so what was generated is shown as it
is, also when it looks like a placeholder.
-/

namespace Fabricate.Template

/-- The text from the cursor on, with the values in place of the tokens. -/
inductive Rendered (text : String) : Nat → List Token → List Datum → List Char → Prop
  | last {cursor : Nat} {kept : List Char} :
      Spells text cursor text.utf8ByteSize kept → Rendered text cursor [] [] kept
  | token {cursor : Nat} {t : Token} {ts : List Token} {v : Datum} {vs : List Datum}
      {kept rest : List Char} :
      Spells text cursor t.start kept → Spells text t.start t.stop t.placeholder.written →
      Rendered text t.stop ts vs rest → Rendered text cursor (t :: ts) (v :: vs)
        (kept ++ v.shown ++ rest)

/-! ### Kept text -/

theorem spells_append {text : String} {start middle stop : Nat} {cs ds : List Char}
    (left : Spells text start middle cs) (right : Spells text middle stop ds) :
    Spells text start stop (cs ++ ds) := by
  rw [spells_iff] at left right ⊢
  obtain ⟨a, c, split, before, rfl⟩ := left
  obtain ⟨b, d, split', before', rfl⟩ := right
  have same : a ++ cs = b ∧ c = ds ++ d := by
    apply Text.eq_of_append_eq_append
    · rw [← split, split', List.append_assoc]
    · rw [Text.byteLength_append, before, before']
  obtain ⟨rfl, rfl⟩ := same
  refine ⟨a, d, ?_, before, ?_⟩
  · rw [split, List.append_assoc, List.append_assoc, List.append_assoc]
  · rw [Text.byteLength_append, Nat.add_assoc]

theorem spells_nil {text : String} {before after : List Char}
    (split : text.toList = before ++ after) :
    Spells text (Text.byteLength before) (Text.byteLength before) [] := by
  rw [spells_iff]
  exact ⟨before, after, by rw [List.append_nil, split], rfl, rfl⟩

namespace Rendered

variable {text : String} {start cursor : Nat} {ts : List Token} {vs : List Datum}
  {kept result other : List Char}

/-- A rendering is extended by the text before its cursor. -/
theorem extend (before : Spells text start cursor kept) (h : Rendered text cursor ts vs result) :
    Rendered text start ts vs (kept ++ result) := by
  cases h with
  | last later => exact .last (spells_append before later)
  | token later spelled rest =>
      rw [← List.append_assoc, ← List.append_assoc]
      exact .token (spells_append before later) spelled rest

theorem unique (h : Rendered text cursor ts vs result) (h' : Rendered text cursor ts vs other) :
    other = result := by
  induction h generalizing other with
  | last spelled =>
      cases h' with
      | last again => exact spells_unique again spelled
  | token spelled _ _ ih =>
      cases h' with
      | token again _ rest => rw [spells_unique again spelled, ih rest]

end Rendered

/-! ### Pieces -/

/-- Weaving values into pieces of a text renders it from the byte on at which the pieces start. -/
theorem rendered_weave_tokensFrom {text : String} {ps : List Piece} {before : List Char}
    {vs : List Datum} (split : text.toList = before ++ ps.flatMap Piece.written)
    (length : vs.length = (placeholders ps).length) :
    Rendered text (Text.byteLength before) (tokensFrom (Text.byteLength before) ps) vs
      (weave ps (vs.map .single)) := by
  induction ps generalizing before vs with
  | nil =>
      cases List.length_eq_zero_iff.1 length
      rw [List.flatMap_nil] at split
      have whole : text.utf8ByteSize = Text.byteLength before := by
        rw [← String.ofList_toList (s := text), split, Text.utf8ByteSize_ofList, List.append_nil]
      refine .last ((spells_iff _ _ _ _).2 ⟨before, [], ?_, rfl, whole⟩)
      rw [split, List.map_nil, weave, List.append_nil, List.append_nil]
  | cons piece ps ih =>
      rw [List.flatMap_cons, ← List.append_assoc] at split
      have spelled : Spells text (Text.byteLength before)
          (Text.byteLength (before ++ piece.written)) piece.written := by
        rw [spells_iff, Text.byteLength_append]
        exact ⟨before, _, split, rfl, rfl⟩
      rw [Text.byteLength_append] at spelled
      cases piece with
      | literal c =>
          have rest := ih split length
          rw [Text.byteLength_append] at rest
          exact rest.extend spelled
      | placeholder p =>
          cases vs with
          | nil => cases length
          | cons v vs =>
              have fewer : vs.length = (placeholders ps).length := by simpa using length
              have rest := ih split fewer
              rw [Text.byteLength_append] at rest
              rw [List.append_assoc] at split
              rw [tokensFrom, List.map_cons, weave]
              exact .token (t := ⟨p, _, _⟩) (spells_nil split) spelled rest

theorem rendered_weave (text : String) {vs : List Datum}
    (length : vs.length = (tokens text).length) :
    Rendered text 0 (tokens text) vs (weave (pieces text.toList) (vs.map .single)) := by
  refine @rendered_weave_tokensFrom text _ [] vs ?_ ?_
  · rw [pieces_written, List.nil_append]
  · rw [length, ← map_placeholder_tokens, List.length_map]

/-! ### Filled texts -/

theorem mapM_fill_single (s : Setting) (path : FieldPath) (ps : List Placeholder) :
    (ps.map (Slot.single path)).mapM (Slot.fill s) =
      List.map Content.single <$> ps.mapM (produce s path) := by
  induction ps with
  | nil => rfl
  | cons p ps ih =>
      rw [List.map_cons, List.mapM_cons, List.mapM_cons, ih]
      simp [Slot.fill]

/-- A text in which nothing stands alone and nothing is an array is filled by making the values of
its tokens, one after the other, and weaving them into its pieces. -/
theorem fillText_eq_mapM_tokens (s : Setting) (path : FieldPath) {text : String}
    (scalar : ∀ t ∈ tokens text, t.placeholder.isArray = false) (apart : ∀ p, ¬ Alone text p) :
    fillText s path text =
      (fun vs => .string (String.ofList (weave (pieces text.toList) (vs.map .single)))) <$>
        (tokens text).mapM fun t => produce s path t.placeholder := by
  have together : standalone? (pieces text.toList) = none := by
    rw [Option.eq_none_iff_forall_ne_some]
    exact fun p found => apart p ((standalone?_pieces_iff text p).1 found)
  have noArray : (placeholders (pieces text.toList)).find? Placeholder.isArray = none := by
    rw [← map_placeholder_tokens, List.find?_eq_none]
    intro p member
    obtain ⟨t, inside, rfl⟩ := List.mem_map.1 member
    rw [scalar t inside]
    exact Bool.false_ne_true
  rw [fillText, together]
  dsimp only
  rw [noArray, splice_eq_mapM, mapM_fill_single, ← map_placeholder_tokens, List.mapM_map,
    bind_pure_comp, Functor.map_map, Functor.map_map]
  rfl

/-- A text in which nothing stands alone and nothing is an array becomes the text with the shown
values in place of its tokens, each value made once and in the order of the tokens, and all other
text kept where it is. -/
theorem mixed_leaves_are_spliced (s : Setting) (path : FieldPath) (text : String)
    (scalar : ∀ t ∈ tokens text, t.placeholder.isArray = false) (apart : ∀ p, ¬ Alone text p) :
    (∀ vs, vs.length = (tokens text).length → ∃ result, Rendered text 0 (tokens text) vs result ∧
        ∀ other, Rendered text 0 (tokens text) vs other → other = result) ∧
      ∀ q, (∀ vs r, (tokens text).mapM (fun t => produce s path t.placeholder) q = .ok vs r →
          ∃ result, Rendered text 0 (tokens text) vs result ∧
            fillText s path text q = .ok (.string (String.ofList result)) r) ∧
        ∀ e r, (tokens text).mapM (fun t => produce s path t.placeholder) q = .error e r →
          fillText s path text q = .error e r := by
  constructor
  · intro vs length
    exact ⟨_, rendered_weave text length, fun _ again => (rendered_weave text length).unique again⟩
  · intro q
    rw [fillText_eq_mapM_tokens s path scalar apart]
    constructor
    · intro vs r ran
      have length := length_of_mapM_fill ran
      exact ⟨_, rendered_weave text length, fill_map_eq_ok.2 ⟨vs, ran, rfl⟩⟩
    · intro e r failed
      exact fill_map_eq_error.2 failed

/-- A letter of two bytes, a blank name and lone braces stay, and so does a placeholder that was
generated. -/
theorem mixed_leaves_are_spliced_constant :
    let v : Datum := .text "\x7b\x7bword\x7d\x7ds"
    let s : Setting := .constant "word" [] v
    let text := "é\x7b\x7b \x7d\x7d \x7bx\x7d\x7b\x7bword\x7d\x7d-\x7b\x7bword\x7d\x7d"
    let q : Progress := .start 7 ⟨[], false⟩
    (∀ t ∈ tokens text, t.placeholder.isArray = false) ∧ (∀ p, ¬ Alone text p) ∧
      ∃ r, (tokens text).mapM (fun t => produce s .root t.placeholder) q = .ok [v, v] r ∧
        fillText s .root text q = .ok (.string
          "é\x7b\x7b \x7d\x7d \x7bx\x7d\x7b\x7bword\x7d\x7ds-\x7b\x7bword\x7d\x7ds") r := by
  intro v s text q
  have scalar : ∀ t ∈ tokens text, t.placeholder.isArray = false := by decide +kernel
  have together : standalone? (pieces text.toList) = none := by decide +kernel
  have apart : ∀ p, ¬ Alone text p := by
    intro p alone
    rw [(standalone?_pieces_iff text p).2 alone] at together
    cases together
  have both : tokens text = [⟨⟨false, ['w', 'o', 'r', 'd'], none⟩, 11, 19⟩,
      ⟨⟨false, ['w', 'o', 'r', 'd'], none⟩, 20, 28⟩] := by decide +kernel
  have ran : ∃ r, (tokens text).mapM (fun t => produce s .root t.placeholder) q =
      .ok [v, v] r := by
    rw [both]
    exact ⟨_, rfl⟩
  obtain ⟨r, ran⟩ := ran
  obtain ⟨result, rendered, filled⟩ :=
    ((mixed_leaves_are_spliced s .root text scalar apart).2 q).1 [v, v] r ran
  have woven : weave (pieces text.toList) [.single v, .single v] =
      "é\x7b\x7b \x7d\x7d \x7bx\x7d\x7b\x7bword\x7d\x7ds-\x7b\x7bword\x7d\x7ds".toList := by
    decide +kernel
  have same := rendered.unique (rendered_weave text (length_of_mapM_fill ran))
  rw [← same, List.map_cons, List.map_cons, List.map_nil, woven, String.ofList_toList] at filled
  exact ⟨scalar, apart, r, ran, filled⟩

end Fabricate.Template
