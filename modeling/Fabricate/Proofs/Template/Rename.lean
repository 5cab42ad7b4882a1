import Fabricate.Proofs.Template.Locality

/-!
# Texts with other placeholders

When the placeholders of a text are written anew and all else stays, the text is cut into the new
placeholders and what was literal before (`pieces_rewritten`). So nothing that was literal becomes
part of a placeholder, however it looks next to a new one. A match that begins in literal text would
have to reach into a placeholder, and the doubled brace that opens the placeholder lies behind every
match that begins before it.

The new placeholders need only be matches. Those with a blank name turn into literal text.
-/

namespace Fabricate.Template

open Json

/-- What is written for a piece when its placeholder changes. -/
def Piece.rewritten (f : Placeholder → Placeholder) : Piece → List Char
  | .literal c => [c]
  | .placeholder p => (f p).written

/-- The pieces that a piece turns into when its placeholder changes. -/
def Piece.changed (f : Placeholder → Placeholder) : Piece → List Piece
  | .literal c => [.literal c]
  | .placeholder p => (f p).pieces

/-- The text with its placeholders changed. -/
def rewritten (f : Placeholder → Placeholder) (cs : List Char) : List Char :=
  (pieces cs).flatMap (Piece.rewritten f)

/-- The placeholder with another name, if it has the given one. -/
def Placeholder.renamed (old new : String) (p : Placeholder) : Placeholder :=
  if p.name = old then { p with nameText := new.toList } else p

mutual

/-- The value with its texts changed, each with regard to its place. -/
def mapTexts (f : FieldPath → String → String) (path : FieldPath) : Value → Value
  | .object fields => .object (mapTextsOfFields f path fields)
  | .array items => .array (mapTextsOfItems f path 0 items)
  | .string text => .string (f path text)
  | .null => .null
  | .bool b => .bool b
  | .number n => .number n

/-- The items from the given position on with their texts changed. -/
def mapTextsOfItems (f : FieldPath → String → String) (path : FieldPath) (first : Nat) :
    List Value → List Value
  | [] => []
  | v :: rest => mapTexts f (path.index first) v :: mapTextsOfItems f path (first + 1) rest

/-- The fields with their texts changed. -/
def mapTextsOfFields (f : FieldPath → String → String) (path : FieldPath) :
    List (String × Value) → List (String × Value)
  | [] => []
  | (name, v) :: rest => (name, mapTexts f (path.key name) v) :: mapTextsOfFields f path rest

end

/-- The template with a generator's name replaced by another one at some of the places. -/
def renamed (here : String → Bool) (old new : String) (template : Value) : Value :=
  mapTexts (fun path text =>
      if here path.label then String.ofList (rewritten (Placeholder.renamed old new) text.toList)
      else text)
    .root template

/-! ### Cutting a rewritten text -/

/-- Two ways to write some pieces differ in nothing, or first behind the doubled brace that opens a
placeholder. -/
theorem eq_or_exists_braces (f : Placeholder → Placeholder) (ps : List Piece) :
    ps.flatMap (Piece.rewritten f) = ps.flatMap Piece.written ∨
      ∃ a b b', ps.flatMap Piece.written = a ++ '\x7b' :: '\x7b' :: b ∧
        ps.flatMap (Piece.rewritten f) = a ++ '\x7b' :: '\x7b' :: b' := by
  induction ps with
  | nil => exact .inl rfl
  | cons piece ps ih =>
      rw [List.flatMap_cons, List.flatMap_cons]
      cases piece with
      | literal c =>
          rcases ih with same | ⟨a, b, b', before, after⟩
          · exact .inl (congrArg ([c] ++ ·) same)
          · exact .inr ⟨c :: a, b, b', congrArg ([c] ++ ·) before, congrArg ([c] ++ ·) after⟩
      | placeholder p =>
          obtain ⟨r, opens⟩ := written_eq_braces p
          obtain ⟨r', opens'⟩ := written_eq_braces (f p)
          refine .inr ⟨[], r ++ ps.flatMap Piece.written,
            r' ++ ps.flatMap (Piece.rewritten f), ?_, ?_⟩
          · rw [Piece.written, opens]
            rfl
          · rw [Piece.rewritten, opens']
            rfl

/-- No match begins at a literal character in front of a rewritten text. -/
theorem placeholderAt?_cons_rewritten {f : Placeholder → Placeholder} {d : Char} {s : List Char}
    (literal : placeholderAt? (d :: s) = none) : placeholderAt? (d :: rewritten f s) = none := by
  rw [Option.eq_none_iff_forall_not_mem]
  rintro ⟨q, left⟩ found
  have spelled := written_append_of_placeholderAt? found
  have match_q := isMatch_of_placeholderAt? found
  rcases eq_or_exists_braces f (pieces s) with same | ⟨a, b, b', before, after⟩
  · rw [rewritten, same, pieces_written, literal] at found
    cases found
  · rw [pieces_written] at before
    rw [rewritten, after, ← List.cons_append] at spelled
    rcases start_of_overlap match_q spelled with none | ⟨m, inside, -⟩
    · cases none
    · -- The match lies in front of the first placeholder, so it was there before.
      rw [before, ← List.cons_append, inside, List.append_assoc,
        placeholderAt?_written match_q] at literal
      cases literal

/-- A rewritten text is cut into its new placeholders and what was literal before. -/
theorem pieces_rewritten {f : Placeholder → Placeholder}
    (keeps : ∀ p : Placeholder, p.IsMatch → (f p).IsMatch) (cs : List Char) :
    pieces (rewritten f cs) = (pieces cs).flatMap (Piece.changed f) := by
  have literals : ∀ ds : List Char, (ds.map Piece.literal).flatMap (Piece.rewritten f) = ds ∧
      (ds.map Piece.literal).flatMap (Piece.changed f) = ds.map .literal := by
    intro ds
    rw [List.flatMap_map, List.flatMap_map]
    exact ⟨List.flatMap_singleton' ds, List.map_eq_flatMap.symm⟩
  rw [rewritten]
  fun_induction pieces cs with
  | case1 cs p left found _ ih =>
      have match_p := isMatch_of_placeholderAt? found
      rw [List.flatMap_append, List.flatMap_append, ← ih]
      by_cases nameless : p.isNameless = true
      · -- A match with a blank name is literal text, but the cut passes over it whole.
        have cut := pieces_of_placeholderAt?
          (placeholderAt?_written match_p ((pieces left).flatMap (Piece.rewritten f)))
        rw [Placeholder.pieces, if_pos nameless] at cut ⊢
        rw [(literals p.written).1, (literals p.written).2, cut]
      · rw [Placeholder.pieces, if_neg nameless, List.flatMap_singleton, List.flatMap_singleton]
        exact pieces_of_placeholderAt? (placeholderAt?_written (keeps p match_p) _)
  | case2 => simp [pieces, placeholderAt?]
  | case3 d s literal ih =>
      have none : placeholderAt? (d :: (pieces s).flatMap (Piece.rewritten f)) = none :=
        placeholderAt?_cons_rewritten literal
      rw [List.flatMap_cons, List.flatMap_cons, ← ih, Piece.rewritten, Piece.changed,
        List.singleton_append, pieces]
      split
      · next found =>
          rw [none] at found
          cases found
      · rfl

/-! ### Placeholders of a rewritten text -/

/-- A placeholder is found unless its name is blank. -/
theorem placeholders_pieces (p : Placeholder) :
    placeholders p.pieces = if p.isNameless then [] else [p] := by
  unfold Placeholder.pieces
  split
  · simp [placeholders, Piece.placeholder?]
  · rfl

theorem placeholders_changed (f : Placeholder → Placeholder) (ps : List Piece) :
    placeholders (ps.flatMap (Piece.changed f)) =
      (placeholders ps).flatMap fun p => placeholders (f p).pieces := by
  induction ps with
  | nil => rfl
  | cons piece ps ih =>
      rw [List.flatMap_cons, placeholders, List.filterMap_append, ← placeholders, ← placeholders,
        ih]
      cases piece with
      | literal c => rfl
      | placeholder p => rw [placeholders_placeholder, List.flatMap_cons, Piece.changed]

theorem mem_pieces_of_mem_placeholders {ps : List Piece} {p : Placeholder}
    (h : p ∈ placeholders ps) : .placeholder p ∈ ps := by
  obtain ⟨piece, member, same⟩ := List.mem_filterMap.1 h
  cases piece with
  | literal c => cases same
  | placeholder q =>
      cases same
      exact member

/-- A placeholder of a text stays as it is when it is written as before. -/
theorem placeholders_pieces_of_mem {cs : List Char} {p : Placeholder}
    (h : p ∈ placeholders (pieces cs)) : placeholders p.pieces = [p] := by
  have wellFormed := wellFormed_of_mem_pieces (mem_pieces_of_mem_placeholders h)
  rw [placeholders_pieces, (isNameless_eq_false_iff p).2 wellFormed.named, if_neg (by simp)]

/-- A name can be written in a placeholder as it is. -/
def Writable (name : String) : Prop :=
  ∀ c ∈ name.toList, c ∉ ['[', ']', '\x7b', '\x7d', ':']

instance (name : String) : Decidable (Writable name) :=
  List.decidableBAll _ name.toList

theorem Placeholder.IsMatch.renamed {new : String} (writable : Writable new) (old : String)
    {p : Placeholder} (h : p.IsMatch) : (p.renamed old new).IsMatch := by
  unfold Placeholder.renamed
  split
  · exact ⟨writable, h.params⟩
  · exact h

/-! ### Places of a renamed template -/

mutual

theorem leaves_mapTexts (f : FieldPath → String → String) (path : FieldPath) :
    ∀ v : Value, leaves path (mapTexts f path v) =
      (leaves path v).map fun l => ⟨l.path, f l.path l.text⟩
  | .object fields => leavesOfFields_mapTexts f path fields
  | .array items => leavesOfItems_mapTexts f path 0 items
  | .string _ => rfl
  | .null => rfl
  | .bool _ => rfl
  | .number _ => rfl

theorem leavesOfItems_mapTexts (f : FieldPath → String → String) (path : FieldPath) (first : Nat) :
    ∀ vs : List Value, leavesOfItems path first (mapTextsOfItems f path first vs) =
      (leavesOfItems path first vs).map fun l => ⟨l.path, f l.path l.text⟩
  | [] => rfl
  | v :: rest => by
      rw [mapTextsOfItems, leavesOfItems, leavesOfItems, List.map_append,
        leaves_mapTexts f (path.index first) v, leavesOfItems_mapTexts f path (first + 1) rest]

theorem leavesOfFields_mapTexts (f : FieldPath → String → String) (path : FieldPath) :
    ∀ fields : List (String × Value), leavesOfFields path (mapTextsOfFields f path fields) =
      (leavesOfFields path fields).map fun l => ⟨l.path, f l.path l.text⟩
  | [] => rfl
  | (name, v) :: rest => by
      rw [mapTextsOfFields, leavesOfFields, leavesOfFields, List.map_append,
        leaves_mapTexts f (path.key name) v, leavesOfFields_mapTexts f path rest]

end

/-- The placeholders of a renamed template are those of the template, some of them renamed, without
those whose new name is blank. -/
theorem placed_renamed {new : String} (writable : Writable new) (here : String → Bool)
    (old : String) (template : Value) :
    placed (renamed here old new template) = (placed template).flatMap fun t =>
      if here t.1.label then (placeholders (t.2.renamed old new).pieces).map (Prod.mk t.1)
      else [t] := by
  rw [renamed, placed, leaves_mapTexts, List.flatMap_map, placed, List.flatMap_assoc]
  apply List.flatMap_congr
  intro l _
  rw [Leaf.pieces, Leaf.pieces, List.flatMap_map]
  dsimp only
  split
  · rw [String.toList_ofList, pieces_rewritten fun p => Placeholder.IsMatch.renamed writable old,
      placeholders_changed, List.map_flatMap]
  · rw [List.map_eq_flatMap]

end Fabricate.Template
