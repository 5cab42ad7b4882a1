import Fabricate.Proofs.Template.Grammar

/-!
# The tokens of a text

A token is a placeholder together with the bytes of the text that it takes. `tokens` walks along the
pieces of the text and adds up their lengths, so a token's place is what is written before it
(`mem_tokensFrom_iff`). With the grammar this gives the main statement: there is a token from one
byte to another exactly when the text between them spells a well-formed placeholder. Tokens come in
order and do not overlap, and their shape, name and parameters are those of the one placeholder that
is spelled there.
-/

namespace Fabricate.Template

/-- The bytes of the text from `start` to `stop` are the characters. -/
def Spells (text : String) (start stop : Nat) (cs : List Char) : Prop :=
  ∃ before after : String, text = before ++ String.ofList cs ++ after ∧
    before.utf8ByteSize = start ∧ (before ++ String.ofList cs).utf8ByteSize = stop

/-- The raw parameters that a parameter text gives: the trimmed pieces between its commas, without
the empty ones; nothing when there is no parameter text. -/
def RawParams : Option (List Char) → List String → Prop
  | none, raws => raws = []
  | some cs, raws => ∃ parts trimmed, Text.IsSplit ',' parts cs ∧
      List.Forall₂ Text.IsTrim trimmed parts ∧
      raws = (trimmed.filter fun t => !t.isEmpty).map String.ofList

theorem spells_iff (text : String) (start stop : Nat) (cs : List Char) :
    Spells text start stop cs ↔ ∃ a c, text.toList = a ++ cs ++ c ∧
      Text.byteLength a = start ∧ stop = start + Text.byteLength cs := by
  constructor
  · rintro ⟨before, after, rfl, rfl, rfl⟩
    refine ⟨before.toList, after.toList, by simp, ?_, ?_⟩
    · rw [← Text.utf8ByteSize_ofList, String.ofList_toList]
    · rw [String.utf8ByteSize_append, Text.utf8ByteSize_ofList]
  · rintro ⟨a, c, split, rfl, rfl⟩
    refine ⟨String.ofList a, String.ofList c, ?_, Text.utf8ByteSize_ofList a, ?_⟩
    · rw [← String.ofList_append, ← String.ofList_append, ← split, String.ofList_toList]
    · rw [String.utf8ByteSize_append, Text.utf8ByteSize_ofList, Text.utf8ByteSize_ofList]

theorem spells_unique {text : String} {start stop : Nat} {cs ds : List Char}
    (h : Spells text start stop cs) (h' : Spells text start stop ds) : cs = ds := by
  obtain ⟨a, c, split, before, length⟩ := (spells_iff text start stop cs).1 h
  obtain ⟨b, d, split', before', length'⟩ := (spells_iff text start stop ds).1 h'
  rw [split, List.append_assoc, List.append_assoc] at split'
  obtain ⟨-, rest⟩ := Text.eq_of_append_eq_append split' (before.trans before'.symm)
  exact (Text.eq_of_append_eq_append rest (by omega)).1

/-- What is spelled determines the match. -/
theorem Placeholder.IsMatch.eq_of_written_eq {p q : Placeholder} (hp : p.IsMatch) (hq : q.IsMatch)
    (same : p.written = q.written) : p = q := by
  have read := placeholderAt?_written hp []
  rw [same, placeholderAt?_written hq []] at read
  cases read
  rfl

/-! ### Places -/

theorem byteLength_written_pos (p : Placeholder) : 0 < Text.byteLength p.written := by
  obtain ⟨r, opens⟩ := written_eq_braces p
  rw [opens, Text.byteLength]
  exact Nat.add_pos_left (Char.utf8Size_pos _) _

theorem mem_tokensFrom_iff {t : Token} {ps : List Piece} {start : Nat} :
    t ∈ tokensFrom start ps ↔ ∃ xs ys, ps = xs ++ .placeholder t.placeholder :: ys ∧
      t.start = start + Text.byteLength (xs.flatMap Piece.written) ∧
      t.stop = t.start + Text.byteLength t.placeholder.written := by
  induction ps generalizing start with
  | nil => simp [tokensFrom]
  | cons piece ps ih =>
      cases piece with
      | literal c =>
          rw [tokensFrom, ih]
          constructor
          · rintro ⟨xs, ys, rfl, first, last⟩
            refine ⟨.literal c :: xs, ys, rfl, ?_, last⟩
            rw [first, List.flatMap_cons, Piece.written, List.singleton_append, Text.byteLength]
            omega
          · rintro ⟨xs, ys, split, first, last⟩
            cases xs with
            | nil => cases split
            | cons x xs =>
                cases split
                refine ⟨xs, ys, rfl, ?_, last⟩
                rw [first, List.flatMap_cons, Piece.written, List.singleton_append,
                  Text.byteLength]
                omega
      | placeholder p =>
          rw [tokensFrom, List.mem_cons, ih]
          constructor
          · rintro (rfl | ⟨xs, ys, rfl, first, last⟩)
            · exact ⟨[], ps, rfl, rfl, rfl⟩
            · refine ⟨.placeholder p :: xs, ys, rfl, ?_, last⟩
              rw [first, List.flatMap_cons, Piece.written, Text.byteLength_append]
              omega
          · rintro ⟨xs, ys, split, first, last⟩
            cases xs with
            | nil =>
                cases split
                left
                obtain ⟨q, place, stop⟩ := t
                cases first
                exact congrArg (Token.mk q start) last
            | cons x xs =>
                cases split
                refine .inr ⟨xs, ys, rfl, ?_, last⟩
                rw [first, List.flatMap_cons, Piece.written, Text.byteLength_append]
                omega

theorem map_placeholder_tokensFrom (ps : List Piece) (start : Nat) :
    (tokensFrom start ps).map Token.placeholder = placeholders ps := by
  induction ps generalizing start with
  | nil => rfl
  | cons piece ps ih =>
      cases piece with
      | literal c => exact ih _
      | placeholder p => exact congrArg (p :: ·) (ih _)

theorem map_placeholder_tokens (text : String) :
    (tokens text).map Token.placeholder = placeholders (pieces text.toList) :=
  map_placeholder_tokensFrom _ 0

theorem start_le_of_mem_tokensFrom {t : Token} {ps : List Piece} {start : Nat}
    (h : t ∈ tokensFrom start ps) : start ≤ t.start := by
  obtain ⟨xs, ys, -, first, -⟩ := mem_tokensFrom_iff.1 h
  omega

theorem pairwise_tokensFrom (ps : List Piece) (start : Nat) :
    (tokensFrom start ps).Pairwise fun t u => t.stop ≤ u.start := by
  induction ps generalizing start with
  | nil => exact .nil
  | cons piece ps ih =>
      cases piece with
      | literal c => exact ih _
      | placeholder p => exact .cons (fun u later => start_le_of_mem_tokensFrom later) (ih _)

/-- A token is a well-formed placeholder, spelled where the token is. -/
theorem mem_tokens_iff (text : String) (t : Token) :
    t ∈ tokens text ↔
      t.placeholder.WellFormed ∧ Spells text t.start t.stop t.placeholder.written := by
  rw [tokens, mem_tokensFrom_iff, spells_iff]
  constructor
  · rintro ⟨xs, ys, cut, first, last⟩
    constructor
    · refine @wellFormed_of_mem_pieces text.toList _ ?_
      rw [cut]
      simp
    · refine ⟨xs.flatMap Piece.written, ys.flatMap Piece.written, ?_, ?_, last⟩
      · have whole := pieces_written text.toList
        rw [cut, List.flatMap_append, List.flatMap_cons] at whole
        rw [← whole, List.append_assoc]
        rfl
      · rw [first, Nat.zero_add]
  · rintro ⟨wellFormed, a, c, split, first, last⟩
    obtain ⟨xs, cut, before⟩ := pieces_of_spelled wellFormed text.toList a c split
    exact ⟨xs, pieces c, cut, by rw [before, first, Nat.zero_add], last⟩

/-! ### What a token says -/

theorem isTrim_name (p : Placeholder) : Text.IsTrim p.name.toList p.nameText := by
  rw [Placeholder.name, String.toList_ofList]
  exact Text.isTrim_trim p.nameText

theorem rawParams_params (p : Placeholder) : RawParams p.paramText p.params := by
  rw [Placeholder.params]
  cases p.paramText with
  | none => rfl
  | some cs =>
      refine ⟨Text.splitAll ',' cs, (Text.splitAll ',' cs).map Text.trim,
        Text.isSplit_splitAll ',' cs, ?_, rfl⟩
      rw [List.forall₂_map_left_iff]
      exact List.forall₂_same.2 fun part _ => Text.isTrim_trim part

/-- There is a token from one byte to another exactly when the text between them spells a
well-formed placeholder. The tokens come one after the other, and each has the shape that brackets
and colon say, the trimmed name, and the trimmed pieces between the commas that are not empty. -/
theorem tokens_exact (text : String) :
    (∀ start stop, (∃ t ∈ tokens text, t.start = start ∧ t.stop = stop) ↔
        ∃ p : Placeholder, p.WellFormed ∧ Spells text start stop p.written) ∧
      (tokens text).Pairwise (fun t u => t.stop ≤ u.start) ∧
      ∀ t ∈ tokens text, t.start < t.stop ∧
        ∀ p : Placeholder, p.WellFormed → Spells text t.start t.stop p.written →
          t.placeholder.shape =
              (if p.bracketed then .array
                else if p.paramText.isSome then .parameterized else .scalar) ∧
            Text.IsTrim t.placeholder.name.toList p.nameText ∧
            RawParams p.paramText t.placeholder.params := by
  refine ⟨fun start stop => ⟨?_, ?_⟩, pairwise_tokensFrom _ _, fun t member => ?_⟩
  · rintro ⟨t, member, rfl, rfl⟩
    obtain ⟨wellFormed, spelled⟩ := (mem_tokens_iff text t).1 member
    exact ⟨t.placeholder, wellFormed, spelled⟩
  · rintro ⟨p, wellFormed, spelled⟩
    exact ⟨⟨p, start, stop⟩, (mem_tokens_iff text _).2 ⟨wellFormed, spelled⟩, rfl, rfl⟩
  · obtain ⟨wellFormed, spelled⟩ := (mem_tokens_iff text t).1 member
    constructor
    · obtain ⟨-, -, -, -, last⟩ := (spells_iff _ _ _ _).1 spelled
      have := byteLength_written_pos t.placeholder
      omega
    · intro p other again
      have same : t.placeholder = p :=
        wellFormed.toIsMatch.eq_of_written_eq other.toIsMatch (spells_unique spelled again)
      rw [← same]
      exact ⟨rfl, isTrim_name t.placeholder, rawParams_params t.placeholder⟩

-- A letter of two bytes, a blank name, and parameters with a brace.
example : (tokens "é\x7b\x7b \x7d\x7d\x7b\x7b a:x,\x7dy\x7d\x7d").map (fun t => (t.start, t.stop)) =
    [(7, 18)] := by decide +kernel

end Fabricate.Template
