import Fabricate.Proofs.Text.Cut
import Fabricate.Template.Placeholder
import Mathlib.Data.List.Chain

/-!
# The grammar of placeholders

A placeholder is well formed when its name is not blank and holds none of `[ ] { } :`, and every
brace of its parameters is followed there by a character that is none. The tokens of a text are
exactly its stretches that spell a well-formed placeholder, although the text is cut greedily from
left to right, and matches with a blank name are passed over whole.

That nothing is missed rests on two facts. What is read at a place is determined by what is spelled
there, whatever follows (`placeholderAt?_written`); and within a match, the doubled brace that opens
it is the only one, so no placeholder starts inside another (`start_of_overlap`).
-/

namespace Fabricate.Template

/-- Every brace is followed by a character that is none. -/
def BracesFollowed (cs : List Char) : Prop :=
  ∀ a x b, cs = a ++ x :: b → isBrace x = true → ∃ y r, b = y :: r ∧ isBrace y = false

/-- What the cutting of a text accepts between doubled braces, a blank name included. -/
structure Placeholder.IsMatch (p : Placeholder) : Prop where
  name : ∀ c ∈ p.nameText, c ∉ ['[', ']', '\x7b', '\x7d', ':']
  params : ∀ cs, p.paramText = some cs → BracesFollowed cs

/-- What a placeholder may be: a match with a name that is not blank. -/
structure Placeholder.WellFormed (p : Placeholder) : Prop extends p.IsMatch where
  named : ∃ c ∈ p.nameText, Text.isBlank c = false

/-! ### Names and parameters -/

theorem isNameChar_iff (c : Char) :
    isNameChar c = true ↔ c ∉ ['[', ']', '\x7b', '\x7d', ':'] := by
  simp only [isNameChar, isBrace, Bool.not_eq_true', Bool.or_eq_false_iff, decide_eq_false_iff_not,
    List.mem_cons, List.not_mem_nil, or_false, not_or]
  tauto

theorem isNameless_eq_false_iff (p : Placeholder) :
    p.isNameless = false ↔ ∃ c ∈ p.nameText, Text.isBlank c = false := by
  rw [Placeholder.isNameless, List.isEmpty_eq_false_iff, ne_eq, Text.trim_eq_nil_iff]
  simp

theorem bracesFollowed_nil : BracesFollowed [] := by
  intro a x b split
  simp at split

theorem bracesFollowed_cons (c : Char) (r : List Char) :
    BracesFollowed (c :: r) ↔
      (isBrace c = true → ∃ y s, r = y :: s ∧ isBrace y = false) ∧ BracesFollowed r := by
  constructor
  · intro h
    refine ⟨h [] c r rfl, fun a x b split => h (c :: a) x b ?_⟩
    rw [split, List.cons_append]
  · rintro ⟨first, rest⟩ a x b split brace
    cases a with
    | nil =>
        cases split
        exact first brace
    | cons d a =>
        rw [List.cons_append, List.cons.injEq] at split
        exact rest a x b split.2 brace

theorem bracesFollowed_append {cs ds : List Char} (h : BracesFollowed cs) (h' : BracesFollowed ds) :
    BracesFollowed (cs ++ ds) := by
  induction cs with
  | nil => exact h'
  | cons c r ih =>
      rw [bracesFollowed_cons] at h
      rw [List.cons_append, bracesFollowed_cons]
      refine ⟨fun brace => ?_, ih h.2⟩
      obtain ⟨y, s, rfl, plain⟩ := h.1 brace
      exact ⟨y, s ++ ds, rfl, plain⟩

theorem bracesFollowed_of_plain {cs : List Char} (h : ∀ c ∈ cs, isBrace c = false) :
    BracesFollowed cs := by
  rintro a x b rfl brace
  rw [h x (by simp)] at brace
  cases brace

/-- Where no two braces are neighbours, a character behind the text follows a brace at its end. -/
theorem bracesFollowed_concat {cs : List Char} {last : Char} (plain : isBrace last = false)
    (h : cs.IsChain fun c d => ¬(isBrace c = true ∧ isBrace d = true)) :
    BracesFollowed (cs ++ [last]) := by
  induction cs with
  | nil =>
      refine bracesFollowed_of_plain fun c member => ?_
      rwa [List.mem_singleton.1 member]
  | cons c r ih =>
      rw [List.isChain_cons] at h
      rw [List.cons_append, bracesFollowed_cons]
      refine ⟨fun brace => ?_, ih h.2⟩
      cases r with
      | nil => exact ⟨last, [], rfl, plain⟩
      | cons d r =>
          refine ⟨d, r ++ [last], rfl, Bool.eq_false_iff.2 fun second => ?_⟩
          exact h.1 d rfl ⟨brace, second⟩

theorem bracesFollowed_splitParams (cs : List Char) : BracesFollowed (splitParams cs).1 := by
  fun_induction splitParams cs with
  | case1 => exact bracesFollowed_nil
  | case2 => exact bracesFollowed_nil
  | case3 c plain =>
      rw [bracesFollowed_cons]
      exact ⟨fun brace => absurd brace plain, bracesFollowed_nil⟩
  | case4 => exact bracesFollowed_nil
  | case5 c d r brace plain ps left read ih =>
      rw [read] at ih
      rw [bracesFollowed_cons, bracesFollowed_cons]
      exact ⟨fun _ => ⟨d, ps, rfl, Bool.eq_false_iff.2 plain⟩, fun brace => absurd brace plain, ih⟩
  | case6 c d r plain ps left read ih =>
      rw [read] at ih
      rw [bracesFollowed_cons]
      exact ⟨fun brace => absurd brace plain, ih⟩

/-- Parameters are read up to the doubled brace that closes them. -/
theorem splitParams_of_bracesFollowed {ps : List Char} (h : BracesFollowed ps)
    (left : List Char) :
    splitParams (ps ++ '\x7d' :: '\x7d' :: left) = (ps, '\x7d' :: '\x7d' :: left) := by
  fun_induction splitParams ps with
  | case1 => rfl
  | case2 c brace =>
      obtain ⟨y, r, none, -⟩ := ((bracesFollowed_cons c []).1 h).1 brace
      cases none
  | case3 c plain =>
      rw [List.singleton_append, splitParams, if_neg plain]
      rfl
  | case4 c d r first second =>
      obtain ⟨y, s, same, plain⟩ := ((bracesFollowed_cons c (d :: r)).1 h).1 first
      cases same
      rw [plain] at second
      cases second
  | case5 c d r brace plain _ _ _ ih =>
      rw [bracesFollowed_cons, bracesFollowed_cons] at h
      rw [List.cons_append, List.cons_append, splitParams, if_pos brace, if_neg plain,
        ih h.2.2]
  | case6 c d r plain _ _ _ ih =>
      rw [bracesFollowed_cons] at h
      rw [List.cons_append, List.cons_append, splitParams, if_neg plain, ← List.cons_append,
        ih h.2]

/-! ### Reading a placeholder at a place -/

theorem takeWhile_name {name : List Char} {x : Char}
    (h : ∀ c ∈ name, isNameChar c = true) (stop : isNameChar x = false) (r : List Char) :
    (name ++ x :: r).takeWhile isNameChar = name := by
  rw [List.takeWhile_append_of_pos h, List.takeWhile_cons_of_neg (by simp [stop]),
    List.append_nil]

theorem dropWhile_name {name : List Char} {x : Char}
    (h : ∀ c ∈ name, isNameChar c = true) (stop : isNameChar x = false) (r : List Char) :
    (name ++ x :: r).dropWhile isNameChar = x :: r := by
  rw [List.dropWhile_append_of_pos h, List.dropWhile_cons_of_neg (by simp [stop])]

theorem nameAt?_bracketed {name : List Char} (h : ∀ c ∈ name, isNameChar c = true)
    (r : List Char) : nameAt? ('[' :: (name ++ ']' :: r)) = some (true, name, r) := by
  have stop : isNameChar ']' = false := rfl
  rw [nameAt?, dropWhile_name h stop, takeWhile_name h stop]
  rfl

theorem nameAt?_bare {name : List Char} {x : Char} (h : ∀ c ∈ name, isNameChar c = true)
    (stop : isNameChar x = false) (bare : x ≠ '[') (r : List Char) :
    nameAt? (name ++ x :: r) = some (false, name, x :: r) := by
  unfold nameAt?
  split
  · next s first =>
      cases name with
      | nil =>
          cases first
          exact absurd rfl bare
      | cons c name =>
          cases first
          exact absurd (h '[' List.mem_cons_self) (by decide)
  · rw [takeWhile_name h stop, dropWhile_name h stop]

/-- What follows a name starts with a colon or a brace. -/
theorem afterColon_append (params : Option (List Char)) (left : List Char) :
    ∃ x r, Placeholder.afterColon params ++ '\x7d' :: '\x7d' :: left = x :: r ∧
      isNameChar x = false ∧ x ≠ '[' := by
  cases params with
  | none => exact ⟨'\x7d', '\x7d' :: left, rfl, rfl, by decide⟩
  | some cs => exact ⟨':', _, rfl, rfl, by decide⟩

theorem nameAt?_head {p : Placeholder} (h : p.IsMatch) (left : List Char) :
    nameAt? (p.head ++ (Placeholder.afterColon p.paramText ++ '\x7d' :: '\x7d' :: left)) =
      some (p.bracketed, p.nameText,
        Placeholder.afterColon p.paramText ++ '\x7d' :: '\x7d' :: left) := by
  have name : ∀ c ∈ p.nameText, isNameChar c = true :=
    fun c hc => (isNameChar_iff c).2 (h.name c hc)
  rw [Placeholder.head]
  cases p.bracketed with
  | true =>
      rw [if_pos rfl, List.cons_append, List.append_assoc]
      exact nameAt?_bracketed name _
  | false =>
      obtain ⟨x, r, follows, stop, bare⟩ := afterColon_append p.paramText left
      rw [if_neg (by simp), follows]
      exact nameAt?_bare name stop bare r

theorem paramsAt_afterColon {p : Placeholder} (h : p.IsMatch) (left : List Char) :
    paramsAt (Placeholder.afterColon p.paramText ++ '\x7d' :: '\x7d' :: left) =
      (p.paramText, '\x7d' :: '\x7d' :: left) := by
  cases given : p.paramText with
  | none => rfl
  | some cs =>
      rw [Placeholder.afterColon, List.cons_append, paramsAt,
        splitParams_of_bracesFollowed (h.params cs given)]

/-- A match is read where it is spelled, whatever follows. -/
theorem placeholderAt?_written {p : Placeholder} (h : p.IsMatch) (left : List Char) :
    placeholderAt? (p.written ++ left) = some (p, left) := by
  have spelled : p.written ++ left =
      '\x7b' :: '\x7b' :: (p.head ++
        (Placeholder.afterColon p.paramText ++ '\x7d' :: '\x7d' :: left)) := by
    simp [Placeholder.written]
  rw [spelled, placeholderAt?, nameAt?_head h]
  dsimp only
  rw [paramsAt_afterColon h]
  rfl

theorem isMatch_of_placeholderAt? {cs left : List Char} {p : Placeholder}
    (h : placeholderAt? cs = some (p, left)) : p.IsMatch := by
  have nameChars : ∀ r : List Char, ∀ c ∈ r.takeWhile isNameChar,
      c ∉ ['[', ']', '\x7b', '\x7d', ':'] := by
    intro r c hc
    exact (isNameChar_iff c).1 (List.all_eq_true.1 List.all_takeWhile c hc)
  unfold placeholderAt? at h
  split at h
  · next r =>
      split at h
      · cases h
      · next bracketed name s read =>
          split at h
          · next t closed =>
              cases h
              constructor
              · unfold nameAt? at read
                split at read
                · split at read
                  · cases read
                    exact nameChars _
                  · cases read
                · cases read
                  exact nameChars _
              · intro cs given
                dsimp only at given
                unfold paramsAt at given
                split at given
                · cases given
                  exact bracesFollowed_splitParams _
                · cases given
          · cases h
  · cases h

/-! ### No match starts inside another -/

/-- Not both characters open a brace. -/
def Apart (c d : Char) : Prop :=
  ¬(c = '\x7b' ∧ d = '\x7b')

theorem isChain_apart_of_plain {cs : List Char} (h : '\x7b' ∉ cs) : cs.IsChain Apart := by
  induction cs with
  | nil => exact .nil
  | cons c r ih =>
      rw [List.isChain_cons]
      refine ⟨fun d _ both => h ?_, ih fun member => h (List.mem_cons_of_mem c member)⟩
      rw [both.1]
      exact List.mem_cons_self

theorem isChain_apart_of_bracesFollowed {cs : List Char} (h : BracesFollowed cs) :
    cs.IsChain Apart := by
  induction cs with
  | nil => exact .nil
  | cons c r ih =>
      rw [bracesFollowed_cons] at h
      rw [List.isChain_cons]
      refine ⟨?_, ih h.2⟩
      rintro d next ⟨rfl, rfl⟩
      obtain ⟨y, s, rfl, plain⟩ := h.1 rfl
      cases next
      cases plain

/-- The characters of a match after its first brace hold no doubled opening brace. -/
theorem written_eq_cons {p : Placeholder} (h : p.IsMatch) :
    ∃ r, p.written = '\x7b' :: (r ++ ['\x7d']) ∧ (r ++ ['\x7d']).IsChain Apart := by
  have name : '\x7b' ∉ p.nameText := fun member => absurd (h.name _ member) (by decide)
  have head : '\x7b' ∉ p.head := by
    rw [Placeholder.head]
    split
    · simp [name]
    · exact name
  have params : (Placeholder.afterColon p.paramText).IsChain Apart := by
    cases given : p.paramText with
    | none => exact .nil
    | some cs =>
        have chain := isChain_apart_of_bracesFollowed (h.params cs given)
        rw [Placeholder.afterColon, List.isChain_cons]
        exact ⟨fun d _ both => absurd both.1 (by decide), chain⟩
  have closing : ['\x7d', '\x7d'].IsChain Apart := isChain_apart_of_plain (by decide)
  refine ⟨'\x7b' :: (p.head ++ Placeholder.afterColon p.paramText ++ ['\x7d']), ?_, ?_⟩
  · simp [Placeholder.written]
  · have body : (p.head ++ (Placeholder.afterColon p.paramText ++ ['\x7d', '\x7d'])).IsChain
        Apart := by
      rw [List.isChain_append, List.isChain_append]
      refine ⟨isChain_apart_of_plain head, ⟨params, closing, ?_⟩, ?_⟩
      · intro c _ d first both
        cases first
        exact absurd both.2 (by decide)
      · intro c last d _ both
        exact head (both.1 ▸ List.mem_of_getLast? last)
    have start : ∀ d, (p.head ++ (Placeholder.afterColon p.paramText ++ ['\x7d', '\x7d'])).head? =
        some d → Apart '\x7b' d := by
      rintro d first ⟨-, rfl⟩
      rw [List.head?_append, Option.or_eq_some_iff] at first
      rcases first with inHead | ⟨-, after⟩
      · exact head (List.mem_of_head? inHead)
      · cases given : p.paramText with
        | none =>
            rw [given] at after
            cases after
        | some cs =>
            rw [given] at after
            cases after
    simpa [List.append_assoc] using List.isChain_cons.2 ⟨start, body⟩

/-- A doubled opening brace inside a text that starts with a match is its start or lies behind
it. -/
theorem start_of_overlap {p : Placeholder} (h : p.IsMatch) {left a b : List Char}
    (split : p.written ++ left = a ++ '\x7b' :: '\x7b' :: b) :
    a = [] ∨ ∃ m, a = p.written ++ m ∧ left = m ++ '\x7b' :: '\x7b' :: b := by
  obtain ⟨r, written, chain⟩ := written_eq_cons h
  rcases List.append_eq_append_iff.1 split with ⟨m, behind, rest⟩ | ⟨m, inside, rest⟩
  · exact .inr ⟨m, behind, rest⟩
  · cases a with
    | nil => exact .inl rfl
    | cons c a =>
        rw [written, List.cons_append, List.cons.injEq] at inside
        rw [inside.2] at chain
        -- The doubled brace would begin among the characters of the match or at its last one.
        cases m with
        | nil =>
            refine .inr ⟨[], ?_, rest.symm⟩
            rw [written, inside.1, inside.2, List.append_nil, List.append_nil]
        | cons x m =>
            rw [List.cons_append, List.cons.injEq] at rest
            obtain ⟨rfl, rest⟩ := rest
            cases m with
            | nil =>
                have last := congrArg List.getLast? inside.2
                simp at last
            | cons y m =>
                rw [List.cons_append, List.cons.injEq] at rest
                obtain ⟨rfl, -⟩ := rest
                have apart := (List.isChain_cons_cons.1 chain.right_of_append).1
                exact absurd ⟨rfl, rfl⟩ apart

/-! ### Nothing is missed -/

theorem written_eq_braces (p : Placeholder) :
    ∃ r, p.written = '\x7b' :: '\x7b' :: r := ⟨_, rfl⟩

theorem pieces_of_placeholderAt? {cs left : List Char} {p : Placeholder}
    (h : placeholderAt? cs = some (p, left)) : pieces cs = p.pieces ++ pieces left := by
  rw [pieces]
  split
  · next q rest found =>
      rw [h] at found
      cases found
      rfl
  · next found =>
      rw [h] at found
      cases found

theorem flatMap_written_pieces (p : Placeholder) :
    p.pieces.flatMap Piece.written = p.written := by
  rw [Placeholder.pieces]
  split
  · rw [List.flatMap_map]
    exact List.flatMap_singleton' p.written
  · simp [Piece.written]

/-- A well-formed placeholder is found wherever it is spelled. -/
theorem pieces_of_spelled {p : Placeholder} (h : p.WellFormed) (cs : List Char) :
    ∀ a c, cs = a ++ p.written ++ c →
      ∃ xs, pieces cs = xs ++ .placeholder p :: pieces c ∧ xs.flatMap Piece.written = a := by
  have here : ∀ c, pieces (p.written ++ c) = .placeholder p :: pieces c := by
    intro c
    rw [pieces_of_placeholderAt? (placeholderAt?_written h.toIsMatch c), Placeholder.pieces,
      (isNameless_eq_false_iff p).2 h.named]
    rfl
  obtain ⟨r, opens⟩ := written_eq_braces p
  fun_induction pieces cs with
  | case1 cs q left found _ ih =>
      intro a c spelled
      have written := written_append_of_placeholderAt? found
      have overlap : q.written ++ left = a ++ '\x7b' :: '\x7b' :: (r ++ c) := by
        rw [written, spelled, opens]
        simp
      rcases start_of_overlap (isMatch_of_placeholderAt? found) overlap with rfl | ⟨m, rfl, rest⟩
      · rw [List.nil_append] at spelled
        rw [← pieces_of_placeholderAt? found, spelled, here]
        exact ⟨[], rfl, rfl⟩
      · obtain ⟨xs, cut, before⟩ := ih m c (by rw [rest, opens]; simp)
        refine ⟨q.pieces ++ xs, ?_, ?_⟩
        · rw [cut, List.append_assoc]
        · rw [List.flatMap_append, before, flatMap_written_pieces]
  | case2 =>
      intro a c spelled
      rw [opens] at spelled
      simp at spelled
  | case3 d s found ih =>
      intro a c spelled
      cases a with
      | nil =>
          rw [spelled, List.nil_append, placeholderAt?_written h.toIsMatch] at found
          cases found
      | cons e a =>
          rw [List.cons_append, List.cons_append, List.cons.injEq] at spelled
          obtain ⟨rfl, rest⟩ := spelled
          obtain ⟨xs, cut, before⟩ := ih a c rest
          refine ⟨.literal d :: xs, ?_, ?_⟩
          · rw [cut, List.cons_append]
          · rw [List.flatMap_cons, before]
            rfl

/-- Only well-formed placeholders are found. -/
theorem wellFormed_of_mem_pieces {cs : List Char} {p : Placeholder}
    (h : .placeholder p ∈ pieces cs) : p.WellFormed := by
  fun_induction pieces cs with
  | case1 cs q left found _ ih =>
      rcases List.mem_append.1 h with here | later
      · rw [Placeholder.pieces] at here
        split at here
        · simp at here
        · next named =>
            cases List.mem_singleton.1 here
            exact ⟨isMatch_of_placeholderAt? found,
              (isNameless_eq_false_iff p).1 (Bool.eq_false_iff.2 named)⟩
      · exact ih later
  | case2 => cases h
  | case3 d s found ih =>
      rcases List.mem_cons.1 h with here | later
      · cases here
      · exact ih later

end Fabricate.Template
