import Fabricate.Text.Blank

/-!
# Placeholders

A placeholder stands between doubled braces: a generator's name, bare or in brackets, and after a
colon the parameters, which may hold a lone brace but no two braces in a row and no brace at the
end. Everything else is literal text, doubled braces that fit no placeholder and those around a
blank name included.

The grammar is given as a pattern, whose matches are sought from left to right, where alternatives
are tried in order and every repetition goes as far as it can. With `N` for `[^\[\]{}:]` it is

    \{\{(?:\[(?P<array>N*)\]|(?P<name>N*))(?::(?P<params>(?:[^{}]|\{[^{}]|\}[^{}])*))?\}\}

`placeholderAt?` reads a match at the start of the characters in one pass and goes back nowhere,
since no other choice could match. A bare name holds no bracket, so one after the opening braces
starts the first alternative. A name that is cut short is followed by another character of it, where
a bracket, a colon or a brace has to come, and parameters that are left out are followed by their
colon. Parameters that are cut short are followed by a character that is no brace or by a brace with
such a character after it, and so not by the closing braces.

`pieces` cuts a text into literal characters and placeholders, from left to right and without
overlap. A placeholder keeps what stands between its braces, so its written form can be read off it
and the written forms of the pieces make up the text (`pieces_written`). The place of a placeholder
is therefore the length of what is written before it, counted in bytes of UTF-8.
-/

namespace Fabricate.Template

/-- How a placeholder is written. -/
inductive Shape where
  /-- A name alone. -/
  | scalar
  /-- A name with parameters. -/
  | parameterized
  /-- A name in brackets, which stands for a row of values. -/
  | array
  deriving DecidableEq

/-- What stands between the doubled braces: the text of the name, whether it is in brackets, and the
text after the colon, if there is one. -/
structure Placeholder where
  bracketed : Bool
  nameText : List Char
  paramText : Option (List Char)
  deriving DecidableEq

namespace Placeholder

/-- The shape, as brackets and colon say. -/
def shape (p : Placeholder) : Shape :=
  if p.bracketed then .array else if p.paramText.isSome then .parameterized else .scalar

/-- Whether the placeholder stands for a row of values. -/
def isArray (p : Placeholder) : Bool :=
  p.bracketed

/-- The generator's name. -/
def name (p : Placeholder) : String :=
  String.ofList (Text.trim p.nameText)

/-- Whether the name is blank, so that this is no placeholder after all. -/
def isNameless (p : Placeholder) : Bool :=
  (Text.trim p.nameText).isEmpty

/-- The raw parameters: the trimmed pieces between commas that are not empty. -/
def params (p : Placeholder) : List String :=
  match p.paramText with
  | none => []
  | some cs =>
      (((Text.splitAll ',' cs).map Text.trim).filter fun piece => !piece.isEmpty).map String.ofList

/-- The name with its brackets. -/
def head (p : Placeholder) : List Char :=
  if p.bracketed then '[' :: (p.nameText ++ [']']) else p.nameText

/-- A parameter text with its colon; nothing when there is none. -/
def afterColon : Option (List Char) → List Char
  | none => []
  | some cs => ':' :: cs

/-- The written form, braces included. -/
def written (p : Placeholder) : List Char :=
  '\x7b' :: '\x7b' :: (p.head ++ afterColon p.paramText ++ ['\x7d', '\x7d'])

end Placeholder

/-- An opening or a closing brace. -/
def isBrace (c : Char) : Bool :=
  c = '\x7b' || c = '\x7d'

/-- The characters a name may hold: all but braces, brackets and the colon. -/
def isNameChar (c : Char) : Bool :=
  !(isBrace c || c = '[' || c = ']' || c = ':')

/-- The longest parameter text at the start of the characters, and the rest. A brace belongs to it
only together with a character after it that is none. -/
def splitParams : List Char → List Char × List Char
  | [] => ([], [])
  | [c] => if isBrace c then ([], [c]) else ([c], [])
  | c :: d :: r =>
      if isBrace c then
        if isBrace d then ([], c :: d :: r)
        else
          let (ps, left) := splitParams r
          (c :: d :: ps, left)
      else
        let (ps, left) := splitParams (d :: r)
        (c :: ps, left)

/-- The parameters after a colon, if there is one, and the rest. -/
def paramsAt : List Char → Option (List Char) × List Char
  | ':' :: r => (some (splitParams r).1, (splitParams r).2)
  | cs => (none, cs)

/-- The name at the start of the characters, whether it is in brackets, and the rest; none when a
bracket is not closed. -/
def nameAt? : List Char → Option (Bool × List Char × List Char)
  | '[' :: r =>
      match r.dropWhile isNameChar with
      | ']' :: left => some (true, r.takeWhile isNameChar, left)
      | _ => none
  | cs => some (false, cs.takeWhile isNameChar, cs.dropWhile isNameChar)

/-- The placeholder, nameless ones included, that the characters start with, and the rest: the match
of the pattern there, which is the only one. -/
def placeholderAt? : List Char → Option (Placeholder × List Char)
  | '\x7b' :: '\x7b' :: cs =>
      match nameAt? cs with
      | none => none
      | some (bracketed, nameText, r) =>
          match (paramsAt r).2 with
          | '\x7d' :: '\x7d' :: left => some (⟨bracketed, nameText, (paramsAt r).1⟩, left)
          | _ => none
  | _ => none

theorem splitParams_append (cs : List Char) : (splitParams cs).1 ++ (splitParams cs).2 = cs := by
  fun_induction splitParams cs <;> simp_all

theorem paramsAt_append (cs : List Char) :
    Placeholder.afterColon (paramsAt cs).1 ++ (paramsAt cs).2 = cs := by
  fun_cases paramsAt cs <;> simp_all [Placeholder.afterColon, splitParams_append]

theorem nameAt?_append {cs name left : List Char} {bracketed : Bool}
    (h : nameAt? cs = some (bracketed, name, left)) :
    (if bracketed then '[' :: (name ++ [']']) else name) ++ left = cs := by
  unfold nameAt? at h
  split at h
  · next r =>
    split at h
    · next left' hd =>
      simp only [Option.some.injEq, Prod.mk.injEq] at h
      obtain ⟨rfl, rfl, rfl⟩ := h
      have := List.takeWhile_append_dropWhile (p := isNameChar) (l := r)
      rw [hd] at this
      simpa using this
    · simp at h
  · simp only [Option.some.injEq, Prod.mk.injEq] at h
    obtain ⟨rfl, rfl, rfl⟩ := h
    simp

/-- The characters that a placeholder was read from are its written form. -/
theorem written_append_of_placeholderAt? {cs left : List Char} {p : Placeholder}
    (h : placeholderAt? cs = some (p, left)) : p.written ++ left = cs := by
  unfold placeholderAt? at h
  split at h
  · next r =>
    split at h
    · simp at h
    · next bracketed name s hn =>
      split at h
      · next left' hp =>
        simp only [Option.some.injEq, Prod.mk.injEq] at h
        obtain ⟨rfl, rfl⟩ := h
        have h1 := nameAt?_append hn
        have h2 := paramsAt_append s
        rw [hp] at h2
        simp only [Placeholder.written, Placeholder.head, List.cons_append,
          List.append_assoc, List.nil_append, List.cons.injEq, true_and]
        rw [h2, h1]
      · simp at h
  · simp at h

/-- A literal character or a placeholder. -/
inductive Piece where
  | literal (c : Char)
  | placeholder (p : Placeholder)
  deriving DecidableEq

/-- The characters that the piece was read from. -/
def Piece.written : Piece → List Char
  | .literal c => [c]
  | .placeholder p => p.written

/-- The placeholder, if the piece is one. -/
def Piece.placeholder? : Piece → Option Placeholder
  | .literal _ => none
  | .placeholder p => some p

/-- Whether the piece is a blank character. -/
def Piece.isBlank : Piece → Bool
  | .literal c => Text.isBlank c
  | .placeholder _ => false

/-- What a placeholder becomes: itself, or literal characters when it is nameless. -/
def Placeholder.pieces (p : Placeholder) : List Piece :=
  if p.isNameless then p.written.map .literal else [.placeholder p]

/-- The pieces of a text, from left to right. -/
def pieces (cs : List Char) : List Piece :=
  match h : placeholderAt? cs with
  | some (p, left) =>
      have : left.length < cs.length := by
        rw [← written_append_of_placeholderAt? h]
        simp only [Placeholder.written, List.cons_append, List.length_cons, List.length_append]
        omega
      p.pieces ++ pieces left
  | none =>
      match cs with
      | [] => []
      | c :: r => .literal c :: pieces r
termination_by cs.length

/-- The written forms of the pieces make up the text. -/
theorem pieces_written (cs : List Char) : (pieces cs).flatMap Piece.written = cs := by
  fun_induction pieces cs with
  | case1 cs p left h _ ih =>
    rw [List.flatMap_append, ih, ← written_append_of_placeholderAt? h]
    congr 1
    unfold Placeholder.pieces
    split
    · rw [List.flatMap_map]; simp [Piece.written, List.flatMap_singleton']
    · simp [Piece.written]
  | case2 => rfl
  | case3 c r _ ih => simp [Piece.written, ih]

/-- The placeholders among the pieces, in order. -/
def placeholders (ps : List Piece) : List Placeholder :=
  ps.filterMap Piece.placeholder?

/-- The placeholder that is the only content of the text up to blanks, if there is one. -/
def standalone? (ps : List Piece) : Option Placeholder :=
  match placeholders ps with
  | [p] => if ps.all fun piece => piece.isBlank || piece.placeholder?.isSome then some p else none
  | _ => none

/-- A placeholder and the bytes of the text that it takes. -/
structure Token where
  placeholder : Placeholder
  start : Nat
  stop : Nat
  deriving DecidableEq

/-- The placeholders among the pieces with their places, when the first piece starts at the given
byte. -/
def tokensFrom (start : Nat) : List Piece → List Token
  | [] => []
  | .literal c :: ps => tokensFrom (start + c.utf8Size) ps
  | .placeholder p :: ps =>
      let stop := start + Text.byteLength p.written
      ⟨p, start, stop⟩ :: tokensFrom stop ps

/-- The placeholders of a text with their places. -/
def tokens (text : String) : List Token :=
  tokensFrom 0 (pieces text.toList)

end Fabricate.Template
