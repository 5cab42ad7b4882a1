import Fabricate.Text.Blank

/-!
# Cuts of texts

What trimming and splitting give, said as equations between a text and its parts: a trimmed text
is the text without blanks at its ends (`IsTrim`), and the parts between separators make up the
text again when the separators are put back (`IsSplit`).

The length in bytes is additive and counts the bytes of the text in UTF-8, so two cuts of a text at
the same byte are the same cut (`eq_of_append_eq_append`).
-/

namespace Fabricate.Text

/-- `t` is `cs` without the blanks at its ends. -/
structure IsTrim (t cs : List Char) : Prop where
  parts : ∃ a b, cs = a ++ t ++ b ∧ (∀ c ∈ a, isBlank c = true) ∧ (∀ c ∈ b, isBlank c = true)
  head : ∀ c, t.head? = some c → isBlank c = false
  last : ∀ c, t.getLast? = some c → isBlank c = false

/-- `parts` are what stands between the separators of `cs`, in order. -/
structure IsSplit (sep : Char) (parts : List (List Char)) (cs : List Char) : Prop where
  join : [sep].intercalate parts = cs
  free : ∀ part ∈ parts, sep ∉ part
  ne_nil : parts ≠ []

/-! ### Runs of characters -/

theorem takeWhile_append {p : Char → Bool} {cs rest : List Char} (inside : ∀ c ∈ cs, p c = true)
    (ends : ∀ c, rest.head? = some c → p c = false) : (cs ++ rest).takeWhile p = cs := by
  rw [List.takeWhile_append_of_pos inside]
  cases rest with
  | nil => simp
  | cons c r => rw [List.takeWhile_cons_of_neg (by simp [ends c rfl]), List.append_nil]

theorem dropWhile_append {p : Char → Bool} {cs rest : List Char} (inside : ∀ c ∈ cs, p c = true)
    (ends : ∀ c, rest.head? = some c → p c = false) : (cs ++ rest).dropWhile p = rest := by
  rw [List.dropWhile_append_of_pos inside]
  cases rest with
  | nil => rfl
  | cons c r => rw [List.dropWhile_cons_of_neg (by simp [ends c rfl])]

/-- A run of characters ends where the others begin. -/
theorem run_append_inj {p : Char → Bool} {a b rest rest' : List Char}
    (inside : ∀ c ∈ a, p c = true) (inside' : ∀ c ∈ b, p c = true)
    (ends : ∀ c, rest.head? = some c → p c = false)
    (ends' : ∀ c, rest'.head? = some c → p c = false) (h : a ++ rest = b ++ rest') :
    a = b ∧ rest = rest' := by
  constructor
  · rw [← takeWhile_append inside ends, h, takeWhile_append inside' ends']
  · rw [← dropWhile_append inside ends, h, dropWhile_append inside' ends']

/-- Texts that start differently are told apart whatever follows. -/
theorem head?_toList_append {a : String} {c : Char} (first : a.toList.head? = some c) (b : String) :
    (a ++ b).toList.head? = some c := by
  rw [String.toList_append, List.head?_append, first, Option.some_or]

/-! ### Trimming -/

theorem trimStart_parts (cs : List Char) :
    ∃ a, cs = a ++ trimStart cs ∧ ∀ c ∈ a, isBlank c = true := by
  refine ⟨cs.takeWhile isBlank, List.takeWhile_append_dropWhile.symm, ?_⟩
  exact List.all_eq_true.1 List.all_takeWhile

theorem trimEnd_parts (cs : List Char) :
    ∃ b, cs = trimEnd cs ++ b ∧ ∀ c ∈ b, isBlank c = true := by
  obtain ⟨a, split, blank⟩ := trimStart_parts cs.reverse
  refine ⟨a.reverse, ?_, ?_⟩
  · have back := congrArg List.reverse split
    rwa [List.reverse_reverse, List.reverse_append] at back
  · intro c hc
    exact blank c (List.mem_reverse.1 hc)

theorem head?_trimStart {cs : List Char} {c : Char} (h : (trimStart cs).head? = some c) :
    isBlank c = false := by
  have stopped := List.head?_dropWhile_not isBlank cs
  rw [trimStart] at h
  rw [h] at stopped
  exact stopped

theorem getLast?_trimEnd {cs : List Char} {c : Char} (h : (trimEnd cs).getLast? = some c) :
    isBlank c = false := by
  rw [trimEnd, List.getLast?_reverse] at h
  exact head?_trimStart h

theorem isTrim_trim (cs : List Char) : IsTrim (trim cs) cs := by
  obtain ⟨a, left, blankLeft⟩ := trimStart_parts cs
  obtain ⟨b, right, blankRight⟩ := trimEnd_parts (trimStart cs)
  refine ⟨⟨a, b, ?_, blankLeft, blankRight⟩, ?_, fun c hc => getLast?_trimEnd hc⟩
  · rw [List.append_assoc, trim, ← right, ← left]
  · intro c hc
    refine @head?_trimStart cs c ?_
    rw [right, List.head?_append, ← trim, hc]
    rfl

theorem trim_eq_nil_iff (cs : List Char) : trim cs = [] ↔ ∀ c ∈ cs, isBlank c = true := by
  obtain ⟨⟨a, b, split, blankLeft, blankRight⟩, head, -⟩ := isTrim_trim cs
  constructor
  · intro empty c hc
    rw [split, empty, List.append_nil] at hc
    rcases List.mem_append.1 hc with left | right
    · exact blankLeft c left
    · exact blankRight c right
  · intro blank
    cases kept : trim cs with
    | nil => rfl
    | cons c r =>
        have here : c ∈ cs := by
          rw [split, kept]
          simp
        have solid := head c (by rw [kept]; rfl)
        rw [blank c here] at solid
        cases solid

/-- A text that does not start with a blank keeps its start. -/
theorem trimStart_cons {c : Char} (h : isBlank c = false) (r : List Char) :
    trimStart (c :: r) = c :: r :=
  List.dropWhile_cons_of_neg (by simp [h])

theorem trimStart_eq_self {cs : List Char} (head : ∀ c, cs.head? = some c → isBlank c = false) :
    trimStart cs = cs := by
  cases cs with
  | nil => rfl
  | cons c r => exact trimStart_cons (head c rfl) r

/-- A text that starts and ends with characters that are not blank is its own trimmed form. -/
theorem trim_eq_self {cs : List Char} (head : ∀ c, cs.head? = some c → isBlank c = false)
    (last : ∀ c, cs.getLast? = some c → isBlank c = false) : trim cs = cs := by
  have kept : cs.reverse.dropWhile isBlank = cs.reverse := by
    refine trimStart_eq_self fun c first => ?_
    rw [List.head?_reverse] at first
    exact last c first
  rw [trim, trimStart_eq_self head, trimEnd, kept, List.reverse_reverse]

/-! ### Splitting -/

/-- What precedes the first separator holds none. -/
theorem splitFirst?_append {sep : Char} {a : List Char} (free : sep ∉ a) (b : List Char) :
    splitFirst? sep (a ++ sep :: b) = some (a, b) := by
  induction a with
  | nil => rw [List.nil_append, splitFirst?, if_pos rfl]
  | cons c a ih =>
      rw [List.mem_cons, not_or] at free
      rw [List.cons_append, splitFirst?, if_neg (Ne.symm free.1), ih free.2]
      rfl

theorem splitAll_ne_nil (sep : Char) (cs : List Char) : splitAll sep cs ≠ [] := by
  cases cs with
  | nil => simp [splitAll]
  | cons c r =>
      rw [splitAll]
      split
      · simp
      · split <;> simp

theorem isSplit_splitAll (sep : Char) (cs : List Char) : IsSplit sep (splitAll sep cs) cs := by
  induction cs with
  | nil => exact ⟨rfl, by simp [splitAll], splitAll_ne_nil sep []⟩
  | cons c r ih =>
      obtain ⟨join, free, -⟩ := ih
      refine ⟨?_, ?_, splitAll_ne_nil sep (c :: r)⟩
      · rw [splitAll]
        cases parts : splitAll sep r with
        | nil => exact absurd parts (splitAll_ne_nil sep r)
        | cons p ps =>
            rw [parts] at join
            split
            · next same =>
                rw [← join, same]
                rfl
            · rw [← join]
              cases ps <;> rfl
      · rw [splitAll]
        cases parts : splitAll sep r with
        | nil => exact absurd parts (splitAll_ne_nil sep r)
        | cons p ps =>
            rw [parts] at free
            split
            · intro part member
              rcases List.mem_cons.1 member with rfl | later
              · simp
              · exact free part later
            · next other =>
                intro part member
                rcases List.mem_cons.1 member with rfl | later
                · have first := free p List.mem_cons_self
                  simp [first, Ne.symm other]
                · exact free part (List.mem_cons_of_mem _ later)

/-- A text has one cut at its separators. -/
theorem IsSplit.eq_splitAll {sep : Char} {parts : List (List Char)} {cs : List Char}
    (h : IsSplit sep parts cs) : splitAll sep cs = parts := by
  have unique : ∀ {ps : List (List Char)}, IsSplit sep ps cs → cs.splitOn sep = ps := by
    rintro ps ⟨rfl, free, ne_nil⟩
    exact List.splitOn_intercalate sep free ne_nil
  rw [← unique (isSplit_splitAll sep cs), unique h]

/-! ### Lengths in bytes -/

theorem byteLength_append (a b : List Char) :
    byteLength (a ++ b) = byteLength a + byteLength b := by
  induction a with
  | nil => simp [byteLength]
  | cons c a ih =>
      rw [List.cons_append, byteLength, byteLength, ih]
      omega

theorem utf8ByteSize_ofList (cs : List Char) :
    (String.ofList cs).utf8ByteSize = byteLength cs := by
  induction cs with
  | nil => rfl
  | cons c r ih =>
      have split : String.ofList (c :: r) = String.singleton c ++ String.ofList r := by
        rw [String.singleton_eq_ofList, ← String.ofList_append]
        rfl
      rw [split, String.utf8ByteSize_append, String.utf8ByteSize_singleton, ih, byteLength]

theorem eq_of_append_eq_append {a b x y : List Char} (h : a ++ x = b ++ y)
    (length : byteLength a = byteLength b) : a = b ∧ x = y := by
  induction a generalizing b with
  | nil =>
      cases b with
      | nil => exact ⟨rfl, h⟩
      | cons c b =>
          have := c.utf8Size_pos
          simp only [byteLength] at length
          omega
  | cons c a ih =>
      cases b with
      | nil =>
          have := c.utf8Size_pos
          simp only [byteLength] at length
          omega
      | cons d b =>
          rw [List.cons_append, List.cons_append, List.cons.injEq] at h
          obtain ⟨rfl, rest⟩ := h
          rw [byteLength, byteLength, Nat.add_left_cancel_iff] at length
          obtain ⟨rfl, same⟩ := ih rest length
          exact ⟨rfl, same⟩

end Fabricate.Text
