import Mathlib.Data.List.TakeDrop
import Fabricate.Csv.Sink

/-!
# What a sink holds

A sink has room for a beginning of what it is offered, which is all of it when there is enough room
(`Sink.part`). How many bytes it takes at once does not matter: each offer moves a few bytes of that
beginning into the sink and counts them, so in the end the sink holds and has counted just the
beginning (`Counter.writeAll_eq`). Neither does it matter how the bytes are cut into blocks
(`Counter.writeBlocks_eq`).

So a table is written exactly when there is room for its text, and otherwise the sink is full of the
beginning of the text (`writes_are_exact`).
-/

namespace Fabricate.Csv

open Json

/-- The beginning of some bytes for which the sink has room. -/
def Sink.part (s : Sink) (bytes : List UInt8) : List UInt8 :=
  match s.capacity with
  | none => bytes
  | some capacity => bytes.take (capacity - s.held.size)

/-! ### Room -/

theorem Sink.length_part_le (s : Sink) (bytes : List UInt8) :
    (s.part bytes).length ≤ bytes.length := by
  unfold part
  cases s.capacity with
  | none => exact Nat.le_refl _
  | some capacity => exact List.length_take_le' _ _

namespace Counter

theorem took_nil (c : Counter) : c.took [] = c := by
  simp [took]

theorem size_took (c : Counter) (bytes : List UInt8) :
    (c.took bytes).sink.held.size = c.sink.held.size + bytes.length := by
  rw [← Array.length_toList]
  simp [took]

theorem took_took (c : Counter) (a b : List UInt8) : (c.took a).took b = c.took (a ++ b) := by
  have held : c.sink.held ++ a ++ b = c.sink.held ++ (a ++ b) := Array.ext' (by simp)
  simp [took, held, Nat.add_assoc]

/-- The room for bytes behind others is what the first ones leave. -/
theorem part_append (c : Counter) (a b : List UInt8) :
    c.sink.part (a ++ b) = c.sink.part a ++ (c.took a).sink.part b := by
  unfold Sink.part
  cases bounded : c.sink.capacity with
  | none => simp [took, bounded]
  | some capacity =>
      have same : (c.took a).sink.capacity = some capacity := bounded
      rw [same]
      dsimp only
      rw [size_took, List.take_append, Nat.sub_add_eq]

theorem part_append_eq_iff {c : Counter} {a : List UInt8} (fits : c.sink.part a = a)
    (b : List UInt8) : c.sink.part (a ++ b) = a ++ b ↔ (c.took a).sink.part b = b := by
  rw [part_append, fits, List.append_cancel_left_eq]

/-- Behind bytes for which there is not enough room there is room for nothing. -/
theorem part_took_of_not_fits {c : Counter} {a : List UInt8} (h : c.sink.part a ≠ a)
    (b : List UInt8) : (c.took a).sink.part b = [] := by
  unfold Sink.part at h ⊢
  cases bounded : c.sink.capacity with
  | none => exact absurd (by rw [bounded]) h
  | some capacity =>
      have same : (c.took a).sink.capacity = some capacity := bounded
      rw [bounded] at h
      dsimp only at h
      rw [ne_eq, List.take_eq_self_iff] at h
      rw [same]
      dsimp only
      rw [size_took, List.take_eq_nil_iff]
      omega

/-- What is taken of an offer fits. -/
theorem part_take_accepts (c : Counter) (bytes : List UInt8) :
    c.sink.part (bytes.take (c.sink.accepts bytes.length)) =
      bytes.take (c.sink.accepts bytes.length) := by
  unfold Sink.part Sink.accepts
  cases c.sink.capacity with
  | none => rfl
  | some capacity =>
      dsimp only
      rw [List.take_eq_self_iff, List.length_take]
      omega

/-- Where nothing is taken, there is room for nothing. -/
theorem part_of_accepts_eq_zero {c : Counter} (takes : 0 < c.sink.chunk) {bytes : List UInt8}
    (h : c.sink.accepts bytes.length = 0) : c.sink.part bytes = [] := by
  unfold Sink.accepts at h
  unfold Sink.part
  cases bounded : c.sink.capacity with
  | none =>
      rw [bounded] at h
      dsimp only at h ⊢
      exact List.length_eq_zero_iff.1 (by omega)
  | some capacity =>
      rw [bounded] at h
      dsimp only at h ⊢
      rw [List.take_eq_nil_iff, ← List.length_eq_zero_iff]
      omega

/-! ### Runs -/

/-- Bytes are written as far as there is room for them, and counted. -/
theorem writeAll_eq {c : Counter} (takes : 0 < c.sink.chunk) (bytes : List UInt8) :
    c.writeAll bytes =
      (if c.sink.part bytes = bytes then none else some .full, c.took (c.sink.part bytes)) := by
  induction length : bytes.length using Nat.strongRecOn generalizing c bytes with
  | ind n ih =>
      rw [writeAll]
      split
      · next done =>
          have nothing : c.sink.part bytes = bytes := by
            have := c.sink.length_part_le bytes
            rw [List.length_eq_zero_iff.1 done] at this ⊢
            exact List.length_eq_zero_iff.1 (Nat.le_zero.1 this)
          rw [if_pos nothing, nothing, List.length_eq_zero_iff.1 done, took_nil]
      · next left =>
          split
          · next full =>
              have none := part_of_accepts_eq_zero takes full
              have some : c.sink.part bytes ≠ bytes := by
                rw [none]
                rintro rfl
                exact left rfl
              rw [if_neg some, none, took_nil]
          · next room =>
              -- The offer takes a beginning that fits, and the rest is written behind it.
              have shorter : (bytes.drop (c.sink.accepts bytes.length)).length < n := by
                rw [List.length_drop]
                omega
              have whole := part_append c (bytes.take (c.sink.accepts bytes.length))
                (bytes.drop (c.sink.accepts bytes.length))
              rw [List.take_append_drop, part_take_accepts] at whole
              have same := part_append_eq_iff (part_take_accepts c bytes)
                (bytes.drop (c.sink.accepts bytes.length))
              rw [List.take_append_drop] at same
              dsimp only
              rw [ih _ shorter (by exact takes) _ rfl, took_took, ← whole]
              simp only [same]

/-- Blocks are written as their bytes in a row. -/
theorem writeBlocks_eq {c : Counter} (takes : 0 < c.sink.chunk) (blocks : List (List UInt8)) :
    c.writeBlocks blocks =
      (if c.sink.part blocks.flatten = blocks.flatten then none else some .full,
        c.took (c.sink.part blocks.flatten)) := by
  induction blocks generalizing c with
  | nil =>
      have nothing : c.sink.part [] = [] :=
        List.length_eq_zero_iff.1 (Nat.le_zero.1 (c.sink.length_part_le []))
      rw [writeBlocks, List.flatten_nil, if_pos nothing, nothing, took_nil]
  | cons block blocks ih =>
      rw [writeBlocks, writeAll_eq takes, List.flatten_cons]
      by_cases fits : c.sink.part block = block
      · rw [if_pos fits, fits]
        dsimp only
        rw [ih (by exact takes), took_took]
        have same := part_append_eq_iff fits blocks.flatten
        simp only [same]
        rw [part_append, fits]
      · have cut : c.sink.part block ≠ block ++ blocks.flatten := by
          intro same
          have short := c.sink.length_part_le block
          rw [same, List.length_append] at short
          have none : blocks.flatten = [] := List.length_eq_zero_iff.1 (by omega)
          rw [none, List.append_nil] at same
          exact fits same
        rw [if_neg fits, part_append, part_took_of_not_fits fits, List.append_nil, if_neg cut]

end Counter

/-! ### Tables -/

/-- No byte is lost between the buffers. -/
theorem flatten_buffers (size : Nat) (bytes : List UInt8) :
    (buffers size bytes).flatten = bytes := by
  induction length : bytes.length using Nat.strongRecOn generalizing bytes with
  | ind n ih =>
      rw [buffers]
      split
      · simp
      · next more =>
          have shorter : (bytes.drop size).length < n := by
            rw [List.length_drop]
            omega
          rw [List.flatten_cons, ih _ shorter _ rfl, List.take_append_drop]

/-- Whatever the blocks are, as much of their bytes is delivered as there is room for. -/
theorem deliver_eq {s : Sink} (takes : 0 < s.chunk) {blocks : List (List UInt8)}
    {text : List UInt8} (whole : blocks.flatten = text) :
    deliver blocks s =
      (if s.part text = text then .ok text.length else .error (.csv "writer is full"),
        { s with held := s.held ++ s.part text }) := by
  rw [deliver, Counter.writeBlocks_eq (by exact takes), whole]
  have start : (Counter.start s).sink = s := rfl
  rw [start]
  by_cases fits : s.part text = text
  · rw [if_pos fits, if_pos fits, fits]
    simp [Counter.start, Counter.took]
  · rw [if_neg fits, if_neg fits]
    rfl

/-- A sink without a capacity takes the whole text of a table. -/
theorem write_of_unlimited {s : Sink} (free : s.capacity = none) (takes : 0 < s.chunk)
    (documents : List Value) :
    write documents s =
      (.ok (ofDocuments documents).toUTF8.toList.length,
        { s with held := s.held ++ (ofDocuments documents).toUTF8.toList }) := by
  have all : s.part (ofDocuments documents).toUTF8.toList =
      (ofDocuments documents).toUTF8.toList := by
    rw [Sink.part, free]
  rw [write, deliver_eq takes (flatten_buffers _ _), if_pos all, all]

/-- How a text fares with a sink of some capacity: it is held and counted when there is room for it,
and otherwise the writer fails and the sink is full of the beginning of the text. -/
structure Exact (text : List UInt8) (capacity : Nat) (result : Except Failure Nat × Sink) :
    Prop where
  ok_iff : (∃ n, result.1 = .ok n) ↔ text.length ≤ capacity
  whole : ∀ n, result.1 = .ok n → n = text.length ∧ result.2.held.toList = text
  cut : ∀ f, result.1 = .error f → f = .csv "writer is full" ∧
    result.2.held.toList <+: text ∧ result.2.held.size = capacity

theorem exact_deliver {chunk : Nat} (takes : 0 < chunk) (capacity : Nat)
    {blocks : List (List UInt8)} {text : List UInt8} (whole : blocks.flatten = text) :
    Exact text capacity (deliver blocks ⟨chunk, some capacity, #[]⟩) := by
  have part : (⟨chunk, some capacity, #[]⟩ : Sink).part text = text.take capacity := rfl
  rw [deliver_eq (by exact takes) whole, part]
  by_cases fits : text.length ≤ capacity
  · rw [if_pos (List.take_of_length_le fits)]
    refine ⟨iff_of_true ⟨_, rfl⟩ fits, fun n same => ?_, nofun⟩
    cases same
    exact ⟨rfl, by simp [List.take_of_length_le fits]⟩
  · rw [if_neg (mt (List.take_eq_self_iff text).1 fits)]
    refine ⟨iff_of_false nofun fits, nofun, fun f same => ?_⟩
    cases same
    refine ⟨rfl, ?_, ?_⟩
    · simpa using List.take_prefix capacity text
    · rw [← Array.length_toList]
      simp only [Array.toList_appendList, List.nil_append, List.length_take]
      omega

/-- A table is written into a sink exactly when its text fits, however few bytes the sink takes at
once and however the text is cut into blocks. The bytes are then all held and counted, and otherwise
those are held that come first. -/
theorem writes_are_exact (documents : List Value) {chunk : Nat} (takes : 0 < chunk)
    (capacity : Nat) :
    let text := (ofDocuments documents).toUTF8.toList
    Exact text capacity (write documents ⟨chunk, some capacity, #[]⟩) ∧
      ∀ blocks : List (List UInt8), blocks.flatten = text →
        Exact text capacity (deliver blocks ⟨chunk, some capacity, #[]⟩) :=
  ⟨exact_deliver takes capacity (flatten_buffers _ _), fun _ => exact_deliver takes capacity⟩

/-- A table of seven bytes is cut in a sink with room for five, which takes two of them at once. So
it is when it comes in two blocks. -/
theorem writes_are_exact_cut :
    let documents : List Value := [.object [("a", .bool true)]]
    let text := "a\ntrue\n".toUTF8.toList
    let sink : Sink := ⟨2, some 5, #[]⟩
    0 < 2 ∧ (ofDocuments documents).toUTF8.toList = text ∧
      (write documents sink).1 = .error (.csv "writer is full") ∧
      (write documents sink).2.held.toList <+: text ∧ (write documents sink).2.held.size = 5 ∧
      [text.take 4, text.drop 4].flatten = text ∧
      Exact text 5 (deliver [text.take 4, text.drop 4] sink) := by
  intro documents text sink
  have written : (ofDocuments documents).toUTF8.toList = text := by decide +kernel
  have length : text.length = 7 := by decide +kernel
  have positive : 0 < 2 := by decide
  have blocks : [text.take 4, text.drop 4].flatten = text := by simp
  obtain ⟨result, delivered⟩ := writes_are_exact documents positive 5
  rw [written] at result delivered
  refine ⟨positive, written, ?_⟩
  cases answer : (write documents sink).1 with
  | ok n =>
      have short := result.ok_iff.1 ⟨n, answer⟩
      omega
  | error f =>
      obtain ⟨rfl, beginning, size⟩ := result.cut f answer
      exact ⟨rfl, beginning, size, blocks, delivered _ blocks⟩

end Fabricate.Csv
