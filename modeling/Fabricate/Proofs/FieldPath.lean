import Fabricate.Proofs.Decimal.Integer
import Fabricate.Proofs.Template.Leaf
import Fabricate.Proofs.Text.Cut

/-!
# Places and their paths

A path is read back step by step: a key ends where a dot or a bracket begins, and an index ends with
its digits. So a path that has left the root tells the steps that were taken since
(`flatMap_text_injective`), as long as no key holds a dot or an opening bracket.

A step by the empty key from the root stays there, and so do the empty keys behind it. They leave no
trace in a path: two paths are equal exactly when the same steps are left without them
(`ofSteps_text_eq_iff`). The root has a label of its own, which is that of the key `template`.
-/

namespace Fabricate

namespace Step

/-- A step whose key holds neither a dot nor an opening bracket. -/
def IsPlain : Step → Prop
  | .key name => '.' ∉ name.toList ∧ '[' ∉ name.toList
  | .index _ => True

instance : DecidablePred IsPlain
  | .key name => inferInstanceAs <| Decidable <| '.' ∉ name.toList ∧ '[' ∉ name.toList
  | .index _ => inferInstanceAs <| Decidable True

/-- What a step adds to a path that has left the root. -/
def text : Step → List Char
  | .key name => '.' :: name.toList
  | .index i => '[' :: Decimal.ofNat i ++ [']']

/-- The steps from the first one on that leaves the root. -/
def entered (steps : List Step) : List Step :=
  steps.dropWhile (· = .key "")

/-- The path of steps of which the first one leaves the root. -/
def rowText : List Step → List Char
  | [] => []
  | .key name :: rest => name.toList ++ rest.flatMap text
  | .index i :: rest => text (.index i) ++ rest.flatMap text

/-! ### Reading back -/

theorem head?_flatMap_text {steps : List Step} {c : Char}
    (h : (steps.flatMap text).head? = some c) : c = '.' ∨ c = '[' := by
  cases steps with
  | nil => cases h
  | cons step rest =>
      cases step with
      | key name =>
          cases h
          exact .inl rfl
      | index i =>
          cases h
          exact .inr rfl

/-- A plain key ends where the next step begins. -/
theorem key_append_inj {name other : String} {a b : List Step} (plain : (key name).IsPlain)
    (plain' : (key other).IsPlain)
    (h : name.toList ++ a.flatMap text = other.toList ++ b.flatMap text) :
    name = other ∧ a.flatMap text = b.flatMap text := by
  have inside : ∀ {name : String}, (key name).IsPlain →
      ∀ c ∈ name.toList, (decide (c ≠ '.') && decide (c ≠ '[')) = true := by
    intro name plain c member
    rw [Bool.and_eq_true, decide_eq_true_eq, decide_eq_true_eq]
    exact ⟨fun same => plain.1 (same ▸ member), fun same => plain.2 (same ▸ member)⟩
  have ends : ∀ (steps : List Step) (c : Char), (steps.flatMap text).head? = some c →
      (decide (c ≠ '.') && decide (c ≠ '[')) = false := by
    intro steps c first
    rcases head?_flatMap_text first with rfl | rfl <;> rfl
  obtain ⟨same, rest⟩ := Text.run_append_inj (inside plain) (inside plain') (ends a) (ends b) h
  exact ⟨String.toList_inj.1 same, rest⟩

/-- An index ends with its digits. -/
theorem index_append_inj {i j : Nat} {a b : List Char}
    (h : text (.index i) ++ a = text (.index j) ++ b) : i = j ∧ a = b := by
  have digits : ∀ i, ∀ c ∈ Decimal.ofNat i, c.isDigit = true := fun i _ =>
    Decimal.isDigit_of_mem_ofNat
  have ends : ∀ (a : List Char) (c : Char), (']' :: a).head? = some c → c.isDigit = false := by
    rintro a c ⟨⟩
    rfl
  have inner : Decimal.ofNat i ++ ']' :: a = Decimal.ofNat j ++ ']' :: b := by
    simpa [text] using h
  obtain ⟨same, rest⟩ := Text.run_append_inj (digits i) (digits j) (ends a) (ends b) inner
  refine ⟨?_, (List.cons.inj rest).2⟩
  rw [← Decimal.natOf_ofNat i, same, Decimal.natOf_ofNat]

/-- What steps add to a path tells them. -/
theorem flatMap_text_injective {a b : List Step} (plain : ∀ step ∈ a, step.IsPlain)
    (plain' : ∀ step ∈ b, step.IsPlain) (h : a.flatMap text = b.flatMap text) : a = b := by
  induction a generalizing b with
  | nil =>
      cases b with
      | nil => rfl
      | cons step rest => cases step <;> cases h
  | cons step a ih =>
      cases b with
      | nil => cases step <;> cases h
      | cons other b =>
          rw [List.forall_mem_cons] at plain plain'
          rw [List.flatMap_cons, List.flatMap_cons] at h
          cases step with
          | key name =>
              cases other with
              | key name' =>
                  obtain ⟨rfl, rest⟩ := key_append_inj plain.1 plain'.1 (List.cons.inj h).2
                  rw [ih plain.2 plain'.2 rest]
              | index j => exact absurd (List.cons.inj h).1 (by decide)
          | index i =>
              cases other with
              | key name' => exact absurd (List.cons.inj h).1 (by decide)
              | index j =>
                  obtain ⟨rfl, rest⟩ := index_append_inj h
                  rw [ih plain.2 plain'.2 rest]

/-! ### Steps that leave the root -/

theorem entered_cons_of_ne {step : Step} (leaves : step ≠ .key "") (rest : List Step) :
    entered (step :: rest) = step :: rest :=
  List.dropWhile_cons_of_neg (by simpa using leaves)

theorem entered_cons_empty (rest : List Step) : entered (.key "" :: rest) = entered rest :=
  List.dropWhile_cons_of_pos (by simp)

theorem head?_entered (steps : List Step) : (entered steps).head? ≠ some (.key "") := by
  intro first
  have leaves := List.head?_dropWhile_not (fun step => decide (step = .key "")) steps
  rw [← entered, first] at leaves
  simp at leaves

theorem isPlain_of_mem_entered {steps : List Step} (plain : ∀ step ∈ steps, step.IsPlain) :
    ∀ step ∈ entered steps, step.IsPlain := fun step member =>
  plain step ((List.dropWhile_suffix _).subset member)

theorem rowText_eq_nil_iff {steps : List Step} (leaves : steps.head? ≠ some (.key "")) :
    rowText steps = [] ↔ steps = [] := by
  refine ⟨fun none => ?_, fun none => none ▸ rfl⟩
  cases steps with
  | nil => rfl
  | cons step rest =>
      cases step with
      | key name =>
          have empty := String.toList_eq_nil_iff.1 (List.append_eq_nil_iff.1 none).1
          exact absurd (congrArg (fun name => some (key name)) empty) leaves
      | index i => cases none

/-- A plain key that leaves the root does not look like an index. -/
theorem key_append_ne_index {name : String} (plain : (key name).IsPlain) (some : name ≠ "")
    (i : Nat) (a b : List Char) : name.toList ++ a ≠ text (.index i) ++ b := by
  intro same
  cases chars : name.toList with
  | nil => exact some (String.toList_eq_nil_iff.1 chars)
  | cons c r =>
      rw [chars] at same
      obtain rfl : c = '[' := (List.cons.inj same).1
      exact plain.2 (chars ▸ List.mem_cons_self)

/-- A path tells the steps when the first of them leaves the root. -/
theorem rowText_injective {a b : List Step} (plain : ∀ step ∈ a, step.IsPlain)
    (plain' : ∀ step ∈ b, step.IsPlain) (leaves : a.head? ≠ some (.key ""))
    (leaves' : b.head? ≠ some (.key "")) (h : rowText a = rowText b) : a = b := by
  cases a with
  | nil => exact ((rowText_eq_nil_iff leaves').1 h.symm).symm
  | cons step a =>
      cases b with
      | nil => exact (rowText_eq_nil_iff leaves).1 h
      | cons other b =>
          rw [List.forall_mem_cons] at plain plain'
          cases step with
          | key name =>
              cases other with
              | key name' =>
                  obtain ⟨rfl, rest⟩ := key_append_inj plain.1 plain'.1 h
                  rw [flatMap_text_injective plain.2 plain'.2 rest]
              | index j =>
                  have some : name ≠ "" := fun none => leaves (by rw [none]; rfl)
                  exact absurd h (key_append_ne_index plain.1 some j _ _)
          | index i =>
              cases other with
              | key name' =>
                  have some : name' ≠ "" := fun none => leaves' (by rw [none]; rfl)
                  exact absurd h.symm (key_append_ne_index plain'.1 some i _ _)
              | index j =>
                  obtain ⟨rfl, rest⟩ := index_append_inj h
                  rw [flatMap_text_injective plain.2 plain'.2 rest]

end Step

namespace FieldPath

open Step

/-! ### Paths -/

theorem isRoot_iff {p : FieldPath} : p.isRoot = true ↔ p.text.toList = [] := by
  rw [isRoot, String.isEmpty_iff, String.toList_eq_nil_iff]

/-- Below the root every step adds its text. -/
theorem toList_text_step {p : FieldPath} (below : p.text.toList ≠ []) (s : Step) :
    (p.step s).text.toList = p.text.toList ++ s.text := by
  cases s with
  | key name =>
      rw [step, FieldPath.key, if_neg (mt isRoot_iff.1 below)]
      simp [Step.text]
  | index i => simp [step, FieldPath.index, Step.text]

theorem toList_text_foldl {p : FieldPath} (below : p.text.toList ≠ []) (steps : List Step) :
    (steps.foldl step p).text.toList = p.text.toList ++ steps.flatMap Step.text := by
  induction steps generalizing p with
  | nil => simp
  | cons s rest ih =>
      have further : (p.step s).text.toList ≠ [] := by
        rw [toList_text_step below]
        exact List.append_ne_nil_of_left_ne_nil below _
      rw [List.foldl_cons, ih further, toList_text_step below, List.flatMap_cons, List.append_assoc]

theorem ofSteps_entered (steps : List Step) : ofSteps (entered steps) = ofSteps steps := by
  induction steps with
  | nil => rfl
  | cons s rest ih =>
      by_cases stays : s = .key ""
      · rw [stays, entered_cons_empty, ih]
        rfl
      · rw [entered_cons_of_ne stays]

/-- The path of steps is what they add from the first one on that leaves the root. -/
theorem toList_text_ofSteps (steps : List Step) :
    (ofSteps steps).text.toList = rowText (entered steps) := by
  rw [← ofSteps_entered]
  have leaves := head?_entered steps
  revert leaves
  generalize entered steps = left
  intro leaves
  cases left with
  | nil => rfl
  | cons s rest =>
      have first : (root.step s).text.toList = rowText [s] := by
        cases s with
        | key name => simp [step, FieldPath.key, root, isRoot, rowText]
        | index i => simp [step, FieldPath.index, root, Step.text, rowText]
      have below : (root.step s).text.toList ≠ [] := by
        have single : [s].head? ≠ some (.key "") := leaves
        rw [first, ne_eq, rowText_eq_nil_iff single]
        exact List.cons_ne_nil _ _
      rw [ofSteps, List.foldl_cons, toList_text_foldl below, first]
      cases s <;> simp [rowText]

theorem isRoot_ofSteps_iff {steps : List Step} :
    (ofSteps steps).isRoot = true ↔ entered steps = [] := by
  rw [isRoot_iff, toList_text_ofSteps, rowText_eq_nil_iff (head?_entered steps)]

section

variable {a b : List Step} (plain : ∀ step ∈ a, step.IsPlain) (plain' : ∀ step ∈ b, step.IsPlain)

include plain plain'

/-- Paths are equal when the same steps are left without the empty keys in front. -/
theorem ofSteps_text_eq_iff : (ofSteps a).text = (ofSteps b).text ↔ entered a = entered b := by
  rw [← String.toList_inj, toList_text_ofSteps, toList_text_ofSteps]
  exact ⟨rowText_injective (isPlain_of_mem_entered plain) (isPlain_of_mem_entered plain')
    (head?_entered a) (head?_entered b), congrArg rowText⟩

/-- A label is that of another place also when one is the root and the other its `template`. -/
theorem ofSteps_label_eq_iff :
    (ofSteps a).label = (ofSteps b).label ↔
      entered a = entered b ∨ entered a = [] ∧ entered b = [.key "template"] ∨
        entered a = [.key "template"] ∧ entered b = [] := by
  have named : ∀ {steps : List Step}, (∀ step ∈ steps, step.IsPlain) →
      ((ofSteps steps).text = "template" ↔ entered steps = [.key "template"]) := by
    intro steps plain
    have template : ∀ step ∈ [Step.key "template"], step.IsPlain := by
      rw [List.forall_mem_singleton]
      exact ⟨by decide, by decide⟩
    exact ofSteps_text_eq_iff plain template
  unfold label
  by_cases here : (ofSteps a).isRoot = true
  · by_cases there : (ofSteps b).isRoot = true
    · rw [if_pos here, if_pos there, isRoot_ofSteps_iff.1 here, isRoot_ofSteps_iff.1 there]
      exact iff_of_true rfl (.inl rfl)
    · rw [if_pos here, if_neg there, eq_comm, named plain', isRoot_ofSteps_iff.1 here]
      rw [isRoot_ofSteps_iff] at there
      grind
  · by_cases there : (ofSteps b).isRoot = true
    · rw [if_neg here, if_pos there, named plain, isRoot_ofSteps_iff.1 there]
      rw [isRoot_ofSteps_iff] at here
      grind
    · rw [if_neg here, if_neg there, ofSteps_text_eq_iff plain plain']
      rw [isRoot_ofSteps_iff] at here there
      grind

end

end FieldPath

namespace Template

open Json FieldPath

/-! ### Places in a template -/

/-- The value has the text at the place to which the steps lead. -/
inductive TextAt : Value → List Step → String → Prop
  | here (text : String) : TextAt (.string text) [] text
  | field {fields : List (String × Value)} {name : String} {v : Value} {steps : List Step}
      {text : String} (member : (name, v) ∈ fields) (below : TextAt v steps text) :
      TextAt (.object fields) (.key name :: steps) text
  | item {items : List Value} {i : Nat} {v : Value} {steps : List Step} {text : String}
      (place : items[i]? = some v) (below : TextAt v steps text) :
      TextAt (.array items) (.index i :: steps) text

theorem leaves_subset_leavesOfFields {fields : List (String × Value)} {name : String} {v : Value}
    (member : (name, v) ∈ fields) (path : FieldPath) :
    leaves (path.key name) v ⊆ leavesOfFields path fields := by
  induction fields with
  | nil => cases member
  | cons field rest ih =>
      rw [leavesOfFields]
      rcases List.mem_cons.1 member with rfl | later
      · exact List.subset_append_left _ _
      · exact List.subset_append_of_subset_right _ (ih later)

theorem leaves_subset_leavesOfItems {items : List Value} {i : Nat} {v : Value}
    (place : items[i]? = some v) (path : FieldPath) (first : Nat) :
    leaves (path.index (first + i)) v ⊆ leavesOfItems path first items := by
  induction items generalizing i first with
  | nil => cases place
  | cons item rest ih =>
      rw [leavesOfItems]
      cases i with
      | zero =>
          cases place
          exact List.subset_append_left _ _
      | succ i =>
          rw [Nat.add_succ, ← Nat.succ_add]
          exact List.subset_append_of_subset_right _ (ih place (first + 1))

/-- A text of a template is a leaf under the path of its place. -/
theorem TextAt.mem_leaves {v : Value} {steps : List Step} {text : String} (h : TextAt v steps text)
    (path : FieldPath) : ⟨steps.foldl FieldPath.step path, text⟩ ∈ leaves path v := by
  induction h generalizing path with
  | here text => exact List.mem_singleton.2 rfl
  | field member below ih => exact leaves_subset_leavesOfFields member path (ih _)
  | item place below ih =>
      have inside := leaves_subset_leavesOfItems place path 0
      rw [Nat.zero_add] at inside
      exact inside (ih _)

/-- A template that has a text at its root has no other. -/
theorem TextAt.eq_nil_of_root {v : Value} {steps : List Step} {s t : String} (root : TextAt v [] s)
    (h : TextAt v steps t) : steps = [] := by
  cases root
  cases h
  rfl

/-- Paths tell places up to the empty keys that stay at the root. For two texts of one template so
do the labels that are reported, unless such a key gives its place the label of the root. -/
theorem places_share_paths_iff {a b : List Step} (plain : ∀ step ∈ a, step.IsPlain)
    (plain' : ∀ step ∈ b, step.IsPlain) :
    ((ofSteps a).text = (ofSteps b).text ↔ Step.entered a = Step.entered b) ∧
      ((ofSteps a).isRoot = true ↔ Step.entered a = []) ∧
      ∀ template s t, TextAt template a s → TextAt template b t →
        ⟨ofSteps a, s⟩ ∈ leaves .root template ∧ ⟨ofSteps b, t⟩ ∈ leaves .root template ∧
        ((ofSteps a).label = (ofSteps b).label ↔
          Step.entered a = Step.entered b ∨
            a ≠ [] ∧ Step.entered a = [] ∧ Step.entered b = [.key "template"] ∨
            b ≠ [] ∧ Step.entered b = [] ∧ Step.entered a = [.key "template"]) := by
  refine ⟨ofSteps_text_eq_iff plain plain', isRoot_ofSteps_iff, fun template s t here there => ?_⟩
  refine ⟨here.mem_leaves .root, there.mem_leaves .root, ?_⟩
  rw [ofSteps_label_eq_iff plain plain']
  by_cases top : a = [] ∨ b = []
  · have both : a = [] ∧ b = [] := by
      rcases top with rfl | rfl
      · exact ⟨rfl, here.eq_nil_of_root there⟩
      · exact ⟨there.eq_nil_of_root here, rfl⟩
    rw [both.1, both.2]
    exact iff_of_true (.inl rfl) (.inl rfl)
  · rw [not_or] at top
    simp only [ne_eq, top.1, top.2, not_false_eq_true, true_and, and_comm]

/-- Indexes one behind the other, an empty key that is not in front, and the digits of an index as a
key are told apart. -/
theorem places_share_paths_iff_apart :
    let a : List Step := [.key "a", .key "", .index 0, .index 12]
    let b : List Step := [.key "", .key "a", .index 0, .key "12"]
    let row : Value := .array (List.replicate 12 .null ++ [.string "x"])
    let template : Value := .object [("a", .object [("", .array [row])]),
      ("", .object [("a", .array [.object [("12", .string "y")]])])]
    (∀ step ∈ a, step.IsPlain) ∧ (∀ step ∈ b, step.IsPlain) ∧
      (ofSteps a).text ≠ (ofSteps b).text ∧ (ofSteps a).isRoot = false ∧
      TextAt template a "x" ∧ TextAt template b "y" ∧ (ofSteps a).label ≠ (ofSteps b).label := by
  intro a b row template
  have plain : ∀ step ∈ a, step.IsPlain := by decide
  have plain' : ∀ step ∈ b, step.IsPlain := by decide
  have here : TextAt template a "x" := by
    refine .field List.mem_cons_self (.field List.mem_cons_self (.item rfl (.item ?_ (.here "x"))))
    rfl
  have there : TextAt template b "y" := by
    refine .field (List.mem_cons_of_mem _ List.mem_cons_self) (.field List.mem_cons_self ?_)
    exact .item rfl (.field List.mem_cons_self (.here "y"))
  obtain ⟨same, root, reported⟩ := places_share_paths_iff plain plain'
  obtain ⟨-, -, label⟩ := reported template "x" "y" here there
  refine ⟨plain, plain', mt same.1 (by decide), ?_, here, there, mt label.1 (by decide)⟩
  rw [Bool.eq_false_iff, ne_eq, root]
  decide

/-- A field under the empty key has the path of another place, and the empty key that of the
root. -/
theorem empty_key_shares_path :
    let a : List Step := [.key "", .key "a"]
    let b : List Step := [.key "a"]
    let template : Value := .object [("", .object [("a", .string "x")]), ("a", .string "y")]
    a ≠ b ∧ (∀ step ∈ a, step.IsPlain) ∧ (∀ step ∈ b, step.IsPlain) ∧
      (ofSteps a).text = (ofSteps b).text ∧ (ofSteps [.key ""]).isRoot = true ∧
      TextAt template a "x" ∧ TextAt template b "y" ∧ (ofSteps a).label = (ofSteps b).label := by
  refine ⟨by decide, by decide, by decide, rfl, rfl, ?_, ?_, rfl⟩
  · exact .field List.mem_cons_self (.field List.mem_cons_self (.here "x"))
  · exact .field (List.mem_cons_of_mem _ List.mem_cons_self) (.here "y")

end Template

end Fabricate
