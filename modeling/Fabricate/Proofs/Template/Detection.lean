import Mathlib.Algebra.GroupWithZero.Nat
import Fabricate.Proofs.Template.Invocation

/-!
# What a check detects and what a walk calls

A check makes an entry for every placeholder of a template, in their order (`fields_check`), and the
entry says how many values the placeholder stands for. A walk that succeeds asks the generator of
each placeholder for exactly this many values. So the calls of a walk can be read off the report of
its template, `callsAsked`, before any generator is called.

The two recursions never meet: both are compared with the row of placeholders of the template.
-/

namespace Fabricate.Template

open Json Fabricate.Random

/-! ### The entries of a report -/

/-- The entry that the check of a placeholder makes. -/
def fieldOf (s : Setting) (path : FieldPath) (p : Placeholder) : DetectedField :=
  match Param.coerceAll p.params with
  | .error _ => detected path p [] none
  | .ok params =>
      if p.isArray then
        detected path p (takeCount params s.options.maxArrayCount).2
          (takeCount params s.options.maxArrayCount).1.toOption
      else detected path p params none

section

variable (s : Setting) (path : FieldPath) (name : String) (r : Report)

theorem fields_checkName : (checkName s path name r).fields = r.fields := by
  unfold checkName
  split
  · rfl
  · split <;> rfl

theorem fields_checkCount (count : Except CountError Nat) :
    (checkCount s path name r count).fields = r.fields := by
  unfold checkCount
  split
  · rfl
  · split <;> rfl

theorem fields_checkDeclared (params : Params) :
    (checkDeclared s path name params r).fields = r.fields := by
  unfold checkDeclared
  split
  · rfl
  · split <;> rfl

theorem fields_checkMixed (ps : List Piece) : (checkMixed path ps r).fields = r.fields := by
  unfold checkMixed
  split <;> rfl

theorem fields_checkPlaceholder (p : Placeholder) :
    (checkPlaceholder s path r p).fields = r.fields ++ [fieldOf s path p] := by
  unfold checkPlaceholder fieldOf
  dsimp only
  cases Param.coerceAll p.params with
  | error e => simp [fields_checkName]
  | ok params =>
      cases p.isArray with
      | false => simp [fields_checkName, fields_checkDeclared]
      | true => simp [fields_checkName, fields_checkCount, fields_checkDeclared]

end

theorem fields_leafReport (s : Setting) (l : Leaf) :
    (leafReport s l).fields = (placeholders l.pieces).map (fieldOf s l.path) := by
  rw [leafReport, checkText_eq_append]
  simp [Leaf.pieces, List.flatMap_map, fields_checkMixed, fields_checkPlaceholder,
    ← List.map_eq_flatMap]

/-- A check makes an entry for every placeholder, in order. -/
theorem fields_check (s : Setting) (template : Value) :
    (check s template).fields = (placed template).map fun t => fieldOf s t.1 t.2 := by
  have entries : (visit s .root template .empty).fields =
      (placed template).map fun t => fieldOf s t.1 t.2 := by
    rw [visit_eq_append_join, placed, List.map_flatMap]
    simp [List.flatMap_map, fields_leafReport, Function.comp_def]
  rw [← entries]
  unfold check
  dsimp only
  split <;> rfl

/-! ### The calls that are asked for -/

/-- The calls of the generator with a canonical name that an entry stands for: one for each element
of an array and one otherwise, if its name stands for this generator. -/
def callsTo (s : Setting) (id : String) (f : DetectedField) : Nat :=
  match s.registry.resolve? f.generator with
  | some g => if id = g.id then f.arrayCount.elim 1 fun n => n.toInt.toNat else 0
  | none => 0

theorem callsTo_of_resolve {s : Setting} {f : DetectedField} {g : Generator}
    (known : s.registry.resolve? f.generator = some g) (id : String) :
    callsTo s id f = if id = g.id then f.arrayCount.elim 1 fun n => n.toInt.toNat else 0 := by
  unfold callsTo
  rw [known]

/-- The calls of the generator with a canonical name that the entries of a template stand for. -/
def callsAsked (s : Setting) (template : Value) (id : String) : Nat :=
  ((check s template).fields.map (callsTo s id)).sum

/-- A number of elements keeps its value as a word. -/
theorem toNat_toInt_ofNat_of_takeCount {params forwarded : Params} {max n : Nat}
    (h : takeCount params max = (.ok n, forwarded)) : (Int64.ofNat n).toInt.toNat = n := by
  rcases takeCount_eq_ok.1 h with ⟨-, rfl, -⟩ | ⟨-, w, -, -, same, -, -⟩
  · rfl
  · have small := w.toInt_lt
    rw [Int64.toInt_ofNat_of_lt (by omega), Int.toNat_natCast]

theorem countP_invocations {s : Setting} {path : FieldPath} {p : Placeholder} {seed : UInt64}
    {cs : List Invocation} (h : p.invocations s path seed = .ok cs) (id : String) :
    (cs.countP fun c => c.generator.id = id) = callsTo s id (fieldOf s path p) := by
  unfold Placeholder.invocations at h
  cases prepared : prepare s path p with
  | error e =>
      rw [prepared] at h
      cases h
  | ok found =>
      obtain ⟨g, params⟩ := found
      obtain ⟨known, typed⟩ := prepare_eq_ok.1 prepared
      rw [prepared] at h
      dsimp only at h
      unfold fieldOf
      rw [typed]
      dsimp only
      cases array : p.isArray with
      | false =>
          rw [array] at h
          cases h
          have alike : ∀ c ∈ [(⟨path, g, params, seed⟩ : Invocation)], c.generator.id = g.id := by
            simp
          rw [if_neg Bool.false_ne_true, countP_of_alike alike]
          exact (callsTo_of_resolve (f := detected path p params none) known id).symm
      | true =>
          rw [array, if_pos rfl] at h
          rw [if_pos rfl]
          cases count : takeCount params s.options.maxArrayCount with
          | mk number forwarded =>
              rw [count] at h
              cases number with
              | error e => cases h
              | ok n =>
                  cases h
                  have alike : ∀ c ∈ elementInvocations path g forwarded seed 0 n,
                      c.generator.id = g.id := by
                    simp [elementInvocations]
                  have length : (elementInvocations path g forwarded seed 0 n).length =
                      (Int64.ofNat n).toInt.toNat := by
                    rw [toNat_toInt_ofNat_of_takeCount count]
                    simp [elementInvocations]
                  rw [countP_of_alike alike, length]
                  exact (callsTo_of_resolve (f := detected path p forwarded (some n)) known id).symm

/-- The calls that a row of placeholders asks for are those that their entries stand for. -/
theorem countP_of_asks {s : Setting} {seeds : Stream} {ts : List (FieldPath × Placeholder)}
    {cs : List Invocation} (h : Asks s seeds ts cs) (id : String) :
    (cs.countP fun c => c.generator.id = id) =
      (ts.map fun t => callsTo s id (fieldOf s t.1 t.2)).sum := by
  induction h with
  | nil _ => rfl
  | cons asked _ ih =>
      rw [List.countP_append, countP_invocations asked, ih, List.map_cons, List.sum_cons]

/-- A walk that succeeds makes the calls that the entries of its template stand for, and counts
them. -/
theorem calls_of_walk {s : Setting} {template : Value} {seed : UInt64} {world later : World}
    {filled : Filled} (h : walk s template seed world = (.ok filled, later)) :
    filled.usage.Counts (callsAsked s template) ∧
      ∃ made, later.calls = made ++ world.calls ∧
        ∀ id, (made.countP fun c => c.generator = id) = callsAsked s template id := by
  obtain ⟨cs, asked, performed, counts⟩ := performed_of_walk h
  have same : ∀ id, (cs.countP fun c => c.generator.id = id) = callsAsked s template id := by
    intro id
    rw [countP_of_asks asked, callsAsked, fields_check, List.map_map]
    rfl
  refine ⟨?_, _, performed.calls, fun id => ?_⟩
  · simpa only [same] using counts
  · rw [List.countP_reverse, List.countP_map, ← same]
    rfl

end Fabricate.Template
