import Fabricate.Proofs.Generator.Behaviour
import Fabricate.Proofs.Template.Slot

/-!
# Refused slots

Some slots cannot be filled whatever the generators do: those of an unknown generator, those whose
parameters cannot be read or are not the declared ones, those of an array with a number of elements
that is refused, and mixed leaves. `Slot.refusal?` is the failure of such a slot, found without
calling a generator.

A refused slot fails with its refusal in every state and makes no call (`fill_of_refusal?`). When
generators never fail on parameters that their declarations accept, all other slots are filled, so
a traversal fails with the first refusal of its row, if there is one (`mapM_fill_of_refusal?`).
-/

namespace Fabricate.Template

open Json Fabricate.Random

/-- The failure of a slot that cannot be filled whatever the generators do. The declarations of an
array's generator are first asked for its first element. -/
def Slot.refusal? (s : Setting) : Slot → Option Failure
  | .single path p =>
      match prepare s path p with
      | .error e => some e
      | .ok (g, params) =>
          (params.refusal? g.specs g.id).map fun e => callFailure path g.id (.refused e)
  | .row path p =>
      match prepare s path p with
      | .error e => some e
      | .ok (g, params) =>
          match takeCount params s.options.maxArrayCount with
          | (.error e, _) => some (e.failure path p.name)
          | (.ok _, forwarded) =>
              (forwarded.refusal? g.specs g.id).map fun e =>
                callFailure (path.index 0) g.id (.refused e)
  | .mixed path name => some (mixedFailure path name)

/-! ### What one slot does -/

/-- The seed that the next placeholder takes. -/
def Progress.seed (q : Progress) : UInt64 :=
  (next64.run q.seeds).1

/-- The state after the next placeholder took its seed. -/
def Progress.drawn (q : Progress) : Progress :=
  { q with seeds := (next64.run q.seeds).2 }

theorem prepare_eq_ok {s : Setting} {path : FieldPath} {p : Placeholder} {g : Generator}
    {params : Params} :
    prepare s path p = .ok (g, params) ↔
      s.registry.resolve? p.name = some g ∧ Param.coerceAll p.params = .ok params := by
  unfold prepare
  cases s.registry.resolve? p.name with
  | none => simp
  | some h =>
      dsimp only
      cases Param.coerceAll p.params with
      | error e => simp
      | ok others => simp

theorem produce_of_prepare_error {s : Setting} {path : FieldPath} {p : Placeholder} {e : Failure}
    (h : prepare s path p = .error e) (q : Progress) : produce s path p q = .error e q := by
  unfold produce
  rw [h]
  rfl

theorem produce_of_prepare_ok {s : Setting} {path : FieldPath} {p : Placeholder} {g : Generator}
    {params : Params} (h : prepare s path p = .ok (g, params)) (q : Progress) :
    produce s path p q = (do
      let v ← call s g params q.seed path
      record g.id 1
      return v : Fill Datum) q.drawn := by
  unfold produce
  rw [h]
  rfl

theorem expand_of_prepare_error {s : Setting} {path : FieldPath} {p : Placeholder} {e : Failure}
    (h : prepare s path p = .error e) (q : Progress) : expand s path p q = .error e q := by
  unfold expand
  rw [h]
  rfl

/-- An array counts its elements once its generator is known. -/
theorem expand_of_prepare_ok {s : Setting} {path : FieldPath} {p : Placeholder} {g : Generator}
    {params : Params} (h : prepare s path p = .ok (g, params)) (q : Progress) :
    expand s path p q = (do
      let count ← settled ((takeCount params s.options.maxArrayCount).1.mapError
        fun e => e.failure path p.name)
      let seed ← nextSeed
      let vs ← elements s path g (takeCount params s.options.maxArrayCount).2 seed 0 count
      record g.id count
      return vs : Fill (List Value)) q := by
  unfold expand
  rw [h]
  rfl

theorem expand_of_count_error {s : Setting} {path : FieldPath} {p : Placeholder} {g : Generator}
    {params forwarded : Params} {e : CountError} (h : prepare s path p = .ok (g, params))
    (refused : takeCount params s.options.maxArrayCount = (.error e, forwarded)) (q : Progress) :
    expand s path p q = .error (e.failure path p.name) q := by
  rw [expand_of_prepare_ok h, refused]
  rfl

theorem expand_of_count_ok {s : Setting} {path : FieldPath} {p : Placeholder} {g : Generator}
    {params forwarded : Params} {n : Nat} (h : prepare s path p = .ok (g, params))
    (count : takeCount params s.options.maxArrayCount = (.ok n, forwarded)) (q : Progress) :
    expand s path p q = (do
      let vs ← elements s path g forwarded q.seed 0 n
      record g.id n
      return vs : Fill (List Value)) q.drawn := by
  rw [expand_of_prepare_ok h, count]
  rfl

theorem countOf_eq_ok {v : Value} {max n : Nat} :
    countOf v max = .ok n ↔ ∃ w, v.int64? = some w ∧ w.toInt = n ∧ 0 < n ∧ n ≤ max := by
  unfold countOf
  cases v.int64? with
  | none => simp
  | some w =>
      dsimp only
      constructor
      · intro h
        split at h
        · next positive =>
            split at h
            · next small =>
                cases h
                exact ⟨w, rfl, (Int.toNat_of_nonneg (by omega)).symm, by omega, small⟩
            · cases h
        · cases h
      · rintro ⟨_, ⟨⟩, same, positive, small⟩
        have number : w.toInt.toNat = n := by omega
        rw [if_pos (by omega), number, if_pos small]

/-- The number of elements is one, or it is that of `count`, which does not reach the generator. -/
theorem takeCount_eq_ok {params forwarded : Params} {max n : Nat} :
    takeCount params max = (.ok n, forwarded) ↔
      (Fields.take params countKey = none ∧ n = 1 ∧ forwarded = params) ∨
        ∃ v w, Fields.take params countKey = some (v, forwarded) ∧ v.int64? = some w ∧
          w.toInt = n ∧ 0 < n ∧ n ≤ max := by
  unfold takeCount
  cases Fields.take params countKey with
  | none => simp [eq_comm]
  | some taken =>
      obtain ⟨v, rest⟩ := taken
      simp only [Prod.mk.injEq, countOf_eq_ok]
      grind

/-- An accepted array has an element. -/
theorem takeCount_pos {params forwarded : Params} {max n : Nat}
    (h : takeCount params max = (.ok n, forwarded)) : 0 < n := by
  rcases takeCount_eq_ok.1 h with ⟨-, rfl, -⟩ | ⟨-, -, -, -, -, positive, -⟩
  · exact Nat.one_pos
  · exact positive

theorem call_of_refused {s : Setting} {g : Generator} {params : Params} {e : ParamError}
    (h : params.refusal? g.specs g.id = some e) (seed : UInt64) (path : FieldPath)
    (q : Progress) :
    call s g params seed path q = .error (callFailure path g.id (.refused e)) q := by
  unfold call Generator.invoke
  rw [h]

theorem call_of_value {s : Setting} {g : Generator} {params : Params}
    (accepted : params.refusal? g.specs g.id = none)
    (total : ∀ world stream, ∃ v, (g.generate s.context params world stream).outcome = .value v)
    (seed : UInt64) (path : FieldPath) (q : Progress) :
    ∃ v r, call s g params seed path q = .ok v r := by
  obtain ⟨v, value⟩ := total q.world (Stream.ofSeed seed)
  unfold call Generator.invoke
  rw [accepted]
  dsimp only
  rw [value]
  exact ⟨v, _, rfl⟩

theorem elements_of_value {s : Setting} {g : Generator} {params : Params}
    (accepted : params.refusal? g.specs g.id = none)
    (total : ∀ world stream, ∃ v, (g.generate s.context params world stream).outcome = .value v)
    (path : FieldPath) (seed : UInt64) (n : Nat) :
    ∀ (first : Nat) (q : Progress),
      ∃ vs r, elements s path g params seed first n q = .ok vs r := by
  induction n with
  | zero => exact fun first q => ⟨[], q, rfl⟩
  | succ n ih =>
      intro first q
      obtain ⟨v, r, made⟩ := call_of_value accepted total
        (Seed.element seed (UInt64.ofNat first)) (path.index first) q
      obtain ⟨vs, t, others⟩ := ih (first + 1) r
      refine ⟨v.toJson :: vs, t, ?_⟩
      rw [elements, fill_bind_eq_ok]
      refine ⟨v, r, made, ?_⟩
      rw [fill_bind_eq_ok]
      exact ⟨vs, t, others, rfl⟩

/-- A refused slot fails with its refusal, and no generator is called for it. -/
theorem fill_of_refusal? {s : Setting} {j : Slot} {f : Failure} (h : j.refusal? s = some f)
    (q : Progress) : ∃ r, j.fill s q = .error f r ∧ r.world = q.world := by
  cases j with
  | single path p =>
      simp only [Slot.fill, fill_map_eq_error]
      rw [Slot.refusal?] at h
      split at h
      · next e failed =>
          cases h
          exact ⟨q, produce_of_prepare_error failed q, rfl⟩
      · next g params prepared =>
          obtain ⟨e, refused, rfl⟩ := Option.map_eq_some_iff.1 h
          refine ⟨q.drawn, ?_, rfl⟩
          rw [produce_of_prepare_ok prepared, fill_bind_eq_error]
          exact .inl (call_of_refused refused _ _ _)
  | row path p =>
      simp only [Slot.fill, fill_map_eq_error]
      rw [Slot.refusal?] at h
      split at h
      · next e failed =>
          cases h
          exact ⟨q, expand_of_prepare_error failed q, rfl⟩
      · next g params prepared =>
          split at h
          · next e forwarded count =>
              cases h
              exact ⟨q, expand_of_count_error prepared count q, rfl⟩
          · next n forwarded count =>
              obtain ⟨e, refused, rfl⟩ := Option.map_eq_some_iff.1 h
              -- An accepted array has a first element, which is refused.
              obtain ⟨m, rfl⟩ := Nat.exists_eq_succ_of_ne_zero (Nat.ne_of_gt (takeCount_pos count))
              refine ⟨q.drawn, ?_, rfl⟩
              rw [expand_of_count_ok prepared count, fill_bind_eq_error, elements,
                fill_bind_eq_error]
              exact .inl (.inl (call_of_refused refused _ _ _))
  | mixed path name =>
      cases h
      exact ⟨q, rfl, rfl⟩

/-- A slot that is not refused is filled when generators never fail on accepted parameters. -/
theorem fill_of_refusal?_eq_none {s : Setting} (never : s.registry.NeverFails) {j : Slot}
    (h : j.refusal? s = none) (q : Progress) : ∃ c r, j.fill s q = .ok c r := by
  cases j with
  | single path p =>
      simp only [Slot.fill, fill_map_eq_ok]
      rw [Slot.refusal?] at h
      split at h
      · cases h
      · next g params prepared =>
          have accepted := Option.map_eq_none_iff.1 h
          obtain ⟨id, known⟩ := Registry.mem_of_resolve? (prepare_eq_ok.1 prepared).1
          obtain ⟨v, r, made⟩ := call_of_value accepted
            (fun world stream => never id g known s.context params world stream accepted)
            q.seed path q.drawn
          refine ⟨.single v, { r with usage := r.usage.record g.id 1 }, v, ?_, rfl⟩
          rw [produce_of_prepare_ok prepared, fill_bind_eq_ok]
          exact ⟨v, r, made, rfl⟩
  | row path p =>
      simp only [Slot.fill, fill_map_eq_ok]
      rw [Slot.refusal?] at h
      split at h
      · cases h
      · next g params prepared =>
          split at h
          · cases h
          · next n forwarded count =>
              have accepted := Option.map_eq_none_iff.1 h
              obtain ⟨id, known⟩ := Registry.mem_of_resolve? (prepare_eq_ok.1 prepared).1
              obtain ⟨vs, r, made⟩ := elements_of_value accepted
                (fun world stream => never id g known s.context forwarded world stream accepted)
                path q.seed n 0 q.drawn
              refine ⟨.row vs, { r with usage := r.usage.record g.id n }, vs, ?_, rfl⟩
              rw [expand_of_count_ok prepared count, fill_bind_eq_ok]
              exact ⟨vs, r, made, rfl⟩
  | mixed path name => cases h

/-! ### What a row of slots does -/

/-- A row in which a slot is refused fails with the first refusal. -/
theorem mapM_fill_of_refusal? {s : Setting} (never : s.registry.NeverFails) {js : List Slot}
    {f : Failure} (h : js.findSome? (Slot.refusal? s) = some f) (q : Progress) :
    ∃ r, js.mapM (Slot.fill s) q = .error f r := by
  induction js generalizing q with
  | nil => cases h
  | cons j js ih =>
      rw [List.mapM_cons]
      simp only [fill_bind_eq_error]
      rw [List.findSome?_cons] at h
      split at h
      · next e refused =>
          cases h
          obtain ⟨r, failed, -⟩ := fill_of_refusal? refused q
          exact ⟨r, .inl failed⟩
      · next accepted =>
          obtain ⟨c, r, made⟩ := fill_of_refusal?_eq_none never accepted q
          obtain ⟨t, failed⟩ := ih h r
          exact ⟨t, .inr ⟨c, r, made, .inl failed⟩⟩

/-- A row in which no slot is refused is filled. -/
theorem mapM_fill_of_refusal?_eq_none {s : Setting} (never : s.registry.NeverFails)
    {js : List Slot} (h : js.findSome? (Slot.refusal? s) = none) (q : Progress) :
    ∃ cs r, js.mapM (Slot.fill s) q = .ok cs r := by
  induction js generalizing q with
  | nil => exact ⟨[], q, rfl⟩
  | cons j js ih =>
      rw [List.mapM_cons]
      simp only [fill_bind_eq_ok]
      rw [List.findSome?_cons] at h
      split at h
      · cases h
      · next accepted =>
          obtain ⟨c, r, made⟩ := fill_of_refusal?_eq_none never accepted q
          obtain ⟨cs, t, others⟩ := ih h r
          exact ⟨c :: cs, t, c, r, made, cs, t, others, rfl⟩

/-- A walk fails with the first refusal of its template. -/
theorem walk_of_refusal? {s : Setting} (never : s.registry.NeverFails) {template : Value}
    {f : Failure} (h : (slots .root template).findSome? (Slot.refusal? s) = some f)
    (seed : UInt64) (world : World) : (walk s template seed world).1 = .error f := by
  obtain ⟨q, failed⟩ := mapM_fill_of_refusal? never h (.start seed world)
  rw [walk_of_mapM_error failed]

/-- A walk over a template without refused slots succeeds. -/
theorem walk_of_refusal?_eq_none {s : Setting} (never : s.registry.NeverFails) {template : Value}
    (h : (slots .root template).findSome? (Slot.refusal? s) = none) (seed : UInt64)
    (world : World) : ∃ filled, (walk s template seed world).1 = .ok filled := by
  obtain ⟨cs, q, ran⟩ := mapM_fill_of_refusal?_eq_none never h (.start seed world)
  rw [walk_of_mapM_ok ran]
  exact ⟨_, rfl⟩

end Fabricate.Template
