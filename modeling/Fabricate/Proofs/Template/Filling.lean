import Fabricate.Proofs.Template.Refusal

/-!
# Filled slots

What a walk that succeeded did for each of its slots. Every slot takes exactly one seed, so the slot
at a position has the seed that the stream holds there (`seedAt`), whatever the slots before it are.

A walk makes its calls one after the other, each in the world that the one before it left, and all
of them give values (`Leads`). The content of a slot was given by those with its seed, or with the
seeds of elements made from it (`Content.Fits`).

One slot is `fits_of_fill`, a row of slots is `fits_of_mapM`, by induction on the row, and a walk is
`fits_of_walk`.
-/

namespace Fabricate.Template

open Json Fabricate.Random

/-- The seed at a position of a stream. -/
def seedAt (seeds : Stream) : Nat → UInt64
  | 0 => (next64.run seeds).1
  | k + 1 => seedAt (next64.run seeds).2 k

/-- The generator and the parameters that a placeholder names. -/
structure Prepared (s : Setting) (p : Placeholder) (g : Generator) (params : Params) : Prop where
  generator : s.registry.resolve? p.name = some g
  params : Param.coerceAll p.params = .ok params

/-- A call that gave a value, and the world in which it was made. -/
structure Answered (s : Setting) where
  generator : Generator
  params : Params
  seed : UInt64
  world : World
  value : Datum
  given : (generator.invoke s.context params seed world).1 = .ok value

/-- The call as the world keeps it. -/
def Answered.call {s : Setting} (a : Answered s) : Call :=
  ⟨a.generator.id, a.params, a.seed⟩

/-- The world that the call left. -/
def Answered.after {s : Setting} (a : Answered s) : World :=
  (a.generator.invoke s.context a.params a.seed a.world).2

/-- The calls lead from one world to another one: each was made in the world that the one before it
left. -/
def Leads {s : Setting} : List (Answered s) → World → World → Prop
  | [], w, later => later = w
  | a :: rest, w, later => a.world = w ∧ Leads rest a.after later

/-- One of the calls is of the generator, with the parameters and the seed, and gave the value. -/
def Gives (s : Setting) (made : List (Answered s)) (g : Generator) (params : Params)
    (seed : UInt64) (v : Datum) : Prop :=
  ∃ world given, ⟨g, params, seed, world, v, given⟩ ∈ made

/-- The calls gave the content for the slot that has the seed. -/
def Content.Fits (s : Setting) (made : List (Answered s)) (seed : UInt64) : Content → Slot → Prop
  | .single v, .single _ p => ∃ g params, Prepared s p g params ∧ Gives s made g params seed v
  | .row vs, .row _ p => ∃ g given forwarded, Prepared s p g given ∧
      takeCount given s.options.maxArrayCount = (.ok vs.length, forwarded) ∧
      ∀ j w, vs[j]? = some w → ∃ v : Datum, w = v.toJson ∧
        Gives s made g forwarded (Seed.element seed (UInt64.ofNat j)) v
  | _, _ => False

/-- What the slots of a template are filled with by a walk. -/
def contents (s : Setting) (template : Value) (seed : UInt64) (world : World) :
    Except Failure (List Content) :=
  match (slots .root template).mapM (Slot.fill s) (.start seed world) with
  | .ok cs _ => .ok cs
  | .error f _ => .error f

/-- The generator and the parameters of a placeholder are determined. -/
theorem Prepared.unique {s : Setting} {p : Placeholder} {g g' : Generator}
    {params params' : Params} (h : Prepared s p g params) (h' : Prepared s p g' params') :
    g = g' ∧ params = params' := by
  have generators := h.generator.symm.trans h'.generator
  have all := h.params.symm.trans h'.params
  cases generators
  cases all
  exact ⟨rfl, rfl⟩

theorem Content.Fits.single {s : Setting} {made : List (Answered s)} {seed : UInt64} {c : Content}
    {path : FieldPath} {p : Placeholder} (h : c.Fits s made seed (.single path p)) {g : Generator}
    {params : Params} (prepared : Prepared s p g params) :
    ∃ v, c = .single v ∧ Gives s made g params seed v := by
  cases c with
  | single v =>
      obtain ⟨g', params', prepared', gives⟩ := h
      obtain ⟨rfl, rfl⟩ := prepared.unique prepared'
      exact ⟨v, rfl, gives⟩
  | row vs => cases h

theorem Content.Fits.row {s : Setting} {made : List (Answered s)} {seed : UInt64} {c : Content}
    {path : FieldPath} {p : Placeholder} (h : c.Fits s made seed (.row path p)) {g : Generator}
    {given : Params} (prepared : Prepared s p g given) :
    ∃ vs forwarded, c = .row vs ∧
      takeCount given s.options.maxArrayCount = (.ok vs.length, forwarded) ∧
      ∀ j w, vs[j]? = some w → ∃ v : Datum, w = v.toJson ∧
        Gives s made g forwarded (Seed.element seed (UInt64.ofNat j)) v := by
  cases c with
  | single v => cases h
  | row vs =>
      obtain ⟨g', given', forwarded, prepared', count, gives⟩ := h
      obtain ⟨rfl, rfl⟩ := prepared.unique prepared'
      exact ⟨vs, forwarded, rfl, count, gives⟩

theorem Gives.mono {s : Setting} {made more : List (Answered s)} {g : Generator} {params : Params}
    {seed : UInt64} {v : Datum} (h : Gives s made g params seed v) (sub : made ⊆ more) :
    Gives s more g params seed v := by
  obtain ⟨world, given, member⟩ := h
  exact ⟨world, given, sub member⟩

theorem Content.Fits.mono {s : Setting} {made more : List (Answered s)} {seed : UInt64}
    {c : Content} {j : Slot} (h : c.Fits s made seed j) (sub : made ⊆ more) :
    c.Fits s more seed j := by
  cases c with
  | single v =>
      cases j with
      | single path p =>
          obtain ⟨g, params, prepared, gives⟩ := h
          exact ⟨g, params, prepared, gives.mono sub⟩
      | row path p => cases h
      | mixed path name => cases h
  | row vs =>
      cases j with
      | single path p => cases h
      | row path p =>
          obtain ⟨g, given, forwarded, prepared, count, gives⟩ := h
          refine ⟨g, given, forwarded, prepared, count, fun k w at_k => ?_⟩
          obtain ⟨v, same, made⟩ := gives k w at_k
          exact ⟨v, same, made.mono sub⟩
      | mixed path name => cases h

/-! ### Calls -/

theorem Leads.append {s : Setting} {made more : List (Answered s)} {w now later : World}
    (h : Leads made w now) (h' : Leads more now later) : Leads (made ++ more) w later := by
  induction made generalizing w with
  | nil =>
      cases h
      exact h'
  | cons a made ih => exact ⟨h.1, ih h.2⟩

/-- A call that gave a value is the last one in the world that it left. -/
theorem Answered.calls_after {s : Setting} (a : Answered s) :
    a.after.calls = a.call :: a.world.calls := by
  obtain ⟨-, -, later⟩ := Generator.invoke_eq_ok.1 (Prod.ext a.given rfl)
  exact congrArg World.calls later

/-- The calls are the last ones in the world that they lead to. -/
theorem Leads.calls {s : Setting} {made : List (Answered s)} {w later : World}
    (h : Leads made w later) :
    later.calls = (made.map Answered.call).reverse ++ w.calls := by
  induction made generalizing w with
  | nil =>
      cases h
      rfl
  | cons a made ih =>
      obtain ⟨rfl, rest⟩ := h
      rw [ih rest, a.calls_after, List.map_cons, List.reverse_cons, List.append_assoc]
      rfl

theorem gives_of_call {s : Setting} {g : Generator} {params : Params} {seed : UInt64}
    {path : FieldPath} {p q : Progress} {v : Datum} (h : call s g params seed path p = .ok v q) :
    q.seeds = p.seeds ∧ ∃ made, Leads made p.world q.world ∧ Gives s made g params seed v := by
  unfold call at h
  split at h
  · next w world answer =>
      cases h
      have given : (g.invoke s.context params seed p.world).1 = .ok v := congrArg Prod.fst answer
      have later : world = (g.invoke s.context params seed p.world).2 :=
        (congrArg Prod.snd answer).symm
      exact ⟨rfl, [⟨g, params, seed, p.world, v, given⟩], ⟨rfl, later⟩, p.world, given,
        List.mem_singleton.2 rfl⟩
  · cases h

theorem gives_of_elements {s : Setting} {path : FieldPath} {g : Generator} {params : Params}
    {seed : UInt64} {n first : Nat} {p q : Progress} {vs : List Value}
    (h : elements s path g params seed first n p = .ok vs q) :
    vs.length = n ∧ q.seeds = p.seeds ∧ ∃ made, Leads made p.world q.world ∧
      ∀ j w, vs[j]? = some w → ∃ v : Datum, w = v.toJson ∧
        Gives s made g params (Seed.element seed (UInt64.ofNat (first + j))) v := by
  induction n generalizing first p vs with
  | zero =>
      cases h
      exact ⟨rfl, rfl, [], rfl, fun j w at_j => by simp at at_j⟩
  | succ n ih =>
      rw [elements, fill_bind_eq_ok] at h
      obtain ⟨v, r, one, h⟩ := h
      rw [fill_bind_eq_ok] at h
      obtain ⟨rest, t, others, h⟩ := h
      cases h
      obtain ⟨seeds, made, leads, gives⟩ := gives_of_call one
      obtain ⟨length, seeds', made', leads', gives'⟩ := ih others
      refine ⟨by rw [List.length_cons, length], seeds'.trans seeds, made ++ made',
        leads.append leads', ?_⟩
      intro j w at_j
      cases j with
      | zero =>
          cases at_j
          exact ⟨v, rfl, gives.mono (List.subset_append_left _ _)⟩
      | succ j =>
          obtain ⟨u, same, later⟩ := gives' j w at_j
          rw [Nat.succ_add_eq_add_succ] at later
          exact ⟨u, same, later.mono (List.subset_append_right _ _)⟩

/-! ### One slot -/

theorem fits_of_produce {s : Setting} {path : FieldPath} {p : Placeholder} {q r : Progress}
    {v : Datum} (h : produce s path p q = .ok v r) :
    r.seeds = q.drawn.seeds ∧ ∃ made, Leads made q.world r.world ∧
      (Content.single v).Fits s made q.seed (.single path p) := by
  cases prepared : prepare s path p with
  | error e =>
      rw [produce_of_prepare_error prepared] at h
      cases h
  | ok found =>
      obtain ⟨g, params⟩ := found
      rw [produce_of_prepare_ok prepared, fill_bind_eq_ok] at h
      obtain ⟨w, t, one, h⟩ := h
      cases h
      obtain ⟨seeds, made, leads, gives⟩ := gives_of_call one
      obtain ⟨generator, coerced⟩ := prepare_eq_ok.1 prepared
      exact ⟨seeds, made, leads, g, params, ⟨generator, coerced⟩, gives⟩

theorem fits_of_expand {s : Setting} {path : FieldPath} {p : Placeholder} {q r : Progress}
    {vs : List Value} (h : expand s path p q = .ok vs r) :
    r.seeds = q.drawn.seeds ∧ ∃ made, Leads made q.world r.world ∧
      (Content.row vs).Fits s made q.seed (.row path p) := by
  cases prepared : prepare s path p with
  | error e =>
      rw [expand_of_prepare_error prepared] at h
      cases h
  | ok found =>
      obtain ⟨g, given⟩ := found
      cases count : takeCount given s.options.maxArrayCount with
      | mk number forwarded =>
          cases number with
          | error e =>
              rw [expand_of_count_error prepared count] at h
              cases h
          | ok n =>
              rw [expand_of_count_ok prepared count, fill_bind_eq_ok] at h
              obtain ⟨ws, t, all, h⟩ := h
              cases h
              obtain ⟨length, seeds, made, leads, gives⟩ := gives_of_elements all
              obtain ⟨generator, coerced⟩ := prepare_eq_ok.1 prepared
              simp only [Nat.zero_add] at gives
              rw [← length] at count
              exact ⟨seeds, made, leads, g, given, forwarded, ⟨generator, coerced⟩, count, gives⟩

/-- A slot that is filled took one seed, and its content was given by new calls. -/
theorem fits_of_fill {s : Setting} {j : Slot} {c : Content} {q r : Progress}
    (h : j.fill s q = .ok c r) :
    r.seeds = q.drawn.seeds ∧ ∃ made, Leads made q.world r.world ∧ c.Fits s made q.seed j := by
  cases j with
  | single path p =>
      rw [Slot.fill, fill_map_eq_ok] at h
      obtain ⟨v, ran, rfl⟩ := h
      exact fits_of_produce ran
  | row path p =>
      rw [Slot.fill, fill_map_eq_ok] at h
      obtain ⟨vs, ran, rfl⟩ := h
      exact fits_of_expand ran
  | mixed path name => cases h

/-! ### A row of slots -/

/-- In a row of slots that is filled, the slot at a position has the seed at this position. -/
theorem fits_of_mapM {s : Setting} {js : List Slot} {cs : List Content} {q r : Progress}
    (h : js.mapM (Slot.fill s) q = .ok cs r) :
    ∃ made, Leads made q.world r.world ∧
      ∀ k (c : Content) j, cs[k]? = some c → js[k]? = some j →
        c.Fits s made (seedAt q.seeds k) j := by
  induction js generalizing cs q with
  | nil =>
      cases h
      exact ⟨[], rfl, fun k c j at_k => by simp at at_k⟩
  | cons i js ih =>
      rw [List.mapM_cons, fill_bind_eq_ok] at h
      obtain ⟨d, t, one, h⟩ := h
      rw [fill_bind_eq_ok] at h
      obtain ⟨ds, u, others, h⟩ := h
      cases h
      obtain ⟨seeds, made, leads, fits⟩ := fits_of_fill one
      obtain ⟨made', leads', fits'⟩ := ih others
      refine ⟨made ++ made', leads.append leads', ?_⟩
      intro k c j content slot
      cases k with
      | zero =>
          cases content
          cases slot
          exact fits.mono (List.subset_append_left _ _)
      | succ k =>
          have later := fits' k c j content slot
          rw [seeds] at later
          exact later.mono (List.subset_append_right _ _)

/-! ### A walk -/

/-- A walk that succeeds fills every slot, the one at a position with the seed at this position of
the stream of its document, and the calls that gave the contents lead from the world before the walk
to the one after it. -/
theorem fits_of_walk {s : Setting} {template : Value} {seed : UInt64} {world : World}
    {filled : Filled} (h : (walk s template seed world).1 = .ok filled) :
    ∃ cs made, contents s template seed world = .ok cs ∧
      filled.document = assemble template cs ∧
      cs.length = (slots .root template).length ∧
      Leads made world (walk s template seed world).2 ∧
      ∀ k (c : Content) j, cs[k]? = some c → (slots .root template)[k]? = some j →
        c.Fits s made (seedAt (Stream.ofSeed seed) k) j := by
  obtain ⟨cs, q, ran, rfl⟩ := mapM_of_walk_ok h
  obtain ⟨made, leads, fits⟩ := fits_of_mapM ran
  refine ⟨cs, made, ?_, rfl, length_of_mapM_fill ran, ?_, fits⟩
  · rw [contents, ran]
  · rw [walk_of_mapM_ok ran]
    exact leads

end Fabricate.Template
