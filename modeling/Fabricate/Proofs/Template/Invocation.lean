import Fabricate.Proofs.Generator.Usage
import Fabricate.Proofs.Template.Locality

/-!
# The calls of a walk

What a placeholder asks for is settled before any generator is called: one call, or a call for each
element of an array in order, unless its name, its parameters or its number of elements are refused
(`Placeholder.invocations`). A walk makes the calls that its placeholders ask for one after the
other, up to the first one that gives no value.

`Performed` is a row of calls that all give values and `Stops` is what happens at the first
placeholder that gives none. Both lead from a world to a world, since a generator may look at the
calls made so far and set or clear the flag. Every function of the walk has one lemma for each of
its ends, `performed_of_…` and `stops_of_…`; further lemmas about the calls of a walk follow from
these and open no function of it again.
-/

namespace Fabricate

/-- The generator failed or crashed. -/
def Outcome.IsBreakdown (o : Outcome) : Prop :=
  (∃ reason, o = .failed reason) ∨ ∃ reason, o = .crashed reason

namespace Template

open Json Fabricate.Random

/-- A call that is asked for, and the place of its value. -/
structure Invocation where
  path : FieldPath
  generator : Generator
  params : Params
  seed : UInt64

namespace Invocation

/-- The call as the world keeps it. -/
def call (c : Invocation) : Call :=
  ⟨c.generator.id, c.params, c.seed⟩

/-- Why the declarations of the generator refuse the call, so that it is not made. -/
def refusal? (c : Invocation) : Option ParamError :=
  c.params.refusal? c.generator.specs c.generator.id

/-- What the generator answers in a world. -/
def reply (s : Setting) (c : Invocation) (w : World) : Reply :=
  c.generator.generate s.context c.params w (Stream.ofSeed c.seed)

/-- The world after the call was made. -/
def after (s : Setting) (c : Invocation) (w : World) : World :=
  ⟨c.call :: w.calls, (c.reply s w).cancelled⟩

end Invocation

/-- All the calls are made, one after the other, and give values. -/
inductive Performed (s : Setting) : List Invocation → World → World → Prop
  | nil (w : World) : Performed s [] w w
  | cons {c : Invocation} {cs : List Invocation} {w later : World} {v : Datum} :
      c.refusal? = none → (c.reply s w).outcome = .value v → Performed s cs (c.after s w) later →
      Performed s (c :: cs) w later

/-- The call gives no value: with the calls made for it, the answer if it was made, the failure and
the world afterwards. -/
inductive Breaks (s : Setting) (c : Invocation) (w : World) :
    List Call → Option Outcome → Failure → World → Prop
  | refused {e : ParamError} :
      c.refusal? = some e →
      Breaks s c w [] none (.parameter c.path.label (some c.generator.id) e) w
  | failed {e : InvokeError} :
      c.refusal? = none → (c.reply s w).outcome.result = .error e →
      Breaks s c w [c.call] (some (c.reply s w).outcome) (callFailure c.path c.generator.id e)
        (c.after s w)

/-- The calls for the elements of an array from the given position on. -/
def elementInvocations (path : FieldPath) (g : Generator) (params : Params) (seed : UInt64)
    (first count : Nat) : List Invocation :=
  (List.range' first count).map fun k =>
    ⟨path.index k, g, params, Seed.element seed (UInt64.ofNat k)⟩

namespace Placeholder

/-- The calls that a placeholder asks for, or why it asks for none. -/
def invocations (s : Setting) (path : FieldPath) (p : Placeholder) (seed : UInt64) :
    Except Failure (List Invocation) :=
  match prepare s path p with
  | .error e => .error e
  | .ok (g, params) =>
      if p.isArray then
        match takeCount params s.options.maxArrayCount with
        | (.error e, _) => .error (e.failure path p.name)
        | (.ok n, forwarded) => .ok (elementInvocations path g forwarded seed 0 n)
      else .ok [⟨path, g, params, seed⟩]

/-- The place of the value of a placeholder's call at a position among its calls. -/
def place (p : Placeholder) (path : FieldPath) (k : Nat) : FieldPath :=
  if p.isArray then path.index k else path

end Placeholder

/-- The calls that a row of placeholders asks for, the placeholder at a position with the seed at
this position. -/
inductive Asks (s : Setting) :
    Stream → List (FieldPath × Placeholder) → List Invocation → Prop
  | nil (seeds : Stream) : Asks s seeds [] []
  | cons {seeds : Stream} {path : FieldPath} {p : Placeholder}
      {ts : List (FieldPath × Placeholder)} {cs ds : List Invocation} :
      p.invocations s path (next64.run seeds).1 = .ok cs → Asks s (next64.run seeds).2 ts ds →
      Asks s seeds ((path, p) :: ts) (cs ++ ds)

/-- A placeholder does not give all its values: it asks for no call at all, or one of its calls
gives no value and the calls before it did. -/
inductive Stops (s : Setting) (path : FieldPath) (p : Placeholder) (seed : UInt64) (w : World) :
    List Call → Option Outcome → Failure → World → Prop
  | unasked {f : Failure} : p.invocations s path seed = .error f → Stops s path p seed w [] none f w
  | called {done rest : List Invocation} {c : Invocation} {now later : World} {made : List Call}
      {ended : Option Outcome} {f : Failure} :
      p.invocations s path seed = .ok (done ++ c :: rest) → c.path = p.place path done.length →
      Performed s done w now → Breaks s c now made ended f later →
      Stops s path p seed w (done.map Invocation.call ++ made) ended f later

/-! ### Rows of calls -/

namespace Performed

variable {s : Setting} {cs ds : List Invocation} {w now later : World}

theorem append (h : Performed s cs w now) (h' : Performed s ds now later) :
    Performed s (cs ++ ds) w later := by
  induction h with
  | nil w => exact h'
  | cons accepted value _ ih => exact .cons accepted value (ih h')

/-- The calls are the last ones made. -/
theorem calls (h : Performed s cs w later) :
    later.calls = (cs.map Invocation.call).reverse ++ w.calls := by
  induction h with
  | nil w => rfl
  | cons accepted value _ ih =>
      rw [ih, List.map_cons, List.reverse_cons, List.append_assoc]
      rfl

end Performed

theorem Breaks.calls {s : Setting} {c : Invocation} {w later : World} {made : List Call}
    {ended : Option Outcome} {f : Failure} (h : Breaks s c w made ended f later) :
    later.calls = made.reverse ++ w.calls := by
  cases h <;> rfl

theorem Stops.calls {s : Setting} {path : FieldPath} {p : Placeholder} {seed : UInt64}
    {w later : World} {made : List Call} {ended : Option Outcome} {f : Failure}
    (h : Stops s path p seed w made ended f later) :
    later.calls = made.reverse ++ w.calls := by
  cases h with
  | unasked refused => rfl
  | called asked place performed breaks =>
      rw [breaks.calls, performed.calls, List.reverse_append, List.append_assoc]

/-! ### One call and the elements of an array -/

theorem performed_of_call {s : Setting} {g : Generator} {params : Params} {seed : UInt64}
    {path : FieldPath} {q r : Progress} {v : Datum} (h : call s g params seed path q = .ok v r) :
    Performed s [⟨path, g, params, seed⟩] q.world r.world ∧ r.seeds = q.seeds ∧
      r.usage = q.usage := by
  unfold call at h
  split at h
  · next w world answer =>
      cases h
      obtain ⟨accepted, value, rfl⟩ := Generator.invoke_eq_ok.1 answer
      exact ⟨.cons accepted value (.nil _), rfl, rfl⟩
  · cases h

theorem breaks_of_call {s : Setting} {g : Generator} {params : Params} {seed : UInt64}
    {path : FieldPath} {q r : Progress} {f : Failure}
    (h : call s g params seed path q = .error f r) :
    ∃ made ended, Breaks s ⟨path, g, params, seed⟩ q.world made ended f r.world := by
  unfold call Generator.invoke at h
  cases refused : params.refusal? g.specs g.id with
  | some e =>
      rw [refused] at h
      cases h
      exact ⟨[], none, .refused refused⟩
  | none =>
      rw [refused] at h
      dsimp only at h
      cases answer : (g.generate s.context params q.world (Stream.ofSeed seed)).outcome.result with
      | ok v =>
          rw [answer] at h
          cases h
      | error e =>
          rw [answer] at h
          cases h
          exact ⟨_, _, .failed refused answer⟩

theorem elementInvocations_succ (path : FieldPath) (g : Generator) (params : Params)
    (seed : UInt64) (first count : Nat) :
    elementInvocations path g params seed first (count + 1) =
      ⟨path.index first, g, params, Seed.element seed (UInt64.ofNat first)⟩ ::
        elementInvocations path g params seed (first + 1) count := by
  simp [elementInvocations, List.range'_succ]

theorem performed_of_elements {s : Setting} {path : FieldPath} {g : Generator} {params : Params}
    {seed : UInt64} {n first : Nat} {q r : Progress} {vs : List Value}
    (h : elements s path g params seed first n q = .ok vs r) :
    Performed s (elementInvocations path g params seed first n) q.world r.world ∧
      r.seeds = q.seeds ∧ r.usage = q.usage := by
  induction n generalizing first q vs with
  | zero =>
      cases h
      exact ⟨.nil _, rfl, rfl⟩
  | succ n ih =>
      rw [elements, fill_bind_eq_ok] at h
      obtain ⟨v, t, one, h⟩ := h
      rw [fill_bind_eq_ok] at h
      obtain ⟨rest, u, others, h⟩ := h
      cases h
      obtain ⟨performed, seeds, usage⟩ := performed_of_call one
      obtain ⟨performed', seeds', usage'⟩ := ih others
      rw [elementInvocations_succ]
      exact ⟨performed.append performed', seeds'.trans seeds, usage'.trans usage⟩

/-- A row of elements that fails does so at one of them, and the elements before it were given. -/
theorem breaks_of_elements {s : Setting} {path : FieldPath} {g : Generator} {params : Params}
    {seed : UInt64} {n first : Nat} {q r : Progress} {f : Failure}
    (h : elements s path g params seed first n q = .error f r) :
    ∃ done c rest now made ended,
      elementInvocations path g params seed first n = done ++ c :: rest ∧
        c.path = path.index (first + done.length) ∧ Performed s done q.world now ∧
        Breaks s c now made ended f r.world := by
  induction n generalizing first q with
  | zero => cases h
  | succ n ih =>
      rw [elements, fill_bind_eq_error] at h
      rw [elementInvocations_succ]
      rcases h with failed | ⟨v, t, one, h⟩
      · obtain ⟨made, ended, breaks⟩ := breaks_of_call failed
        exact ⟨[], _, _, q.world, made, ended, rfl, rfl, .nil _, breaks⟩
      · rw [fill_bind_eq_error] at h
        rcases h with failed | ⟨rest, u, -, h⟩
        · obtain ⟨performed, -, -⟩ := performed_of_call one
          obtain ⟨done, c, rest, now, made, ended, parts, place, performed', breaks⟩ := ih failed
          refine ⟨_ :: done, c, rest, now, made, ended, by rw [parts]; rfl, ?_,
            performed.append performed', breaks⟩
          rw [place, List.length_cons]
          congr 1
          omega
        · cases h

/-! ### One placeholder -/

theorem Stops.of_prepare_error {s : Setting} {path : FieldPath} {p : Placeholder} {e : Failure}
    (h : prepare s path p = .error e) (seed : UInt64) (w : World) :
    Stops s path p seed w [] none e w := by
  refine .unasked ?_
  rw [Placeholder.invocations, h]

/-- A placeholder that is filled takes one seed, all the calls that it asks for give values, and as
many calls are counted for its generator. -/
theorem performed_of_fill {s : Setting} {path : FieldPath} {p : Placeholder} {q r : Progress}
    {c : Content} (h : (Slot.of path p).fill s q = .ok c r) :
    ∃ cs id, p.invocations s path q.seed = .ok cs ∧ Performed s cs q.world r.world ∧
      r.seeds = q.drawn.seeds ∧ (∀ c ∈ cs, c.generator.id = id) ∧ 0 < cs.length ∧
      r.usage = q.usage.record id cs.length := by
  cases array : p.isArray with
  | false =>
      rw [Slot.of_scalar array, Slot.fill, fill_map_eq_ok] at h
      obtain ⟨v, ran, -⟩ := h
      cases prepared : prepare s path p with
      | error e =>
          rw [produce_of_prepare_error prepared] at ran
          cases ran
      | ok found =>
          obtain ⟨g, params⟩ := found
          rw [produce_of_prepare_ok prepared, fill_bind_eq_ok] at ran
          obtain ⟨w, t, one, ran⟩ := ran
          cases ran
          obtain ⟨performed, seeds, usage⟩ := performed_of_call one
          refine ⟨_, g.id, ?_, performed, seeds, by simp, Nat.one_pos, ?_⟩
          · simp [Placeholder.invocations, prepared, array]
          · simp [usage, Progress.drawn]
  | true =>
      rw [Slot.of_array array, Slot.fill, fill_map_eq_ok] at h
      obtain ⟨vs, ran, -⟩ := h
      cases prepared : prepare s path p with
      | error e =>
          rw [expand_of_prepare_error prepared] at ran
          cases ran
      | ok found =>
          obtain ⟨g, given⟩ := found
          cases count : takeCount given s.options.maxArrayCount with
          | mk number forwarded =>
              cases number with
              | error e =>
                  rw [expand_of_count_error prepared count] at ran
                  cases ran
              | ok n =>
                  rw [expand_of_count_ok prepared count, fill_bind_eq_ok] at ran
                  obtain ⟨ws, t, all, ran⟩ := ran
                  cases ran
                  obtain ⟨performed, seeds, usage⟩ := performed_of_elements all
                  refine ⟨_, g.id, ?_, performed, seeds, ?_, ?_, ?_⟩
                  · simp [Placeholder.invocations, prepared, array, count]
                  · simp [elementInvocations]
                  · simpa [elementInvocations] using takeCount_pos count
                  · simp [usage, Progress.drawn, elementInvocations]

theorem stops_of_fill {s : Setting} {path : FieldPath} {p : Placeholder} {q r : Progress}
    {f : Failure} (h : (Slot.of path p).fill s q = .error f r) :
    ∃ made ended, Stops s path p q.seed q.world made ended f r.world := by
  cases array : p.isArray with
  | false =>
      rw [Slot.of_scalar array, Slot.fill, fill_map_eq_error] at h
      cases prepared : prepare s path p with
      | error e =>
          rw [produce_of_prepare_error prepared] at h
          cases h
          exact ⟨[], none, .of_prepare_error prepared _ _⟩
      | ok found =>
          obtain ⟨g, params⟩ := found
          rw [produce_of_prepare_ok prepared, fill_bind_eq_error] at h
          rcases h with failed | ⟨w, t, -, h⟩
          · obtain ⟨made, ended, breaks⟩ := breaks_of_call failed
            have asked : p.invocations s path q.seed = .ok ([] ++ [⟨path, g, params, q.seed⟩]) := by
              simp [Placeholder.invocations, prepared, array]
            refine ⟨[] ++ made, ended, .called asked ?_ (.nil _) breaks⟩
            simp [Placeholder.place, array]
          · cases h
  | true =>
      rw [Slot.of_array array, Slot.fill, fill_map_eq_error] at h
      cases prepared : prepare s path p with
      | error e =>
          rw [expand_of_prepare_error prepared] at h
          cases h
          exact ⟨[], none, .of_prepare_error prepared _ _⟩
      | ok found =>
          obtain ⟨g, given⟩ := found
          cases count : takeCount given s.options.maxArrayCount with
          | mk number forwarded =>
              cases number with
              | error e =>
                  rw [expand_of_count_error prepared count] at h
                  cases h
                  refine ⟨[], none, .unasked ?_⟩
                  simp [Placeholder.invocations, prepared, array, count]
              | ok n =>
                  rw [expand_of_count_ok prepared count, fill_bind_eq_error] at h
                  rcases h with failed | ⟨ws, t, -, h⟩
                  · obtain ⟨done, c, rest, now, made, ended, parts, place, performed, breaks⟩ :=
                      breaks_of_elements failed
                    have asked : p.invocations s path q.seed = .ok (done ++ c :: rest) := by
                      simp [Placeholder.invocations, prepared, array, count, parts]
                    refine ⟨done.map Invocation.call ++ made, ended,
                      .called asked ?_ performed breaks⟩
                    simp [Placeholder.place, array, place]
                  · cases h

/-! ### A row of placeholders -/

theorem seedAt_drawn (q : Progress) (k : Nat) :
    seedAt q.drawn.seeds k = seedAt q.seeds (k + 1) := rfl

theorem countP_of_alike {cs : List Invocation} {id : String}
    (alike : ∀ c ∈ cs, c.generator.id = id) (other : String) :
    (cs.countP fun c => c.generator.id = other) = if other = id then cs.length else 0 := by
  split
  · next here =>
      rw [List.countP_eq_length]
      intro c member
      simp [alike c member, here]
  · next elsewhere =>
      rw [List.countP_eq_zero]
      intro c member
      simp [alike c member, Ne.symm elsewhere]

/-- A row of placeholders that is filled: each takes one seed, the calls that they ask for all give
values, and they are what is counted. -/
theorem performed_of_mapM {s : Setting} {ts : List (FieldPath × Placeholder)} {q r : Progress}
    {contents : List Content}
    (h : (ts.map fun t => Slot.of t.1 t.2).mapM (Slot.fill s) q = .ok contents r) :
    ∃ cs, Asks s q.seeds ts cs ∧ Performed s cs q.world r.world ∧
      (∀ k, seedAt r.seeds k = seedAt q.seeds (ts.length + k)) ∧
      ∀ n, q.usage.Counts n →
        r.usage.Counts fun id => n id + cs.countP fun c => c.generator.id = id := by
  induction ts generalizing contents q with
  | nil =>
      cases h
      exact ⟨[], .nil _, .nil _, fun k => by rw [List.length_nil, Nat.zero_add], fun n h => h⟩
  | cons t ts ih =>
      rw [List.map_cons, List.mapM_cons, fill_bind_eq_ok] at h
      obtain ⟨c, u, one, h⟩ := h
      rw [fill_bind_eq_ok] at h
      obtain ⟨others, v, all, h⟩ := h
      cases h
      obtain ⟨cs, id, asked, performed, seeds, alike, positive, usage⟩ := performed_of_fill one
      obtain ⟨ds, asked', performed', seeds', counts⟩ := ih all
      rw [seeds] at asked'
      refine ⟨cs ++ ds, .cons asked asked', performed.append performed', fun k => ?_, ?_⟩
      · rw [seeds', seeds, seedAt_drawn, List.length_cons]
        congr 1
        omega
      · -- All calls of a placeholder are of one generator, so they may be counted at once.
        intro n counted
        have all := counts _ (usage ▸ counted.record id positive)
        convert all using 2 with other
        rw [List.countP_append, countP_of_alike alike, Nat.add_assoc]

/-! ### Walks -/

theorem unmixed_of_mapM {s : Setting} {js : List Slot} {q r : Progress} {contents : List Content}
    (h : js.mapM (Slot.fill s) q = .ok contents r) (path : FieldPath) (name : String) :
    .mixed path name ∉ js := by
  induction js generalizing contents q r with
  | nil => exact List.not_mem_nil
  | cons j js ih =>
      rw [List.mapM_cons, fill_bind_eq_ok] at h
      obtain ⟨c, u, one, h⟩ := h
      rw [fill_bind_eq_ok] at h
      obtain ⟨others, v, all, -⟩ := h
      rw [List.mem_cons, not_or]
      refine ⟨?_, ih all⟩
      rintro rfl
      cases one

/-- A walk that succeeds makes exactly the calls that the placeholders of its template ask for, and
counts them. -/
theorem performed_of_walk {s : Setting} {template : Value} {seed : UInt64} {world later : World}
    {filled : Filled} (h : walk s template seed world = (.ok filled, later)) :
    ∃ cs, Asks s (Stream.ofSeed seed) (placed template) cs ∧ Performed s cs world later ∧
      filled.usage.Counts fun id => cs.countP fun c => c.generator.id = id := by
  obtain ⟨contents, q, ran, same⟩ := mapM_of_walk_ok (congrArg Prod.fst h)
  rw [walk_of_mapM_ok ran] at h
  cases h
  rw [slots_eq_map (unmixed_of_mapM ran)] at ran
  obtain ⟨cs, asked, performed, -, counts⟩ := performed_of_mapM ran
  refine ⟨cs, asked, performed, ?_⟩
  simpa using counts _ Usage.counts_nil

end Template

end Fabricate
