import Fabricate.Engine
import Fabricate.Generator.Scripted
import Fabricate.Proofs.Batch.Items
import Fabricate.Proofs.Template.Reason

/-!
# Reasons stay inside

Why a generator failed or crashed is for the log. Two engines with the same options, and with
registries that differ in such reasons only, give the same answer to every job (`SameAnswer`): the
same response, or failures of which a caller is told the same.

Both batches are in states that are told alike, and every turn keeps this: the items done and the
world are the same, so the workers see the same flag and stop at the same items. The answer is read
off the items in order, which picks the failure of the same item in both.

The flag may also be set and cleared from outside between the turns. That changes it in both batches
in the same way.
-/

namespace Fabricate

/-- The same result and the same world, or failures of which a caller is told the same. -/
inductive SameAnswer {α : Type} : Except Failure α × World → Except Failure α × World → Prop
  | ok (a : α) (w : World) : SameAnswer (.ok a, w) (.ok a, w)
  | error {f f' : Failure} (w : World) : f.body = f'.body → SameAnswer (.error f, w) (.error f', w)

theorem SameAnswer.of_mapError {α : Type} {x y : Except Failure α} {w v : World}
    (same : x.mapError Failure.body = y.mapError Failure.body) (world : w = v) :
    SameAnswer (x, w) (y, v) := by
  subst world
  cases x with
  | ok a =>
      cases y with
      | ok b =>
          cases same
          exact .ok a w
      | error f' => cases same
  | error f =>
      cases y with
      | ok b => cases same
      | error f' => exact .error w (Except.error.inj same)

theorem SameAnswer.map {α β : Type} (f : α → β) {x y : Except Failure α} {w v : World}
    (same : SameAnswer (x, w) (y, v)) : SameAnswer (x.map f, w) (y.map f, v) := by
  cases same with
  | ok a => exact .ok (f a) w
  | error _ body => exact .error w body

namespace Batch

open Json Template

/-- What happens next to a batch: the turn of a worker, or the flag is set or cleared from
outside. -/
inductive Event where
  | turn (worker : Nat)
  | flag (cancelled : Bool)

/-- The state after an event. -/
def State.happen (s : Setting) (heeded : Bool) (template : Value) (seeds : Seeds) (b : State) :
    Event → State
  | .turn i => b.turn s heeded template seeds i
  | .flag cancelled => { b with world := ⟨b.world.calls, cancelled⟩ }

/-- The documents of a template when events take the place of the schedule. -/
def generateAmid (s : Setting) (heeded : Bool) (template : Value) (count : Nat) (seeds : Seeds)
    (events : List Event) (world : World) : Except Failure Output × World :=
  if count = 0 ∨ s.options.maxCount < count then
    (.error (.badStructure "count" (countReason s.options.maxCount count)), world)
  else
    ((events.foldl (State.happen s heeded template seeds) (start s count world)).finish s heeded
      template seeds count []).answer heeded count

/-- When nothing happens but turns, the batch is the one that follows their schedule. -/
theorem generateAmid_turns (s : Setting) (heeded : Bool) (template : Value) (count : Nat)
    (seeds : Seeds) (schedule : List Nat) (world : World) :
    generateAmid s heeded template count seeds (schedule.map .turn) world =
      generate s heeded template count seeds schedule world := by
  unfold generateAmid generate perform
  rw [List.foldl_map]
  split
  · rfl
  · rfl

/-- An item and what is told of its result. -/
def toldItem (item : Nat × Except Failure Filled) : Nat × Except ErrorBody Filled :=
  (item.1, item.2.mapError Failure.body)

/-- The states are the same up to what is not told of failures. -/
structure State.ToldAlike (b b' : State) : Prop where
  done : b.done.map toldItem = b'.done.map toldItem
  failed : b.failed = b'.failed
  workers : b.workers = b'.workers
  world : b.world = b'.world

theorem isOk_of_mapError {α : Type} {x y : Except Failure α}
    (same : x.mapError Failure.body = y.mapError Failure.body) : x.isOk = y.isOk := by
  cases x <;> cases y <;> first | rfl | cases same

/-- The answers that are read off results told alike are told alike. -/
theorem collect_told_alike {rs rs' : List (Option (Except Failure Filled))}
    (same : rs.map (Option.map (Except.mapError Failure.body)) =
      rs'.map (Option.map (Except.mapError Failure.body))) :
    (collect rs).mapError Failure.body = (collect rs').mapError Failure.body := by
  induction rs generalizing rs' with
  | nil =>
      rw [List.map_nil, eq_comm, List.map_eq_nil_iff] at same
      rw [same]
  | cons r rs ih =>
      cases rs' with
      | nil => cases same
      | cons r' rs' =>
          rw [List.map_cons, List.map_cons, List.cons.injEq] at same
          obtain ⟨first, rest⟩ := same
          have later := ih rest
          cases r with
          | none =>
              cases r' with
              | some x' => cases first
              | none =>
                  -- An item that was not done gives way to a later failure.
                  rw [collect, collect]
                  revert later
                  cases collect rs <;> cases collect rs' <;> intro later
                  · exact later
                  · cases later
                  · cases later
                  · rfl
          | some x =>
              cases r' with
              | none => cases first
              | some x' =>
                  have told := Option.some.inj first
                  cases x <;> cases x'
                  · rw [collect, collect]
                    exact congrArg Except.error (Except.error.inj told)
                  · cases told
                  · cases told
                  · cases told
                    rw [collect, collect]
                    revert later
                    cases collect rs <;> cases collect rs' <;> intro later
                    · exact congrArg Except.error (Except.error.inj later)
                    · cases later
                    · cases later
                    · cases later
                      rfl

namespace State.ToldAlike

variable {b b' : State} (alike : b.ToldAlike b')

include alike

theorem halted (heeded : Bool) : b.halted heeded = b'.halted heeded := by
  rw [State.halted, State.halted, alike.failed, alike.world]

theorem assign (i : Nat) (w : Worker) (task : Task) :
    (b.assign i w task).ToldAlike (b'.assign i w task) :=
  ⟨alike.done, alike.failed, congrArg (·.set i { w with task := task }) alike.workers, alike.world⟩

theorem result? (item : Nat) :
    (b.result? item).map (Except.mapError Failure.body) =
      (b'.result? item).map (Except.mapError Failure.body) := by
  have found := congrArg (List.find? fun t => t.1 = item) alike.done
  rw [List.find?_map, List.find?_map] at found
  have seconds := congrArg (Option.map Prod.snd) found
  rw [Option.map_map, Option.map_map] at seconds
  rw [State.result?, State.result?, Option.map_map, Option.map_map]
  exact seconds

theorem answer (heeded : Bool) (count : Nat) :
    SameAnswer (b.answer heeded count) (b'.answer heeded count) := by
  unfold State.answer
  rw [← alike.world]
  split
  · exact .error _ rfl
  · refine .of_mapError (collect_told_alike ?_) rfl
    rw [List.map_map, List.map_map]
    exact List.map_congr_left fun item _ => alike.result? item

variable {s s' : Setting} (h : s.SameButReasons s') (heeded : Bool) (template : Value)
  (seeds : Seeds)

include h

/-- A turn of a worker keeps two batches told alike. -/
theorem turn (i : Nat) :
    (b.turn s heeded template seeds i).ToldAlike (b'.turn s' heeded template seeds i) := by
  unfold State.turn
  rw [← alike.workers, ← alike.halted, ← alike.world]
  cases b.workers[i]? with
  | none => exact alike
  | some w =>
      dsimp only
      cases w.task with
      | stopped => exact alike
      | take next =>
          dsimp only
          split
          · exact alike.assign i w _
          · exact alike.assign i w _
      | finish item =>
          obtain ⟨result, world⟩ := walk_told_alike h template (seeds.item item) b.world
          have finished : State.ToldAlike
              ⟨(item, (walk s template (seeds.item item) b.world).1) :: b.done,
                b.failed || !(walk s template (seeds.item item) b.world).1.isOk, b.workers,
                (walk s template (seeds.item item) b.world).2⟩
              ⟨(item, (walk s' template (seeds.item item) b.world).1) :: b'.done,
                b'.failed || !(walk s' template (seeds.item item) b.world).1.isOk, b.workers,
                (walk s' template (seeds.item item) b.world).2⟩ := by
            refine ⟨?_, ?_, rfl, world⟩
            · rw [List.map_cons, List.map_cons, alike.done, toldItem, toldItem, result]
            · rw [alike.failed, isOk_of_mapError result]
          exact finished.assign i w _

theorem happen (event : Event) :
    (b.happen s heeded template seeds event).ToldAlike
      (b'.happen s' heeded template seeds event) := by
  cases event with
  | turn i => exact alike.turn h heeded template seeds i
  | flag cancelled =>
      exact ⟨alike.done, alike.failed, alike.workers,
        congrArg (World.mk · cancelled) (congrArg World.calls alike.world)⟩

theorem foldl_happen (events : List Event) :
    (events.foldl (State.happen s heeded template seeds) b).ToldAlike
      (events.foldl (State.happen s' heeded template seeds) b') := by
  induction events generalizing b b' with
  | nil => exact alike
  | cons event events ih => exact ih (alike.happen h heeded template seeds event)

theorem finish (count : Nat) (schedule : List Nat) :
    (b.finish s heeded template seeds count schedule).ToldAlike
      (b'.finish s' heeded template seeds count schedule) := by
  have turns := alike.foldl_happen h heeded template seeds
    ((allTurns count b.workers.length schedule).map .turn)
  rw [List.foldl_map, List.foldl_map] at turns
  rw [State.finish_eq_foldl, State.finish_eq_foldl, ← alike.workers]
  exact turns

end State.ToldAlike

/-- Batches in settings that differ in reasons only give the same answer, whatever happens between
their turns. -/
theorem sameAnswer_generateAmid {s s' : Setting} (h : s.SameButReasons s') (heeded : Bool)
    (template : Value) (count : Nat) (seeds : Seeds) (events : List Event) (world : World) :
    SameAnswer (generateAmid s heeded template count seeds events world)
      (generateAmid s' heeded template count seeds events world) := by
  have started : (start s count world).ToldAlike (start s' count world) := by
    rw [start, start, h.options]
    exact ⟨rfl, rfl, rfl, rfl⟩
  unfold generateAmid
  rw [h.options]
  split
  · exact .error world rfl
  · exact ((started.foldl_happen h heeded template seeds events).finish h heeded template seeds
      count []).answer heeded count

end Batch

namespace Engine

open Json

/-- Answers a request when events take the place of the schedule. -/
def generateAmid (e : Engine) (job : Job) (near : Surroundings) (events : List Batch.Event)
    (world : World) : Except Failure Response × World :=
  match e.locale job.locale with
  | .error failure => (.error failure, world)
  | .ok l =>
      let (output, world) :=
        Batch.generateAmid (e.setting l near.today) true job.template job.count
          ⟨job.seed, near.chance⟩ events world
      (output.map fun o => ⟨o.documents, job.count, l, job.seed, 0, o.usage⟩, world)

/-- When nothing happens but turns, the answer is that of the engine with their schedule. -/
theorem generateAmid_turns (e : Engine) (job : Job) (near : Surroundings) (world : World) :
    e.generateAmid job near (near.schedule.map .turn) world = e.generate job near world := by
  unfold generateAmid generate perform
  cases e.locale job.locale with
  | error failure => rfl
  | ok l =>
      dsimp only
      rw [Batch.generateAmid_turns]
      rfl

theorem sameAnswer_generateAmid {e e' : Engine} (options : e.options = e'.options)
    (registries : e.registry.SameButReasons e'.registry) (job : Job) (near : Surroundings)
    (events : List Batch.Event) (world : World) :
    SameAnswer (e.generateAmid job near events world)
      (e'.generateAmid job near events world) := by
  have locale : e.locale job.locale = e'.locale job.locale := by
    rw [Engine.locale, Engine.locale, options]
  unfold generateAmid
  rw [locale]
  cases e'.locale job.locale with
  | error failure => exact .error world rfl
  | ok l =>
      have settings : (e.setting l near.today).SameButReasons (e'.setting l near.today) := by
        refine ⟨registries, options, ?_⟩
        rw [setting, setting, referenceDate, referenceDate, options]
      exact (Batch.sameAnswer_generateAmid settings true job.template job.count
        ⟨job.seed, near.chance⟩ events world).map _

/-- Why a generator failed or crashed does not reach the caller. Two engines with the same options
and with registries that differ in such reasons only answer every job alike: with the same response,
or with failures of which the caller is told the same. This holds for every schedule of the workers
and whenever the flag is set or cleared, by generators or from outside. -/
theorem reasons_stay_inside (e e' : Engine) (options : e.options = e'.options)
    (registries : e.registry.SameButReasons e'.registry) (job : Job) (near : Surroundings)
    (world : World) :
    SameAnswer (e.generate job near world) (e'.generate job near world) ∧
      ∀ events, SameAnswer (e.generateAmid job near events world)
        (e'.generateAmid job near events world) := by
  refine ⟨?_, fun events => sameAnswer_generateAmid options registries job near events world⟩
  rw [← generateAmid_turns, ← generateAmid_turns]
  exact sameAnswer_generateAmid options registries job near _ world

/-- At the second call one generator fails with a secret and the other crashes. -/
theorem reasons_stay_inside_scripted :
    let e : Engine :=
      ⟨Registry.empty.register (Scripted.generator "n" "one" [] ⟨2, .fail "secret"⟩ 0), .standard 1⟩
    let e' : Engine :=
      ⟨Registry.empty.register (Scripted.generator "n" "other" [] ⟨2, .crash none⟩ 0), .standard 1⟩
    let near : Surroundings := ⟨⟨2024, 6, 1, by decide, by decide, by decide⟩, fun _ => 0, []⟩
    let text : Value := .string "\x7b\x7bn\x7d\x7d"
    let job : Job := ⟨.array [text, text], 2, none, some 7⟩
    let clear : World := ⟨[], false⟩
    e.options = e'.options ∧ e.registry.SameButReasons e'.registry ∧
      (e.generate job near clear).1.map (fun _ => ()) = .error (.internal "[1]" "n" "secret") ∧
      (e'.generate job near clear).1.map (fun _ => ()) =
        .error (.internal "[1]" "n" "panic during generation") ∧
      SameAnswer (e.generate job near clear) (e'.generate job near clear) ∧
      ∀ events, SameAnswer (e.generateAmid job near events clear)
        (e'.generateAmid job near events clear) := by
  intro e e' near text job clear
  have registries : e.registry.SameButReasons e'.registry := by
    refine ⟨rfl, rfl, fun id g g' found found' => ?_⟩
    have one := Directory.mem_of_get? found
    have other := Directory.mem_of_get? found'
    cases List.mem_singleton.1 one
    cases List.mem_singleton.1 other
    refine ⟨rfl, rfl, ?_, ?_⟩
    · intro context params world stream
      dsimp only [Scripted.generator]
      split <;> rfl
    · intro context params world stream
      dsimp only [Scripted.generator]
      split <;> rfl
  exact ⟨rfl, registries, by decide +kernel, by decide +kernel,
    reasons_stay_inside e e' rfl registries job near clear⟩

end Engine

end Fabricate
