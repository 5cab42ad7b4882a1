import Fabricate.Template.Walk

/-!
# Batches

A batch fills one template several times, each item with a seed of its own. Workers share the items
in runs of neighbours; before each item a worker looks whether another one has failed or the work is
to stop, and stops if so. The outcome is read off the items in order once all workers have stopped,
so a batch is either complete or a failure.

A turn of a worker is one of two things: it takes up its next item, or it finishes the item it has
taken up. A schedule is the row of workers whose turns come next; any schedule is possible, and when
it ends the workers still at work are driven to their ends one after the other. With one worker, or
without a schedule, the items come in order.
-/

namespace Fabricate.Batch

open Json Template

/-- The documents of a batch in order, and the calls made for them. -/
structure Output where
  documents : List Value
  usage : Usage

/-- Where the seeds of the items come from: a base seed, or else a source of chance. -/
structure Seeds where
  base : Option UInt64
  chance : Nat → UInt64

/-- The seed of an item. -/
def Seeds.item (s : Seeds) (index : Nat) : UInt64 :=
  match s.base with
  | some base => Seed.item base (UInt64.ofNat index)
  | none => s.chance index

/-- What a worker does next. -/
inductive Task where
  /-- It takes up this item, unless it is the end of its run or the work is to stop. -/
  | take (next : Nat)
  /-- It finishes this item. -/
  | finish (item : Nat)
  | stopped
  deriving DecidableEq

/-- A worker: the end of its run of items, and what it does next. -/
structure Worker where
  stop : Nat
  task : Task
  deriving DecidableEq

/-- The state of a batch: the items done so far, whether one has failed, the workers and the world.
-/
structure State where
  done : List (Nat × Except Failure Filled)
  failed : Bool
  workers : List Worker
  world : World

/-- The number of workers that share a batch. -/
def workerCount (concurrency count : Nat) : Nat :=
  min (max concurrency 1) count

/-- The number of items in a run. -/
def runLength (count workers : Nat) : Nat :=
  (count + workers - 1) / workers

/-- The workers of a batch before their first turns, one for each run that is not empty. -/
def startWorkers (count workers : Nat) : List Worker :=
  let size := runLength count workers
  ((List.range workers).filter fun i => i * size < count).map fun i =>
    ⟨min count ((i + 1) * size), .take (i * size)⟩

/-- Whether the work is to stop: the flag counts only where it is `heeded`. -/
def State.halted (heeded : Bool) (b : State) : Bool :=
  b.failed || (heeded && b.world.cancelled)

/-- Gives a worker another task. -/
def State.assign (b : State) (i : Nat) (w : Worker) (task : Task) : State :=
  { b with workers := b.workers.set i { w with task := task } }

/-- The state after one turn of a worker. -/
def State.turn (s : Setting) (heeded : Bool) (template : Value) (seeds : Seeds) (b : State)
    (i : Nat) : State :=
  match b.workers[i]? with
  | none => b
  | some w =>
      match w.task with
      | .stopped => b
      | .take next =>
          if next < w.stop ∧ b.halted heeded = false then b.assign i w (.finish next)
          else b.assign i w .stopped
      | .finish item =>
          let (result, world) := walk s template (seeds.item item) b.world
          let failed := b.failed || !result.isOk
          { b with done := (item, result) :: b.done, failed := failed, world := world }.assign i w
            (.take (item + 1))

/-- The state after a worker was driven for the given number of turns. -/
def State.drive (s : Setting) (heeded : Bool) (template : Value) (seeds : Seeds) (i : Nat) :
    Nat → State → State
  | 0, b => b
  | turns + 1, b => State.drive s heeded template seeds i turns (b.turn s heeded template seeds i)

/-- The state after the schedule, and after every worker has come to its end. A worker needs two
turns for an item and one to stop. -/
def State.finish (s : Setting) (heeded : Bool) (template : Value) (seeds : Seeds) (count : Nat)
    (schedule : List Nat) (b : State) : State :=
  let b := schedule.foldl (State.turn s heeded template seeds) b
  (List.range b.workers.length).foldl
    (fun b i => b.drive s heeded template seeds i (2 * count + 1)) b

/-- The result of an item, if it was done. -/
def State.result? (b : State) (item : Nat) : Option (Except Failure Filled) :=
  (b.done.find? fun (i, _) => i = item).map Prod.snd

/-- The documents of the items in order, up to the first failure. An item that was not done counts
only when no item failed. -/
def collect : List (Option (Except Failure Filled)) → Except Failure Output
  | [] => .ok ⟨[], []⟩
  | some (.error e) :: _ => .error e
  | some (.ok f) :: rest => do
      let others ← collect rest
      return ⟨f.document :: others.documents, f.usage.add others.usage⟩
  | none :: rest =>
      match collect rest with
      | .error e => .error e
      | .ok _ => .error .cancelled

/-- What is wrong with a number of documents. -/
def countReason (max count : Nat) : String :=
  "count must be between 1 and " ++ String.ofList (Decimal.ofNat max) ++ ", got " ++
    String.ofList (Decimal.ofNat count)

/-- The state of a batch before its first turn. -/
def start (s : Setting) (count : Nat) (world : World) : State :=
  ⟨[], false, startWorkers count (workerCount s.options.concurrency count), world⟩

/-- The state in which the workers of a batch leave it. -/
def final (s : Setting) (heeded : Bool) (template : Value) (count : Nat) (seeds : Seeds)
    (schedule : List Nat) (world : World) : State :=
  (start s count world).finish s heeded template seeds count schedule

/-- What is answered when all workers have come to their ends. -/
def State.answer (heeded : Bool) (count : Nat) (b : State) : Except Failure Output × World :=
  if heeded && b.world.cancelled then (.error .cancelled, b.world)
  else (collect ((List.range count).map b.result?), b.world)

/-! ### What the log is told -/

/-- An event of a batch. -/
def event (level : LogLevel) (message : String) (values : List (String × Value)) : LogEvent :=
  ⟨level, "phoney_generate::template::bulk", message, values⟩

/-- What is told when a batch starts. -/
def started (s : Setting) (count : Nat) (seeds : Seeds) : LogEvent :=
  event .info "bulk generation started"
    [("count", LogEvent.number count),
      ("workers", LogEvent.number (workerCount s.options.concurrency count)),
      ("locale", .string s.context.locale.tag),
      ("seeded", .bool seeds.base.isSome)]

/-- What is told of an item that is done. -/
def toldOfItem : Nat × Except Failure Filled → List LogEvent
  | (item, result) =>
      toldOfWalk result ++
        [event .debug "document generated"
          [("item_index", LogEvent.number item), ("failed", .bool !result.isOk)]]

/-- The first of the items that failed, and its failure. -/
def State.firstFailure? (count : Nat) (b : State) : Option (Nat × Failure) :=
  (List.range count).findSome? fun item =>
    match b.result? item with
    | some (.error e) => some (item, e)
    | _ => none

/-- What is told when all workers have come to their ends. Nothing is told of a batch in which no
item failed and some were not done. -/
def State.ended (heeded : Bool) (count : Nat) (b : State) : List LogEvent :=
  if heeded && b.world.cancelled then
    [event .warn "bulk generation cancelled" [("count", LogEvent.number count)]]
  else
    match b.firstFailure? count with
    | some (item, e) =>
        [event .warn "bulk generation failed"
          [("item_index", LogEvent.number item), ("error", .string e.message)]]
    | none =>
        if (b.answer heeded count).1.isOk then
          [event .info "bulk generation finished" [("count", LogEvent.number count)]]
        else []

/-- What is told after the start of a batch that comes to this state. -/
def State.told (heeded : Bool) (count : Nat) (b : State) : List LogEvent :=
  b.done.reverse.flatMap toldOfItem ++ b.ended heeded count

/-! ### Batches as a whole -/

/-- The documents of a template and the world afterwards, with what the log is told. The flag that
asks the work to stop counts only where it is `heeded`. -/
def perform (s : Setting) (heeded : Bool) (template : Value) (count : Nat) (seeds : Seeds)
    (schedule : List Nat) (world : World) : Logged (Except Failure Output × World) :=
  if count = 0 ∨ s.options.maxCount < count then
    ⟨(.error (.badStructure "count" (countReason s.options.maxCount count)), world), []⟩
  else
    let b := final s heeded template count seeds schedule world
    ⟨b.answer heeded count, started s count seeds :: b.told heeded count⟩

/-- The documents of a template, and the world afterwards. -/
def generate (s : Setting) (heeded : Bool) (template : Value) (count : Nat) (seeds : Seeds)
    (schedule : List Nat) (world : World) : Except Failure Output × World :=
  (perform s heeded template count seeds schedule world).result

end Fabricate.Batch
