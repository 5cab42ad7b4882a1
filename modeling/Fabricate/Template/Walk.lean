import Fabricate.Generator.Registry
import Fabricate.Log
import Fabricate.Options
import Fabricate.Seed.Derive
import Fabricate.Template.ArrayCount

/-!
# Filling a template

A template is filled by recursion on it: keys, numbers and texts without placeholders stay, and a
text with placeholders is filled by the values of its generators. A placeholder alone in its text
gives a value of any type, an array in brackets a row of them, and placeholders among other text are
shown in their places.

Every placeholder takes one seed from the stream of its document, in the order of the template, and
its generator draws from a stream of that seed. An element of an array has a seed made from that of
the array and its own position. So a placeholder's value depends on its place among the placeholders
and on nothing else around it.

The first failure ends the walk; what was called up to then stays in the world.
-/

namespace Fabricate.Template

open Json Fabricate.Random

/-- What a walk may use: the generators, the limits and the context of its generators. -/
structure Setting where
  registry : Registry
  options : Options
  context : Context

/-- The state of a walk: the stream of seeds, the world, and the calls counted so far. -/
structure Progress where
  seeds : Stream
  world : World
  usage : Usage

/-- A step of a walk, which may fail. -/
abbrev Fill := EStateM Failure Progress

/-- The seed of the next placeholder. -/
def nextSeed : Fill UInt64 := fun p =>
  let (seed, seeds) := next64.run p.seeds
  .ok seed { p with seeds := seeds }

/-- Counts calls of a generator. -/
def record (generator : String) (calls : Nat) : Fill PUnit := fun p =>
  .ok ⟨⟩ { p with usage := p.usage.record generator calls }

/-- The failure that a call leaves at its place. -/
def callFailure (path : FieldPath) (generator : String) : InvokeError → Failure
  | .refused e => .parameter path.label (some generator) e
  | .failed reason => .internal path.label generator reason

/-- Calls a generator for the value at a place. -/
def call (s : Setting) (g : Generator) (params : Params) (seed : UInt64) (path : FieldPath) :
    Fill Datum := fun p =>
  match g.invoke s.context params seed p.world with
  | (.ok v, world) => .ok v { p with world := world }
  | (.error e, world) => .error (callFailure path g.id e) { p with world := world }

/-- What is said of a name that stands for no generator. -/
def notFound (s : Setting) (path : FieldPath) (name : String) : Failure :=
  .generatorNotFound path.label name (s.registry.suggest name s.options.suggestionLimit)

/-- The generator and the typed parameters of a placeholder. -/
def prepare (s : Setting) (path : FieldPath) (p : Placeholder) :
    Except Failure (Generator × Params) :=
  match s.registry.resolve? p.name with
  | none => .error (notFound s path p.name)
  | some g =>
      match Param.coerceAll p.params with
      | .error e => .error (.parameter path.label (some p.name) e)
      | .ok params => .ok (g, params)

/-- An answer that was found without the state. -/
def settled {α : Type} : Except Failure α → Fill α
  | .ok a => pure a
  | .error e => throw e

/-- The value of one placeholder. -/
def produce (s : Setting) (path : FieldPath) (p : Placeholder) : Fill Datum := do
  let (g, params) ← settled (prepare s path p)
  let seed ← nextSeed
  let v ← call s g params seed path
  record g.id 1
  return v

/-- The elements of an array from the given position on. -/
def elements (s : Setting) (path : FieldPath) (g : Generator) (params : Params) (seed : UInt64)
    (first : Nat) : Nat → Fill (List Value)
  | 0 => return []
  | count + 1 => do
      let v ← call s g params (Seed.element seed (UInt64.ofNat first)) (path.index first)
      let rest ← elements s path g params seed (first + 1) count
      return v.toJson :: rest

/-- The elements that an array placeholder stands for. -/
def expand (s : Setting) (path : FieldPath) (p : Placeholder) : Fill (List Value) := do
  let (g, params) ← settled (prepare s path p)
  let (count, params) := takeCount params s.options.maxArrayCount
  let count ← settled (count.mapError fun e => e.failure path p.name)
  let seed ← nextSeed
  let vs ← elements s path g params seed 0 count
  record g.id count
  return vs

/-- The text in which every placeholder is replaced by the value shown in its place. -/
def splice (s : Setting) (path : FieldPath) : List Piece → Fill (List Char)
  | [] => return []
  | .literal c :: ps => do
      let rest ← splice s path ps
      return c :: rest
  | .placeholder p :: ps => do
      let v ← produce s path p
      let rest ← splice s path ps
      return v.shown ++ rest

/-- What is wrong with an array that is not alone in its text. -/
def mixedReason : String := "array placeholder must be the only content of its value"

/-- The failure of an array that is not alone in its text. -/
def mixedFailure (path : FieldPath) (name : String) : Failure :=
  .badStructure path.label (mixedReason ++ " ('" ++ name ++ "')")

/-- What a text of a template becomes. -/
def fillText (s : Setting) (path : FieldPath) (text : String) : Fill Value :=
  let ps := pieces text.toList
  match standalone? ps with
  | some p =>
      if p.isArray then do return .array (← expand s path p)
      else do return (← produce s path p).toJson
  | none =>
      match (placeholders ps).find? Placeholder.isArray with
      | some p => throw (mixedFailure path p.name)
      | none => do return .string (String.ofList (← splice s path ps))

mutual

/-- What a value of a template becomes. -/
def fill (s : Setting) (path : FieldPath) : Value → Fill Value
  | .object fields => do return .object (← fillFields s path fields)
  | .array items => do return .array (← fillItems s path 0 items)
  | .string text => fillText s path text
  | .null => return .null
  | .bool b => return .bool b
  | .number n => return .number n

/-- What the items from the given position on become. -/
def fillItems (s : Setting) (path : FieldPath) (first : Nat) : List Value → Fill (List Value)
  | [] => return []
  | v :: rest => do
      let filled ← fill s (path.index first) v
      let others ← fillItems s path (first + 1) rest
      return filled :: others

/-- What the fields become. -/
def fillFields (s : Setting) (path : FieldPath) :
    List (String × Value) → Fill (List (String × Value))
  | [] => return []
  | (name, v) :: rest => do
      let filled ← fill s (path.key name) v
      let others ← fillFields s path rest
      return (name, filled) :: others

end

/-- A document and the calls made for it. -/
structure Filled where
  document : Value
  usage : Usage

/-- The document of a template for a seed, and the world afterwards. -/
def walk (s : Setting) (template : Value) (seed : UInt64) (world : World) :
    Except Failure Filled × World :=
  match (fill s .root template).run ⟨Stream.ofSeed seed, world, []⟩ with
  | .ok document p => (.ok ⟨document, p.usage⟩, p.world)
  | .error e p => (.error e, p.world)

/-- What the log is told while a template is filled. Only a generator that fails is told of, and it
ends the walk, so what is told can be read off the result. -/
def toldOfWalk : Except Failure Filled → List LogEvent
  | .error (.internal path generator reason) =>
      [⟨.error, "phoney_generate::template::walker", "generator failed",
        [("path", .string path), ("generator", .string generator), ("error", .string reason)]⟩]
  | _ => []

end Fabricate.Template
