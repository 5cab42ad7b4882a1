import Fabricate.Datum
import Fabricate.Directory
import Fabricate.Locale
import Fabricate.Param.Spec
import Fabricate.Random.Stream

/-!
# Generators

A generator makes one value from its context, its parameters and a random stream of its own. It may
also do things that outlast the call: it may look at the calls made so far and it may set or clear
the flag that asks for the work to stop. Both are explicit, so a generator is a function and
everything a run leaves behind is in its `World`.

`invoke` is the only way to call one: the parameters are checked first, and a call that is refused
by the check is not made. A crash is answered like any other failure.
-/

namespace Fabricate

open Fabricate.Random

/-- What a generator sees besides its parameters. -/
structure Context where
  locale : Locale
  /-- The day that relative dates count from. -/
  today : Calendar.Date

/-- A call that was made. -/
structure Call where
  generator : String
  params : Params
  seed : UInt64

/-- What outlasts a call: the calls made so far, the last one first, and the flag that asks for the
work to stop. -/
structure World where
  calls : List Call
  cancelled : Bool

/-- How a call ended. -/
inductive Outcome where
  | value (v : Datum)
  /-- The parameters have the right kinds but do not fit. -/
  | refused (e : ParamError)
  | failed (reason : String)
  /-- The call did not return; the reason is missing when it is no text. -/
  | crashed (reason : Option String)

/-- The end of a call and the state in which it leaves the flag. -/
structure Reply where
  outcome : Outcome
  cancelled : Bool

/-- A generator: its canonical name, the family it is listed under, the parameters it takes, and
what it does. -/
structure Generator where
  id : String
  provider : String
  specs : List ParamSpec
  generate : Context → Params → World → Stream → Reply

/-- A computation that draws and may refuse its parameters. -/
abbrev Produce := ExceptT ParamError Draw

/-- Refuses the parameters for a stated reason. -/
def refuse {α : Type} (reason : String) : Produce α :=
  throw (.constraint reason)

/-- A generator that depends on nothing but context, parameters and stream. -/
def Generator.ofProduce (id provider : String) (specs : List ParamSpec)
    (produce : Context → Params → Produce Datum) : Generator where
  id := id
  provider := provider
  specs := specs
  generate context params world stream :=
    { outcome :=
        match (produce context params).run.answer stream with
        | .ok v => .value v
        | .error e => .refused e
      cancelled := world.cancelled }

/-- Why a generator gave no value. -/
inductive InvokeError where
  | refused (e : ParamError)
  | failed (reason : String)
  deriving DecidableEq

/-- The value of an outcome, or why there is none. -/
def Outcome.result : Outcome → Except InvokeError Datum
  | .value v => .ok v
  | .refused e => .error (.refused e)
  | .failed reason => .error (.failed reason)
  | .crashed reason => .error (.failed (reason.getD "panic during generation"))

/-- Calls a generator with a stream of its own, unless its declared parameters refuse the call. -/
def Generator.invoke (g : Generator) (context : Context) (params : Params) (seed : UInt64)
    (world : World) : Except InvokeError Datum × World :=
  match params.refusal? g.specs g.id with
  | some e => (.error (.refused e), world)
  | none =>
      let reply := g.generate context params world (Stream.ofSeed seed)
      (reply.outcome.result, ⟨⟨g.id, params, seed⟩ :: world.calls, reply.cancelled⟩)

end Fabricate
