import Fabricate.Generator.Basic

/-!
# Generators that follow a script

A scripted generator does what it is told at each of its calls: it counts, and from a given call on
it performs one act. Every way in which a call can end is an act, so that what surrounds a generator
can be tried out against all of them.

A call is numbered by the calls made under the same name since the generator was put in place; what
came before that does not count.
-/

namespace Fabricate.Scripted

open Fabricate.Random

/-- What a scripted generator does at a call. -/
inductive Act where
  | give (v : Datum)
  | fail (reason : String)
  | refuse (reason : String)
  | crash (reason : Option String)
  /-- It asks for the work to stop and gives null. -/
  | cancel
  /-- It gives the next words of its stream as texts. -/
  | draw (count : Nat)
  /-- It gives back what it sees: the locale, the day and its parameters. -/
  | echo

/-- An act, and the call from which on it is performed; before, the number of the call is given. -/
structure Script where
  firstCall : Nat
  act : Act

/-- The number of calls made under a name since the given number of calls had been made at all. -/
def callsSince (world : World) (earlier : Nat) (id : String) : Nat :=
  (world.calls.take (world.calls.length - earlier)).countP (·.generator = id)

/-- Texts that name the locale, the day and every declared parameter, with a bar between them. -/
def echoed (context : Context) (specs : List ParamSpec) (params : Params) : String :=
  let shownParams := specs.map fun spec =>
    spec.key.toList ++ '=' :: ((params.text? spec.key).getD "-").toList
  String.ofList <|
    ['|'].intercalate (context.locale.tag.toList :: context.today.text :: shownParams)

/-- A word of a stream as a text. -/
def wordText (word : UInt64) : Datum :=
  .text (String.ofList (Decimal.ofNat word.toNat))

/-- The end of a call that performs an act. -/
def Act.reply (act : Act) (specs : List ParamSpec) (context : Context) (params : Params)
    (world : World) (stream : Stream) : Reply :=
  match act with
  | give v => ⟨.value v, world.cancelled⟩
  | fail reason => ⟨.failed reason, world.cancelled⟩
  | refuse reason => ⟨.refused (.constraint reason), world.cancelled⟩
  | crash reason => ⟨.crashed reason, world.cancelled⟩
  | cancel => ⟨.value .null, true⟩
  | draw count =>
      ⟨.value (.list (((repeated next64 count).answer stream).map wordText)), world.cancelled⟩
  | echo => ⟨.value (.text (echoed context specs params)), world.cancelled⟩

/-- The generator of a script, put in place when the given number of calls had been made. -/
def generator (id provider : String) (specs : List ParamSpec) (script : Script) (earlier : Nat) :
    Generator where
  id := id
  provider := provider
  specs := specs
  generate context params world stream :=
    let number := callsSince world earlier id + 1
    if number < script.firstCall then ⟨.value (.int (Int64.ofNat number)), world.cancelled⟩
    else script.act.reply specs context params world stream

end Fabricate.Scripted
