import Fabricate.Generator.Number
import Fabricate.Proofs.Random.Draw

/-!
# Values that are drawn

A generator's computation refuses, goes on with a value, or draws. What it answers from a stream is
found step by step: a refusal ends it, and an answer is handed on together with the rest of the
stream (`answer_bind`). A generator made of such a computation ends its calls in the same way, and
what is said of it is mostly when it refuses its parameters and what it gives otherwise (`Answers`).
-/

namespace Fabricate

open Fabricate.Random

variable {α β : Type}

theorem answer_refuse (reason : String) (s : Stream) :
    (refuse reason : Produce α).run.answer s = .error (.constraint reason) := rfl

theorem answer_lift (draw : Draw α) (s : Stream) :
    (liftM draw : Produce α).run.answer s = .ok (draw.answer s) := rfl

/-- An answer is handed on with the rest of the stream. -/
theorem exists_answer_bind {p : Produce α} {s : Stream} {a : α} (h : p.run.answer s = .ok a)
    (f : α → Produce β) : ∃ t, (p >>= f).run.answer s = (f a).run.answer t := by
  cases drawn : p.run.run s with
  | mk x t =>
      have value : x = .ok a := by
        rw [← h, Draw.answer, drawn]
      have step : (p >>= f).run = p.run >>= ExceptT.bindCont f := rfl
      refine ⟨t, ?_⟩
      rw [step, Draw.answer_bind drawn, value]
      rfl

theorem answer_bind {p : Produce α} {f : α → Produce β} {s : Stream} {a : α}
    {r : Except ParamError β} (h : p.run.answer s = .ok a)
    (later : ∀ t, (f a).run.answer t = r) : (p >>= f).run.answer s = r := by
  obtain ⟨t, same⟩ := exists_answer_bind h f
  rw [same, later t]

theorem answer_map {p : Produce α} {s : Stream} {a : α} (h : p.run.answer s = .ok a)
    (f : α → β) : (p >>= fun a => pure (f a)).run.answer s = .ok (f a) :=
  answer_bind h fun _ => rfl

namespace Generator

variable {id provider : String} {specs : List ParamSpec}
  {produce : Context → Params → Produce Datum} {context : Context} {params : Params} {s : Stream}

theorem outcome_of_answer_ok {v : Datum} (h : (produce context params).run.answer s = .ok v)
    (world : World) :
    ((ofProduce id provider specs produce).generate context params world s).outcome =
      .value v := by
  unfold ofProduce
  dsimp only
  rw [h]

theorem outcome_of_answer_error {e : ParamError}
    (h : (produce context params).run.answer s = .error e) (world : World) :
    ((ofProduce id provider specs produce).generate context params world s).outcome =
      .refused e := by
  unfold ofProduce
  dsimp only
  rw [h]

/-! ### Refusals -/

/-- The parameters are refused exactly in the bad case, and in all other cases a good value is
given. -/
structure Answers (bad : Prop) (good : Datum → Prop) (o : Outcome) : Prop where
  refused_iff : (∃ reason, o = .refused (.constraint reason)) ↔ bad
  value : ¬ bad → ∃ v, o = .value v ∧ good v

theorem Answers.of_refused {bad : Prop} {good : Datum → Prop} {reason : String} (h : bad) :
    Answers bad good (.refused (.constraint reason)) :=
  ⟨⟨fun _ => h, fun _ => ⟨reason, rfl⟩⟩, fun fine => absurd h fine⟩

theorem Answers.of_value {bad : Prop} {good : Datum → Prop} {v : Datum} (h : ¬ bad)
    (fits : good v) : Answers bad good (.value v) := by
  refine ⟨⟨?_, fun fails => absurd fails h⟩, fun _ => ⟨v, rfl, fits⟩⟩
  rintro ⟨reason, refused⟩
  cases refused

theorem Answers.imp {bad : Prop} {good better : Datum → Prop} {o : Outcome}
    (h : Answers bad good o) (stronger : ∀ v, good v → better v) : Answers bad better o :=
  ⟨h.refused_iff, fun fine => (h.value fine).imp fun v given => given.imp_right (stronger v)⟩

theorem bounded_of_mem {key : String} {default min max : Int} {n : Nat}
    (given : ((params.int? key).map Int64.toInt).getD default = n) (lower : min ≤ n)
    (upper : n ≤ max) : bounded params key default min max = pure n := by
  unfold bounded
  rw [given]
  dsimp only
  rw [if_pos ⟨lower, upper⟩, Int.toNat_natCast]

theorem bounded_of_notMem {key : String} {default min max : Int}
    (h : ¬(min ≤ ((params.int? key).map Int64.toInt).getD default ∧
      ((params.int? key).map Int64.toInt).getD default ≤ max)) :
    bounded params key default min max =
      refuse (key ++ " must be between " ++ intText min ++ " and " ++ intText max) := by
  unfold bounded
  dsimp only
  rw [if_neg h]

end Generator

end Fabricate
