import Fabricate.Proofs.Generator.DateRange
import Fabricate.Proofs.Generator.Standard
import Fabricate.Proofs.Param.Literal
import Fabricate.Proofs.Template.Form

/-!
# Dates written as bounds

A date can be written without quotes where a placeholder takes a bound. Its text holds only digits
and signs, so nothing in it ends the placeholder or the parameter (`alone_betweenText`,
`params_betweenPlaceholder`). It is taken for a text, since the dash behind its first character
makes it neither an integer nor a real, and no truth value starts like it (`coerceValue_text`). What
reaches the generator is therefore the text that was printed, and its evaluation gives the date
back.

A range whose bounds are one date holds nothing else, so every draw from it gives this date.
-/

namespace Fabricate

open Json Calendar Fabricate.Random

/-! ### The text of a date as a value -/

theorem Calendar.Date.notMem_text (d : Date) {x : Char} (digit : x.isDigit = false)
    (minus : x ≠ '-') (plus : x ≠ '+') : x ∉ d.text :=
  fun member => Text.ne_of_start (mem_date_text member) digit minus plus rfl

/-- The text of a date is taken for a text. -/
theorem coerceValue_text (d : Date) :
    Param.coerceValue d.text = .string (Datum.date d).display := by
  obtain ⟨c, r, written, start, dash⟩ := exists_date_text_eq_cons d
  have point : '.' ∉ c :: r := written ▸ d.notMem_text rfl (by decide) (by decide)
  have noInteger : ∀ n, ¬ Decimal.DenotesInt (c :: r) n := by
    intro n integer
    cases integer.isDigit_behind '-' dash
  rw [Datum.display, Datum.shown, written, Param.coerceValue_eq_iff]
  refine .text (Param.not_quotes_of_start start r)
    (Param.not_spells_of_isAlpha (Text.isAlpha_of_start start) r) (fun n => noInteger n.toInt) ?_
  intro x finite
  obtain ⟨n, integer⟩ := finite.1.exists_int point
  exact noInteger n integer

/-! ### The placeholder -/

namespace Template

theorem exists_call {s : Setting} {g : Generator} {params : Params} {seed : UInt64} {v : Datum}
    {q : Progress} (h : (g.invoke s.context params seed q.world).1 = .ok v) (path : FieldPath) :
    ∃ r, call s g params seed path q = .ok v r := by
  unfold call
  cases answer : g.invoke s.context params seed q.world with
  | mk result later =>
      rw [answer] at h
      cases h
      exact ⟨_, rfl⟩

/-- A text that is one placeholder, alone, becomes the JSON value of what its generator gives. -/
theorem exists_walk_of_alone {s : Setting} {text : String} {p : Placeholder} {g : Generator}
    {params : Params} {world : World} {v : Datum} (alone : Alone text p)
    (scalar : p.isArray = false) (prepared : Prepared s p g params)
    (gives : ∀ seed, (g.invoke s.context params seed world).1 = .ok v) (seed : UInt64) :
    ∃ usage, (walk s (.string text) seed world).1 = .ok ⟨v.toJson, usage⟩ := by
  have known : prepare s .root p = .ok (g, params) :=
    prepare_eq_ok.2 ⟨prepared.generator, prepared.params⟩
  let q := Progress.start seed world
  obtain ⟨r, called⟩ := @exists_call s g params q.seed v q.drawn (gives q.seed) .root
  have produced : produce s .root p q = .ok v { r with usage := r.usage.record g.id 1 } := by
    rw [produce_of_prepare_ok known, fill_bind_eq_ok]
    exact ⟨v, r, called, rfl⟩
  have filled : fill s .root (.string text) q =
      .ok v.toJson { r with usage := r.usage.record g.id 1 } := by
    rw [fill, fillText, (standalone?_pieces_iff text p).2 alone]
    dsimp only
    rw [scalar, if_neg Bool.false_ne_true]
    exact fill_map_eq_ok.2 ⟨v, produced, rfl⟩
  refine ⟨r.usage.record g.id 1, ?_⟩
  unfold walk EStateM.run
  rw [← Progress.start, filled]

end Template

namespace Generator

open Template Param

/-- The template that asks for a date between two dates. -/
def betweenText (first last : Date) : String :=
  "\x7b\x7bdate_between:start_date=" ++ (Datum.date first).display ++ ",end_date=" ++
    (Datum.date last).display ++ "\x7d\x7d"

/-- The bounds as parameters of the generator. -/
def betweenParams (first last : Date) : Params :=
  [("start_date", .string (Datum.date first).display),
    ("end_date", .string (Datum.date last).display)]

/-- A bound as it stands in the template. -/
def boundText (key : String) (d : Date) : List Char :=
  key.toList ++ '=' :: d.text

/-- The placeholder that is written. -/
def betweenPlaceholder (first last : Date) : Placeholder :=
  ⟨false, "date_between".toList,
    some (boundText "start_date" first ++ ',' :: boundText "end_date" last)⟩

theorem written_pair (name a b : List Char) :
    '\x7b' :: '\x7b' :: (name ++ ':' :: a) ++ ',' :: b ++ ['\x7d', '\x7d'] =
      (⟨false, name, some (a ++ ',' :: b)⟩ : Placeholder).written := by
  simp [Placeholder.written, Placeholder.head, Placeholder.afterColon]

theorem name_betweenPlaceholder (first last : Date) :
    (betweenPlaceholder first last).name = dateBetween.id := by
  have trimmed : String.ofList (Text.trim "date_between".toList) = "date_between" := by decide
  exact trimmed

theorem toList_display_date (d : Date) : (Datum.date d).display.toList = d.text :=
  String.toList_ofList

theorem toList_betweenText (first last : Date) :
    (betweenText first last).toList = (betweenPlaceholder first last).written := by
  have opening : "\x7b\x7bdate_between:start_date=".toList =
      '\x7b' :: '\x7b' :: ("date_between".toList ++ ':' :: ("start_date".toList ++ ['='])) := rfl
  have next : ",end_date=".toList = ',' :: ("end_date".toList ++ ['=']) := rfl
  have closing : "\x7d\x7d".toList = ['\x7d', '\x7d'] := rfl
  refine Eq.trans ?_ (written_pair _ _ _)
  -- The literals are opened one after the other: matching them with each other is slow.
  unfold betweenText
  simp only [String.toList_append]
  simp only [opening]
  simp only [next, closing, toList_display_date, boundText, List.append_assoc, List.cons_append,
    List.nil_append]

section

variable {key : String}
  (plain : ∀ c ∈ key.toList, Text.isBlank c = false ∧ isBrace c = false ∧ c ≠ ',')

include plain

/-- A bound is written without blanks, braces and commas. -/
theorem plain_of_mem_boundText {d : Date} {c : Char} (h : c ∈ boundText key d) :
    Text.isBlank c = false ∧ isBrace c = false ∧ c ≠ ',' := by
  rw [boundText, List.mem_append, List.mem_cons] at h
  rcases h with inKey | rfl | inDate
  · exact plain c inKey
  · decide
  · have start := mem_date_text inDate
    refine ⟨Text.isBlank_of_start start, ?_, Text.ne_of_start start rfl (by decide) (by decide)⟩
    rw [isBrace, Bool.or_eq_false_iff, decide_eq_false_iff_not, decide_eq_false_iff_not]
    exact ⟨Text.ne_of_start start rfl (by decide) (by decide),
      Text.ne_of_start start rfl (by decide) (by decide)⟩

theorem trim_boundText (d : Date) : Text.trim (boundText key d) = boundText key d :=
  Text.trim_eq_self
    (fun _ first => (plain_of_mem_boundText plain (List.mem_of_mem_head? first)).1)
    fun _ last => (plain_of_mem_boundText plain (List.mem_of_getLast? last)).1

end

theorem plain_start : ∀ c ∈ "start_date".toList,
    Text.isBlank c = false ∧ isBrace c = false ∧ c ≠ ',' :=
  List.forall_iff_forall_mem.1 (by decide)

theorem plain_end : ∀ c ∈ "end_date".toList,
    Text.isBlank c = false ∧ isBrace c = false ∧ c ≠ ',' :=
  List.forall_iff_forall_mem.1 (by decide)

theorem wellFormed_betweenPlaceholder (first last : Date) :
    (betweenPlaceholder first last).WellFormed := by
  have name : ∀ c ∈ "date_between".toList, c ∉ ['[', ']', '\x7b', '\x7d', ':'] :=
    List.forall_iff_forall_mem.1 (by decide)
  refine ⟨⟨name, ?_⟩, 'd', List.mem_cons_self, rfl⟩
  intro cs given
  cases given
  refine bracesFollowed_of_plain fun c member => ?_
  rcases List.mem_append.1 member with inFirst | later
  · exact (plain_of_mem_boundText plain_start inFirst).2.1
  · rcases List.mem_cons.1 later with rfl | inLast
    · rfl
    · exact (plain_of_mem_boundText plain_end inLast).2.1

theorem alone_betweenText (first last : Date) :
    Alone (betweenText first last) (betweenPlaceholder first last) where
  wellFormed := wellFormed_betweenPlaceholder first last
  blanks := ⟨[], [], by rw [toList_betweenText, List.nil_append, List.append_nil],
    fun _ none => (nomatch none), fun _ none => (nomatch none)⟩

theorem params_betweenPlaceholder (first last : Date) :
    (betweenPlaceholder first last).params =
      [boundText "start_date" first, boundText "end_date" last].map String.ofList := by
  have cut : Text.IsSplit ',' [boundText "start_date" first, boundText "end_date" last]
      (boundText "start_date" first ++ ',' :: boundText "end_date" last) := by
    refine ⟨?_, ?_, List.cons_ne_nil _ _⟩
    · rw [List.intercalate_cons_cons, List.intercalate_singleton, List.append_assoc]
      rfl
    · intro part member comma
      rcases List.mem_pair.1 member with rfl | rfl
      · exact (plain_of_mem_boundText plain_start comma).2.2 rfl
      · exact (plain_of_mem_boundText plain_end comma).2.2 rfl
  rw [Placeholder.params, betweenPlaceholder]
  dsimp only
  rw [cut.eq_splitAll, List.map_cons, List.map_cons, List.map_nil, trim_boundText plain_start,
    trim_boundText plain_end]
  rfl

/-- Both bounds come back as the texts that were printed. -/
theorem coerceAll_betweenPlaceholder (first last : Date) :
    coerceAll (betweenPlaceholder first last).params = .ok (betweenParams first last) := by
  have keys : IsKey "start_date" ∧ IsKey "end_date" := by decide
  rw [params_betweenPlaceholder, List.map_cons, List.map_cons, List.map_nil, coerceAll, coerceInto,
    boundText, boundText, coerce_of_isKey keys.1 (trim_date_text first), coerceValue_text]
  dsimp only
  rw [coerceInto, coerce_of_isKey keys.2 (trim_date_text last), coerceValue_text]
  rfl

theorem prepared_betweenPlaceholder (source : TextSource) (first last : Date) (options : Options)
    (context : Context) :
    Prepared ⟨.standard source, options, context⟩ (betweenPlaceholder first last) dateBetween
      (betweenParams first last) where
  generator := by
    have member : dateBetween ∈ plain := List.mem_of_getElem? (show plain[12]? = _ from rfl)
    have normal : Registry.IsNormal dateBetween.id := by
      have same : Registry.normalName "date_between" = "date_between".toList := by decide +kernel
      exact same
    rw [name_betweenPlaceholder]
    dsimp only
    exact Registry.resolve?_standard (List.mem_append_right _ member) normal
  params := coerceAll_betweenPlaceholder first last

/-! ### The date that is drawn -/

theorem bounds_betweenParams (first last today : Date) :
    Bounds (betweenParams first last) today first last where
  start := evaluate_text first today
  stop := evaluate_text last today

/-- Between a date and itself there is nothing but this date. -/
theorem invoke_dateBetween_self (d today : Date) (locale : Locale) (seed : UInt64)
    (world : World) :
    (dateBetween.invoke ⟨locale, today⟩ (betweenParams d d) seed world).1 = .ok (.date d) := by
  have declared : (betweenParams d d).refusal? dateBetween.specs dateBetween.id = none := rfl
  obtain ⟨e, drawn, lower, upper⟩ := drawDate_mem (Date.le_refl d) (Stream.ofSeed seed)
  cases Date.le_antisymm lower upper
  have value : (dateBetween.generate ⟨locale, today⟩ (betweenParams d d) world
      (Stream.ofSeed seed)).outcome = .value (.date d) := by
    refine outcome_of_answer_ok ?_ world
    rw [dateRange_of_le (bounds_betweenParams d d today) (Date.le_refl d), pure_bind]
    exact answer_map drawn Datum.date
  rw [invoke_eq_ok.2 ⟨declared, value, rfl⟩]

/-- A date that is printed is read back on every day; and written as both bounds of a range it
comes through the reading of the parameters as the text that was printed, and it is what is given
for every seed. -/
theorem written_dates_read_back (source : TextSource) (d today : Date) (locale : Locale)
    (options : Options) (world : World) :
    evaluate (Datum.date d).display today = .ok d ∧
      (∃ p, standalone? (pieces (betweenText d d).toList) = some p ∧ p.shape = .parameterized ∧
        p.name = dateBetween.id ∧ coerceAll p.params = .ok (betweenParams d d)) ∧
      ∀ seed, (dateBetween.invoke ⟨locale, today⟩ (betweenParams d d) seed world).1 =
          .ok (.date d) ∧
        ∃ usage, (walk ⟨.standard source, options, ⟨locale, today⟩⟩ (.string (betweenText d d))
          seed world).1 = .ok ⟨.string (Datum.date d).display, usage⟩ := by
  have alone := alone_betweenText d d
  refine ⟨evaluate_text d today, ⟨betweenPlaceholder d d, (standalone?_pieces_iff _ _).2 alone, rfl,
    name_betweenPlaceholder d d, coerceAll_betweenPlaceholder d d⟩, fun seed => ?_⟩
  have given (seed : UInt64) := invoke_dateBetween_self d today locale seed world
  exact ⟨given seed, exists_walk_of_alone alone rfl
    (prepared_betweenPlaceholder source d d options ⟨locale, today⟩) given seed⟩

end Generator

end Fabricate
