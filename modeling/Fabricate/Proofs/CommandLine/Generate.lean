import Fabricate.CommandLine.LogLine
import Fabricate.Generator.Table.Source
import Fabricate.Proofs.Batch.Items
import Fabricate.Proofs.CommandLine.Work
import Fabricate.Proofs.Settings

/-!
# Documents are written when all of them are there

The command that generates documents loads the settings, opens the log, reads the request and asks
the engine before it writes anything. So it ends in one of two ways. Either all documents that were
asked for are written, to the standard output or to the file named for them; or none are, and the
exit status tells whether the caller is to blame.

What else is written is the log. Its file is made when the log is opened, which comes before all but
the settings, so if that is the very file named for the documents, it is there afterwards though no
document was written. Settings can keep the log in the standard output, and in the temporary file
that is moved to the place of the documents; the log then stands around them or behind them. In no
other case does the log touch what the caller looks at (`LinesIf`).

Everything is said of runs on machines in memory (`Work.on`).
-/

namespace Fabricate

open Json

/-! ### The number of documents -/

/-- The number of documents that a value states, if it is a request and states one. -/
def Request.stated? (v : Value) : Option UInt64 :=
  match v with
  | .object fields =>
      if Request.isRequest fields then (Fields.get? fields "count").bind Value.uint64? else none
  | _ => none

theorem Request.eq_of_field {α : Type} {fields : Fields Value} {name : String}
    {read : Value → Option α} {default a : α} (h : field fields name read default = .ok a) :
    a = ((fields.get? name).bind read).getD default := by
  unfold field at h
  cases found : fields.get? name with
  | none =>
      rw [found] at h
      cases h
      rfl
  | some v =>
      rw [found] at h
      dsimp only at h
      cases value : read v with
      | none =>
          rw [value] at h
          cases h
      | some b =>
          rw [value] at h
          cases h
          rw [Option.bind_some, value, Option.getD_some]

theorem Request.count_of_ofFields {fields : Fields Value} {r : Request}
    (h : ofFields fields = .ok r) :
    r.count = ((fields.get? "count").bind Value.uint64?).getD 1 := by
  obtain ⟨template, -, h⟩ := bind_eq_ok h
  obtain ⟨count, counted, h⟩ := bind_eq_ok h
  obtain ⟨locale, -, h⟩ := bind_eq_ok h
  obtain ⟨seed, -, h⟩ := bind_eq_ok h
  obtain ⟨format, -, h⟩ := bind_eq_ok h
  cases h
  exact eq_of_field counted

theorem Request.count_of_ofJson {v : Value} {stop : Place} {r : Request}
    (h : ofJson v stop 1 = .ok r) : r.count = (stated? v).getD 1 := by
  unfold ofJson at h
  cases v with
  | object fields =>
      unfold stated?
      dsimp only at h ⊢
      split at h
      · next request =>
          rw [if_pos request]
          cases made : ofFields fields with
          | error fault =>
              rw [made] at h
              cases h
          | ok asked =>
              rw [made] at h
              cases h
              exact count_of_ofFields made
      · next template =>
          rw [if_neg template]
          cases h
          rfl
  | array items =>
      cases h
      rfl
  | null => cases h
  | bool b => cases h
  | number n => cases h
  | string s => cases h

/-- Where no number is stated, one document is asked for. -/
theorem Request.count_of_read {text : String} {r : Request} (h : Request.read text 1 = .ok r) :
    ∃ v, parse text = .ok v ∧ r.count = (stated? v).getD 1 := by
  unfold read at h
  cases parsed : parse text with
  | error fault =>
      rw [parsed] at h
      cases h
  | ok v =>
      rw [parsed] at h
      exact ⟨v, rfl, count_of_ofJson h⟩

/-- A response has as many documents as were asked for, and the engine measures no time. -/
theorem Engine.length_documents {e : Engine} {job : Job} {near : Surroundings} {world : World}
    {response : Response} (h : (e.generate job near world).1 = .ok response) :
    response.documents.length = job.count ∧ response.elapsedMs = 0 := by
  cases named : e.locale job.locale with
  | error failure =>
      rw [generate_of_locale_error named] at h
      cases h
  | ok l =>
      rw [e.generate_of_supported job near world (locale_eq_ok_iff.1 named)] at h
      cases filled : Batch.generate (e.setting l near.today) true job.template job.count
          ⟨job.seed, near.chance⟩ near.schedule world with
      | mk result later =>
          rw [filled] at h
          cases result with
          | error failure => cases h
          | ok output =>
              cases h
              obtain ⟨-, -, fs, length, rfl, -⟩ := Batch.done_of_ok filled
              exact ⟨(List.length_map _).trans length, rfl⟩

namespace CommandLine

open Work

namespace Machine

/-! ### The engine at work -/

/-- What the machine lends to a request. -/
def near (m : Machine) : Surroundings :=
  ⟨m.day, (Machine.host.chance.run m).1, []⟩

/-- What the engine of some settings makes of a request on the machine. -/
def engineWork (m : Machine) (texts : TextSource) (s : Settings) (r : Request) :
    Logged (Except Fabricate.Failure Response × World) :=
  (engineOf texts s).perform r.job m.near ⟨[], false⟩

/-- The engine answers in the time that the machine's clock shows, which is none. -/
theorem respond_on (m : Machine) (texts : TextSource) (s : Settings) (r : Request) :
    (respond texts Machine.host s r none).on m =
      ((m.engineWork texts s r).result.1.mapError .generation,
        m.tellAll (m.engineWork texts s r).events) := by
  have today : StateT.run Machine.host.today m = (m.day, m) := rfl
  have chance : StateT.run Machine.host.chance m = (m.near.chance, m) := rfl
  have clock (n : Machine) : StateT.run Machine.host.clock n = (0, n) := rfl
  have work : (engineOf texts s).perform r.job ⟨m.day, m.near.chance, []⟩ ⟨[], false⟩ =
      m.engineWork texts s r := rfl
  unfold respond
  rw [on_bind, on_perform, today]
  dsimp only
  rw [on_bind, on_perform, chance]
  dsimp only
  rw [on_bind, on_perform, clock]
  dsimp only
  rw [work, on_bind, tellAll_on]
  dsimp only
  rw [on_bind, on_perform, clock]
  dsimp only
  rw [on_bind, on_settle]
  cases answer : (m.engineWork texts s r).result.1 with
  | error f => rfl
  | ok response =>
      have unmeasured := (Engine.length_documents answer).2
      cases response with
      | mk documents count locale seed elapsed usage =>
          cases unmeasured
          rfl

/-- Writing a text out, and saying that all documents are written. -/
def closing (out : Option String) (text : String) (response : Response) :
    Work (StateM Machine) Unit := do
  deliver Machine.host out text
  perform (Machine.host.tell (generateFinished response))

theorem closing_on {m : Machine} {path text : String}
    (done : (m.replace path text).1 = .ok ()) (response : Response) :
    (closing (some path) text response).on m =
      (.ok (), (m.replace path text).2.tellAll
        [outputWritten path text, generateFinished response]) := by
  have replaced : StateT.run (Machine.host.replace path text) m = m.replace path text := by
    dsimp only [Machine.host, StateT.run]
  have told (n : Machine) (e : LogEvent) :
      StateT.run (Machine.host.tell e) n = ((), n.tell e) := rfl
  rw [closing, on_bind, deliver, on_bind, on_attempt, replaced, done]
  dsimp only [Except.mapError]
  rw [on_perform, told]
  dsimp only
  rw [on_perform, told]
  rfl

theorem generate_on {m : Machine} {texts : TextSource} {s : Settings} {args : GenerateArgs}
    {text : String} (unlimited : args.timeoutMs = none)
    (found : m.source args.template = .ok text) :
    (generate texts Machine.host s args).on m =
      match Request.read text 1 with
      | .error e => (.error (.request e), m)
      | .ok r =>
          let work := m.engineWork texts s (args.overrides.apply r)
          match work.result.1 with
          | .error f => (.error (.generation f), m.tellAll work.events)
          | .ok response =>
              (closing args.out (rendered (args.overrides.apply r).format response) response).on
                (m.tellAll work.events) := by
  unfold generate
  rw [on_bind, readInput_on, found]
  dsimp only [Except.mapError]
  rw [on_bind, on_settle]
  cases Request.read text 1 with
  | error e => rfl
  | ok r =>
      dsimp only [Except.mapError]
      rw [on_bind, unlimited, respond_on]
      cases (m.engineWork texts s (args.overrides.apply r)).result.1 with
      | error f => rfl
      | ok response => rfl

/-! ### Runs -/

/-- What the command needs: no log is open, one can be opened, the template can be read and the
documents can be written. None of the rest matters where there are no settings. -/
structure Ready (m : Machine) (g : Globals) (args : GenerateArgs) : Prop where
  closed : m.log = none
  log : ∀ s, m.settings g = .ok s → ((prepareLog Machine.host s.logging).on m).1 = .ok ()
  template : ∀ s, m.settings g = .ok s → ∃ text, (m.logged s).source args.template = .ok text
  output : ∀ s path, m.settings g = .ok s → args.out = some path →
    ((m.logged s).replace path "").1 = .ok ()

/-- What makes the command fail: the settings, the request or the engine. -/
inductive Causes (m : Machine) (texts : TextSource) (g : Globals) (args : GenerateArgs) :
    CommandError → Prop
  | settings {e : CommandError} : m.settings g = .error e → Causes m texts g args e
  | request {s : Settings} {text : String} {e : RequestError} :
      m.settings g = .ok s → (m.logged s).source args.template = .ok text →
      Request.read text 1 = .error e → Causes m texts g args (.request e)
  | engine {s : Settings} {text : String} {r : Request} {f : Fabricate.Failure} :
      m.settings g = .ok s → (m.logged s).source args.template = .ok text →
      Request.read text 1 = .ok r →
      ((engineOf texts s).generate (args.overrides.apply r).job m.near ⟨[], false⟩).1 = .error f →
      Causes m texts g args (.generation f)

/-- The settings keep the log in the file that a path names. -/
def LogsTo (m : Machine) (g : Globals) (path : String) : Prop :=
  ∃ s log, m.settings g = .ok s ∧ s.logging.file = some log ∧
    (Path.ofText log).location.text = (Path.ofText path).location.text

/-- The settings keep the log in the standard output. -/
def LogsToOutput (m : Machine) (g : Globals) : Prop :=
  ∃ s log, m.settings g = .ok s ∧ s.logging.file = some log ∧
    (Path.ofText log).location.device? = some .output

/-- The settings keep the log in the temporary file for a text that is to be put in place of the
file that a path names. -/
def LogsToTemporary (m : Machine) (g : Globals) (path : String) : Prop :=
  ∃ s log temporary, m.settings g = .ok s ∧ s.logging.file = some log ∧
    (Path.ofText path).temporary? = some temporary ∧
    (Path.ofText log).location.text = temporary.location.text

/-- The standard output shows a text that is new, with lines of the log around it if the log is kept
there. -/
def Shows (m : Machine) (g : Globals) (text : String) (after : Machine) : Prop :=
  ∃ before behind, m.LinesIf (m.LogsToOutput g) before ∧ m.LinesIf (m.LogsToOutput g) behind ∧
    after.stdout = m.stdout ++ before ++ text ++ behind

/-- The text was written to the standard output, or it is what the file named for it holds, up to
lines of the log behind it if the log is kept in its temporary file. -/
def Received (m : Machine) (g : Globals) (out : Option String) (text : String)
    (after : Machine) : Prop :=
  match out with
  | none => m.Shows g text after
  | some path =>
      m.Shows g "" after ∧ ∃ behind, m.LinesIf (m.LogsToTemporary g path) behind ∧
        after.kept? path = some (text ++ behind)

/-- All documents are written: as many as the arguments say, or else the request, or else one. -/
inductive Delivers (m : Machine) (texts : TextSource) (g : Globals) (args : GenerateArgs)
    (after : Machine) : Prop
  | all {s : Settings} {text : String} {v : Value} {r : Request} {response : Response} :
      m.settings g = .ok s → (m.logged s).source args.template = .ok text →
      parse text = .ok v → Request.read text 1 = .ok r →
      ((engineOf texts s).generate (args.overrides.apply r).job m.near ⟨[], false⟩).1 =
        .ok response →
      response.documents.length =
        (args.overrides.count.getD ((Request.stated? v).getD 1)).toNat →
      m.Received g args.out (rendered (args.overrides.format.getD r.format) response) after →
      Delivers m texts g args after

/-- A file holds what it held, or lines of the log behind that. -/
def Grown (m : Machine) (before after : Option String) : Prop :=
  after = before ∨ ∃ lines, IsLog m.logText lines ∧ after = some (before.getD "" ++ lines)

/-- The standard output shows nothing new but the log, if it is kept there; no file but that of the
log is another one, and that one has grown. -/
structure Spared (m : Machine) (g : Globals) (after : Machine) : Prop where
  stdout : m.Shows g "" after
  files : ∀ path, ¬ m.LogsTo g path → after.kept? path = m.kept? path
  log : ∀ path, m.LogsTo g path → m.Grown (m.kept? path) (after.kept? path)

/-- How a run ends. -/
inductive Ends (m : Machine) (texts : TextSource) (g : Globals) (args : GenerateArgs) :
    Nat × Machine → Prop
  | done {after : Machine} : m.Delivers texts g args after → Ends m texts g args (0, after)
  | failed {e : CommandError} {after : Machine} :
      m.Causes texts g args e → m.Spared g after → Ends m texts g args (e.exitCode, after)

/-! ### The log of the settings -/

section

variable {m n : Machine} {g : Globals} {s : Settings} (loaded : m.settings g = .ok s)
  (opened : m.Opened s.logging.file n)

include loaded opened

theorem logsToOutput_of_opened (out : n.LogsOut) : m.LogsToOutput g := by
  obtain ⟨log, file, device⟩ := opened.output out
  exact ⟨s, log, loaded, file, device⟩

theorem logsTo_of_opened {path : String} (into : n.LogsInto (Path.ofText path).location) :
    m.LogsTo g path := by
  obtain ⟨log, file, same⟩ := opened.file _ into
  exact ⟨s, log, loaded, file, same⟩

theorem logsToTemporary_of_opened {path : String} {temporary : Path}
    (named : (Path.ofText path).temporary? = some temporary)
    (into : n.LogsInto temporary.location) : m.LogsToTemporary g path := by
  obtain ⟨log, file, same⟩ := opened.file _ into
  exact ⟨s, log, temporary, loaded, file, named, same⟩

/-- What is shown when nothing but events came after the log was opened. -/
theorem shows_of_told {after : Machine} (told : n.Told after) : m.Shows g "" after := by
  obtain ⟨lines, found, shown⟩ := told.stdout
  refine ⟨lines, "", found.imp opened.logText ?_, .nil, ?_⟩
  · exact logsToOutput_of_opened loaded opened
  · rw [shown, opened.stdout, String.append_empty, String.append_empty]

theorem spared_of_told {after : Machine} (told : n.Told after) : m.Spared g after where
  stdout := shows_of_told loaded opened told
  files := by
    intro path unlogged
    obtain ⟨lines, found, kept⟩ := told.files (Path.ofText path).location
    have none : lines = "" :=
      found.2 fun into => unlogged (logsTo_of_opened loaded opened into)
    have same : n.files.get? (Path.ofText path).location.text = m.kept? path := by
      rcases opened.files (Path.ofText path).location with same | ⟨log, file, here, -, -⟩
      · exact same
      · exact absurd ⟨s, log, loaded, file, here⟩ unlogged
    rw [kept?, kept, same, none]
    simp
  log := by
    intro path _
    obtain ⟨lines, found, kept⟩ := told.files (Path.ofText path).location
    have log : IsLog m.logText lines := opened.logText ▸ found.1
    rcases opened.files (Path.ofText path).location with same | ⟨-, -, -, missing, made⟩
    · have grown : after.kept? path = (m.kept? path).map (· ++ lines) := by
        rw [kept?, kept, same, kept?]
      rw [grown]
      cases m.kept? path with
      | none => exact .inl rfl
      | some before => exact .inr ⟨lines, log, rfl⟩
    · have absent : m.kept? path = none := missing
      refine .inr ⟨lines, log, ?_⟩
      rw [absent, kept?, kept, made]
      rfl

/-- A text is received when it is written out after some events, and events follow. -/
theorem received_of_closing {told : Machine} (events : n.Told told) {out : Option String}
    (writable : ∀ path, out = some path → (n.replace path "").1 = .ok ()) (text : String)
    (response : Response) :
    ∃ after, (closing out text response).on told = (.ok (), after) ∧
      m.Received g out text after := by
  obtain ⟨before, found, shown⟩ := events.stdout
  have ahead : m.LinesIf (m.LogsToOutput g) before :=
    found.imp opened.logText (logsToOutput_of_opened loaded opened)
  have write : told.logText = m.logText := events.logText.trans opened.logText
  have outward (h : told.LogsOut) : m.LogsToOutput g :=
    logsToOutput_of_opened loaded opened (by rwa [LogsOut, ← events.log])
  cases out with
  | none =>
      let written : Machine := { told with stdout := told.stdout ++ text }
      obtain ⟨behind, found', shown'⟩ := (written.told_tell (generateFinished response)).stdout
      refine ⟨_, rfl, before, behind, ahead, found'.imp write outward, ?_⟩
      rw [← opened.stdout, ← shown]
      exact shown'
  | some path =>
      have done : (told.replace path text).1 = .ok () :=
        (events.names.fst_replace path "" text).symm.trans (writable path rfl)
      obtain ⟨⟨behind, found', shown'⟩, temporary, lines, named, found'', kept⟩ :=
        tellAll_replace done [outputWritten path text, generateFinished response]
      refine ⟨_, closing_on done response, ⟨before, behind, ahead, found'.imp write outward, ?_⟩,
        lines, found''.imp write fun into => ?_, kept⟩
      · rw [shown', shown, opened.stdout, String.append_empty]
      · exact logsToTemporary_of_opened loaded opened named (by rwa [LogsInto, ← events.log])

end

/-- Telling the log of a failure and the caller of it after that. -/
theorem told_report (m : Machine) (e : CommandError) :
    m.Told { m.tell (commandFailed e) with
      stderr := (m.tell (commandFailed e)).stderr ++ e.report } :=
  have told := m.told_tell (commandFailed e)
  ⟨⟨told.names.files, told.names.folders⟩, told.log, told.logText, told.stdout, told.files⟩

/-- While no log is open, nothing is added to one. -/
theorem spared_of_closed {m : Machine} (closed : m.log = none) (g : Globals) (e : CommandError) :
    m.Spared g { m.tell (commandFailed e) with
      stderr := (m.tell (commandFailed e)).stderr ++ e.report } := by
  have silent : m.tell (commandFailed e) = m := by
    rw [tell, closed]
  rw [silent]
  refine ⟨⟨"", "", .nil, .nil, ?_⟩, fun _ _ => rfl, fun _ _ => .inl rfl⟩
  simp

theorem engineWork_logged {m : Machine} (closed : m.log = none) (texts : TextSource) (s : Settings)
    (r : Request) : ((m.logged s).engineWork texts s r).result =
      (engineOf texts s).generate r.job m.near ⟨[], false⟩ := by
  have near : (m.logged s).near = m.near := by
    rw [Machine.near, (opened_logged closed s).day]
    rfl
  rw [engineWork, near, Engine.generate]

theorem execute_generate_on (m : Machine) (texts : TextSource) (g : Globals)
    (args : GenerateArgs) :
    (execute texts Machine.host ⟨g, .generate args⟩).on m =
      match m.settings g with
      | .error e => (.error e, m)
      | .ok s =>
          match ((prepareLog Machine.host s.logging).on m).1 with
          | .error e => (.error e, m.logged s)
          | .ok () => (generate texts Machine.host s args).on (m.logged s) := by
  unfold execute
  dsimp only
  rw [on_bind, loadSettings_on]
  cases m.settings g with
  | error e => rfl
  | ok s =>
      dsimp only
      rw [on_bind, logged]
      cases (prepareLog Machine.host s.logging).on m with
      | mk result n =>
          cases result with
          | ok _ => rfl
          | error e => rfl

theorem ends_run {m : Machine} {arguments : List String} {g : Globals} {args : GenerateArgs}
    (asked : ask arguments = .run ⟨g, .generate args⟩) (unlimited : args.timeoutMs = none)
    (ready : m.Ready g args) (texts : TextSource) :
    m.Ends texts g args ((run texts Machine.host arguments).run m) := by
  rw [run_eq asked, execute_generate_on]
  cases loaded : m.settings g with
  | error e => exact .failed (.settings loaded) (spared_of_closed ready.closed g e)
  | ok s =>
      obtain ⟨text, found⟩ := ready.template s loaded
      have opened := opened_logged ready.closed s
      dsimp only
      rw [ready.log s loaded]
      dsimp only
      rw [generate_on unlimited found]
      cases read : Request.read text 1 with
      | error e =>
          exact .failed (.request loaded found read)
            (spared_of_told loaded opened (told_report _ _))
      | ok r =>
          dsimp only
          have answered := engineWork_logged ready.closed texts s (args.overrides.apply r)
          have events := (m.logged s).told_tellAll
            ((m.logged s).engineWork texts s (args.overrides.apply r)).events
          rw [answered]
          cases answer : ((engineOf texts s).generate (args.overrides.apply r).job m.near
              ⟨[], false⟩).1 with
          | error f =>
              exact .failed (.engine loaded found read answer)
                (spared_of_told loaded opened (events.trans (told_report _ _)))
          | ok response =>
              obtain ⟨after, delivered, received⟩ :=
                received_of_closing loaded opened events (ready.output s · loaded)
                  (rendered (args.overrides.apply r).format response) response
              dsimp only
              rw [delivered]
              obtain ⟨v, parsed, count⟩ := Request.count_of_read read
              have wanted : (args.overrides.apply r).job.count =
                  (args.overrides.count.getD ((Request.stated? v).getD 1)).toNat := by
                rw [← count]
                rfl
              exact .done (.all loaded found parsed read answer
                ((Engine.length_documents answer).1.trans wanted) received)

/-! ### Causes -/

section

variable {m : Machine} {texts : TextSource} {g : Globals} {args : GenerateArgs}

theorem Causes.unique {e e' : CommandError} (h : m.Causes texts g args e)
    (h' : m.Causes texts g args e') : e = e' := by
  cases h with
  | settings failed =>
      cases h' with
      | settings failed' => exact Except.error.inj (failed.symm.trans failed')
      | request loaded _ _ => cases failed.symm.trans loaded
      | engine loaded _ _ _ => cases failed.symm.trans loaded
  | request loaded found unread =>
      cases h' with
      | settings failed => cases failed.symm.trans loaded
      | request loaded' found' unread' =>
          cases loaded.symm.trans loaded'
          cases found.symm.trans found'
          rw [Except.error.inj (unread.symm.trans unread')]
      | engine loaded' found' read _ =>
          cases loaded.symm.trans loaded'
          cases found.symm.trans found'
          cases unread.symm.trans read
  | engine loaded found read failed =>
      cases h' with
      | settings failed => cases failed.symm.trans loaded
      | request loaded' found' unread =>
          cases loaded.symm.trans loaded'
          cases found.symm.trans found'
          cases unread.symm.trans read
      | engine loaded' found' read' failed' =>
          cases loaded.symm.trans loaded'
          cases found.symm.trans found'
          cases read.symm.trans read'
          rw [Except.error.inj (failed.symm.trans failed')]

theorem Delivers.not_causes {after : Machine} (h : m.Delivers texts g args after)
    (e : CommandError) : ¬ m.Causes texts g args e := by
  obtain ⟨loaded, found, -, read, answer, -, -⟩ := h
  intro cause
  cases cause with
  | settings failed => cases failed.symm.trans loaded
  | request loaded' found' unread =>
      cases loaded.symm.trans loaded'
      cases found.symm.trans found'
      cases unread.symm.trans read
  | engine loaded' found' read' failed =>
      cases loaded.symm.trans loaded'
      cases found.symm.trans found'
      cases read.symm.trans read'
      cases answer.symm.trans failed

theorem Causes.exitCode_eq {e : CommandError} (h : m.Causes texts g args e) :
    e.exitCode = if e.blamesCaller then 2 else 1 := by
  have opened : e ≠ .logging (.badFilter .misaligned) := by
    cases h with
    | settings failed =>
        obtain ⟨c, rfl⟩ := settings_eq_error failed
        exact CommandError.noConfusion
    | request _ _ _ => exact CommandError.noConfusion
    | engine _ _ _ _ => exact CommandError.noConfusion
  rw [CommandError.exitCode, if_neg opened]

/-- The caller is to blame for settings and requests, and for some failures of the engine. -/
theorem causes_blaming_iff :
    (∃ e, m.Causes texts g args e ∧ e.blamesCaller = true) ↔
      (∃ e, m.settings g = .error e) ∨ (∃ e, m.Causes texts g args (.request e)) ∨
        ∃ f, m.Causes texts g args (.generation f) ∧ f.blamesCaller = true := by
  constructor
  · rintro ⟨e, cause, blames⟩
    cases cause with
    | settings failed => exact .inl ⟨_, failed⟩
    | request loaded found unread => exact .inr (.inl ⟨_, .request loaded found unread⟩)
    | engine loaded found read failed =>
        exact .inr (.inr ⟨_, .engine loaded found read failed, blames⟩)
  · rintro (⟨e, failed⟩ | ⟨e, cause⟩ | ⟨f, cause, blames⟩)
    · obtain ⟨c, rfl⟩ := settings_eq_error failed
      exact ⟨_, .settings failed, rfl⟩
    · exact ⟨_, cause, rfl⟩
    · exact ⟨_, cause, blames⟩

theorem causes_internal_iff :
    (∃ e, m.Causes texts g args e ∧ e.blamesCaller = false) ↔
      ∃ f, m.Causes texts g args (.generation f) ∧ f.blamesCaller = false := by
  constructor
  · rintro ⟨e, cause, internal⟩
    cases cause with
    | settings failed =>
        obtain ⟨c, rfl⟩ := settings_eq_error failed
        cases internal
    | request _ _ _ => cases internal
    | engine loaded found read failed => exact ⟨_, .engine loaded found read failed, internal⟩
  · rintro ⟨f, cause, internal⟩
    exact ⟨_, cause, internal⟩

theorem Ends.delivers_or_spared {status : Nat} {after : Machine}
    (h : m.Ends texts g args (status, after)) :
    status = 0 ∧ m.Delivers texts g args after ∨ status ≠ 0 ∧ m.Spared g after := by
  cases h with
  | done delivers => exact .inl ⟨rfl, delivers⟩
  | @failed e after cause spared =>
      refine .inr ⟨?_, spared⟩
      rw [cause.exitCode_eq]
      cases e.blamesCaller with
      | true => decide
      | false => decide

theorem Ends.status_iff {status : Nat} {after : Machine} (h : m.Ends texts g args (status, after)) :
    (status = 2 ↔ ∃ e, m.Causes texts g args e ∧ e.blamesCaller = true) ∧
      (status = 1 ↔ ∃ e, m.Causes texts g args e ∧ e.blamesCaller = false) := by
  cases h with
  | done delivers =>
      exact ⟨iff_of_false (by decide) fun ⟨e, cause, _⟩ => delivers.not_causes e cause,
        iff_of_false (by decide) fun ⟨e, cause, _⟩ => delivers.not_causes e cause⟩
  | @failed e after cause _ =>
      -- A run has one cause at most, so what is true of some cause is true of this one.
      have only (blames : Bool) :
          (∃ e', m.Causes texts g args e' ∧ e'.blamesCaller = blames) ↔ e.blamesCaller = blames :=
        ⟨fun ⟨e', cause', same⟩ => (cause.unique cause') ▸ same, fun same => ⟨e, cause, same⟩⟩
      rw [only, only, cause.exitCode_eq]
      cases e.blamesCaller with
      | true => decide
      | false => decide

end

/-- The command that generates documents does all or nothing, whatever the source of texts is and
however a log is written. Either the status is zero and all documents that were asked for are
written, or it is not and nothing was written but the log. The status is two when the settings, the
request or the caller's part in the work of the engine are to blame, and one when the engine itself
failed. -/
theorem generate_is_all_or_nothing (texts : TextSource) (m : Machine) (arguments : List String)
    (g : Globals) (args : GenerateArgs) (asked : ask arguments = .run ⟨g, .generate args⟩)
    (unlimited : args.timeoutMs = none) (ready : m.Ready g args) :
    let ended := (run texts Machine.host arguments).run m
    (ended.1 = 0 ∧ m.Delivers texts g args ended.2 ∨ ended.1 ≠ 0 ∧ m.Spared g ended.2) ∧
      (ended.1 = 2 ↔ (∃ e, m.settings g = .error e) ∨ (∃ e, m.Causes texts g args (.request e)) ∨
        ∃ f, m.Causes texts g args (.generation f) ∧ f.blamesCaller = true) ∧
      (ended.1 = 1 ↔ ∃ f, m.Causes texts g args (.generation f) ∧ f.blamesCaller = false) := by
  intro ended
  have ends : m.Ends texts g args ended := ends_run asked unlimited ready texts
  refine ⟨?_, ?_, ?_⟩
  · exact ends.delivers_or_spared
  · exact ends.status_iff.1.trans causes_blaming_iff
  · exact ends.status_iff.2.trans causes_internal_iff

theorem ready_of_settings {m : Machine} {g : Globals} {args : GenerateArgs} {s : Settings}
    (text : String) (closed : m.log = none) (loaded : m.settings g = .ok s)
    (log : ((prepareLog Machine.host s.logging).on m).1 = .ok ())
    (template : (m.logged s).source args.template = .ok text)
    (output : ∀ path, args.out = some path → ((m.logged s).replace path "").1 = .ok ()) :
    m.Ready g args where
  closed := closed
  log := by
    intro s' loaded'
    cases loaded.symm.trans loaded'
    exact log
  template := by
    intro s' loaded'
    cases loaded.symm.trans loaded'
    exact ⟨text, template⟩
  output := by
    intro s' path loaded'
    cases loaded.symm.trans loaded'
    exact output path

/-- A machine with a settings file, without a log, that writes a line for every event. -/
def configured (settings input : String) (environment : List (String × String)) : Machine where
  files := [("phoney.toml", settings)]
  folders := []
  environment := environment
  stdin := input
  stdout := ""
  stderr := ""
  day := ⟨2025, 7, 2, by decide, by decide, by decide⟩
  log := none
  told := 0
  logText := fun style _ e => style.line e

/-- Two documents for a file. -/
theorem generate_is_all_or_nothing_two :
    let m := configured "" "[1]" []
    let arguments := ["generate", "-", "--count", "2", "--out", "out.json"]
    let g : Globals := ⟨none, none, false⟩
    let args : GenerateArgs := ⟨"-", ⟨some 2, none, none, none⟩, some "out.json", none⟩
    let ended := (run .tabled Machine.host arguments).run m
    ask arguments = .run ⟨g, .generate args⟩ ∧ args.timeoutMs = none ∧ m.Ready g args ∧
      (ended.1 = 0 ∧ m.Delivers .tabled g args ended.2 ∨ ended.1 ≠ 0 ∧ m.Spared g ended.2) ∧
        ended.1 = 0 := by
  intro m arguments g args ended
  have asked : ask arguments = .run ⟨g, .generate args⟩ := by decide +kernel
  have ready : m.Ready g args := by
    have loaded : m.settings g = .ok (.standard 1) := by decide +kernel
    refine ready_of_settings "[1]" rfl loaded (by decide +kernel) (by decide +kernel) ?_
    rintro path ⟨⟩
    decide +kernel
  exact ⟨asked, rfl, ready,
    (generate_is_all_or_nothing .tabled m arguments g args asked rfl ready).1, by decide +kernel⟩

/-- The log shows where the settings keep it. A run that fails makes the file that is named for the
documents if it is the file of the log, and it writes to the standard output if the log is kept
there; and behind the documents are lines of the log if it is kept in their temporary file. -/
theorem log_shows_where_it_is_kept :
    let g : Globals := ⟨none, none, false⟩
    let args (out : Option String) (format : Option OutputFormat) : GenerateArgs :=
      ⟨"-", ⟨none, none, none, format⟩, out, none⟩
    let own := configured "[logging]\nfile = \"out.json\"\n" "1" [("RUST_LOG", "off")]
    let shown := configured "[logging]\nfile = \"/dev/stdout\"\n" "1" []
    let behind := configured "[logging]\nfile = \".out.csv.tmp\"\nlevel = \"info\"\n" "[1]" []
    let toFile := ["generate", "-", "--out", "out.json"]
    let toOutput := ["generate", "-"]
    let toTable := ["generate", "-", "--format", "csv", "--out", "out.csv"]
    let ended (m : Machine) (arguments : List String) :=
      (run .tabled Machine.host arguments).run m
    (ask toFile = .run ⟨g, .generate (args (some "out.json") none)⟩ ∧
        own.Ready g (args (some "out.json") none) ∧ (ended own toFile).1 = 2 ∧
        own.kept? "out.json" = none ∧ (ended own toFile).2.kept? "out.json" = some "") ∧
      (ask toOutput = .run ⟨g, .generate (args none none)⟩ ∧ shown.Ready g (args none none) ∧
        (ended shown toOutput).1 = 2 ∧
        (ended shown toOutput).2.stdout =
          "ERROR phoney: command failed error=\"invalid request: invalid request: " ++
            "template must be a JSON object or array\"\n") ∧
      ask toTable = .run ⟨g, .generate (args (some "out.csv") (some .csv))⟩ ∧
        behind.Ready g (args (some "out.csv") (some .csv)) ∧ (ended behind toTable).1 = 0 ∧
        (ended behind toTable).2.kept? "out.csv" =
          some ("value\n[1]\nINFO phoney: output written path=\"out.csv\" bytes=10\n" ++
            "INFO phoney: generate finished generated=1 execution_time_ms=0\n") := by
  intro g args own shown behind toFile toOutput toTable ended
  have readyOwn : own.Ready g (args (some "out.json") none) := by
    have loaded : own.settings g = .ok ⟨.standard 1, ⟨"warn", false, some "out.json"⟩⟩ := by
      decide +kernel
    refine ready_of_settings "1" rfl loaded (by decide +kernel) (by decide +kernel) ?_
    rintro path ⟨⟩
    decide +kernel
  have readyShown : shown.Ready g (args none none) := by
    have loaded : shown.settings g = .ok ⟨.standard 1, ⟨"warn", false, some "/dev/stdout"⟩⟩ := by
      decide +kernel
    refine ready_of_settings "1" rfl loaded (by decide +kernel) (by decide +kernel) ?_
    rintro path ⟨⟩
  have readyBehind : behind.Ready g (args (some "out.csv") (some .csv)) := by
    have loaded : behind.settings g = .ok ⟨.standard 1, ⟨"info", false, some ".out.csv.tmp"⟩⟩ := by
      decide +kernel
    refine ready_of_settings "[1]" rfl loaded (by decide +kernel) (by decide +kernel) ?_
    rintro path ⟨⟩
    decide +kernel
  refine ⟨⟨?_, readyOwn, ?_⟩, ⟨?_, readyShown, ?_⟩, ?_, readyBehind, ?_⟩
  all_goals decide +kernel

end Machine

end CommandLine

end Fabricate
