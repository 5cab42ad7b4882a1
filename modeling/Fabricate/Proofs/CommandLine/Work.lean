import Fabricate.CommandLine.Program
import Fabricate.Proofs.CommandLine.Log

/-!
# Work on a machine in memory

The command line asks its host for one thing after another and stops at the first failure. With a
machine in memory as the host, work comes to a result and to the machine afterwards (`Work.on`);
what work that is made of parts comes to follows from what its parts come to.

A command that needs settings loads them first and opens the log next. Loading the settings only
looks at the machine (`Work.Consults`), opening the log makes the file of the log or nothing, and a
failure is told to the log before it is told to the caller.
-/

namespace Fabricate.CommandLine

variable {α β : Type}

/-! ### Work on a machine -/

/-- What work comes to on a machine, and the machine afterwards. -/
def Work.on (w : Work (StateM Machine) α) (m : Machine) : Except CommandError α × Machine :=
  (ExceptT.run w).run m

namespace Work

theorem on_bind (w : Work (StateM Machine) α) (f : α → Work (StateM Machine) β) (m : Machine) :
    (w >>= f).on m =
      match w.on m with
      | (.ok a, n) => (f a).on n
      | (.error e, n) => (.error e, n) := by
  unfold Work.on
  rw [ExceptT.run_bind, StateT.run_bind]
  cases (ExceptT.run w).run m with
  | mk result n =>
      cases result with
      | ok a => rfl
      | error e => rfl

theorem on_perform (action : StateM Machine α) (m : Machine) :
    (perform action).on m = (.ok (action.run m).1, (action.run m).2) := rfl

theorem on_attempt {ε : Type} (failure : ε → CommandError) (action : StateM Machine (Except ε α))
    (m : Machine) :
    (attempt failure action).on m = ((action.run m).1.mapError failure, (action.run m).2) := by
  rw [attempt, on_bind, on_perform]
  dsimp only
  cases (action.run m).1 with
  | ok a => rfl
  | error e => rfl

theorem on_settle {ε : Type} (failure : ε → CommandError) (x : Except ε α) (m : Machine) :
    (settle failure x).on m = (x.mapError failure, m) := by
  cases x with
  | ok a => rfl
  | error e => rfl

/-- The work only looks at the machine, and the settings are to blame where it fails. -/
def Consults (w : Work (StateM Machine) α) : Prop :=
  ∀ m, (∃ a, w.on m = (.ok a, m)) ∨ ∃ e, w.on m = (.error (.config e), m)

namespace Consults

theorem pure (a : α) : Consults (pure a) :=
  fun _ => .inl ⟨a, rfl⟩

theorem bind {w : Work (StateM Machine) α} {f : α → Work (StateM Machine) β} (first : w.Consults)
    (next : ∀ a, (f a).Consults) : (w >>= f).Consults := by
  intro m
  rw [on_bind]
  rcases first m with ⟨a, done⟩ | ⟨e, failed⟩
  · rw [done]
    exact next a m
  · rw [failed]
    exact .inr ⟨e, rfl⟩

theorem perform {action : StateM Machine α} (looks : ∀ m, (action.run m).2 = m) :
    (perform action).Consults := by
  intro m
  rw [on_perform, looks m]
  exact .inl ⟨_, rfl⟩

theorem attempt {ε : Type} (failure : ε → ConfigError) {action : StateM Machine (Except ε α)}
    (looks : ∀ m, (action.run m).2 = m) :
    (attempt (fun e => .config (failure e)) action).Consults := by
  intro m
  rw [on_attempt, looks m]
  cases (action.run m).1 with
  | ok a => exact .inl ⟨a, rfl⟩
  | error e => exact .inr ⟨failure e, rfl⟩

theorem settle {ε : Type} (failure : ε → ConfigError) (x : Except ε α) :
    (settle (fun e => .config (failure e)) x).Consults := by
  intro m
  rw [on_settle]
  cases x with
  | ok a => exact .inl ⟨a, rfl⟩
  | error e => exact .inr ⟨failure e, rfl⟩

end Consults

end Work

/-! ### Settings, log and request -/

open Work

theorem consults_settingsDocument (named : Option String) :
    (settingsDocument Machine.host named).Consults := by
  cases named with
  | some path => exact (Consults.attempt .file fun _ => rfl).bind fun text => .pure _
  | none =>
      refine (Consults.perform fun _ => rfl).bind fun there => ?_
      cases there with
      | true => exact (Consults.attempt .file fun _ => rfl).bind fun text => .pure _
      | false => exact .pure none

theorem valuesOf_looks (names : List String) (m : Machine) :
    ((valuesOf Machine.host names).run m).2 = m := by
  induction names with
  | nil => rfl
  | cons name names ih => exact ih

theorem consults_loadSettings (g : Globals) : (loadSettings Machine.host g).Consults := by
  unfold loadSettings
  refine (consults_settingsDocument g.config).bind fun document => ?_
  refine (Consults.perform (valuesOf_looks settingVariables)).bind fun values => ?_
  refine (Consults.perform fun _ => rfl).bind fun workers => ?_
  exact (Consults.settle .settings _).bind fun s => .pure _

namespace Machine

/-- The settings for a command on the machine. -/
def settings (m : Machine) (g : Globals) : Except CommandError Settings :=
  ((loadSettings Machine.host g).on m).1

/-- The machine when the log of some settings is opened. -/
def logged (m : Machine) (s : Settings) : Machine :=
  ((prepareLog Machine.host s.logging).on m).2

/-- The text of a request. -/
def source (m : Machine) (name : String) : Except FileFault String :=
  if name = "-" then .ok m.stdin else m.read name

theorem loadSettings_on (m : Machine) (g : Globals) :
    (loadSettings Machine.host g).on m = (m.settings g, m) := by
  unfold settings
  rcases consults_loadSettings g m with ⟨s, loaded⟩ | ⟨e, failed⟩
  · rw [loaded]
  · rw [failed]

theorem settings_eq_error {m : Machine} {g : Globals} {e : CommandError}
    (h : m.settings g = .error e) : ∃ c, e = .config c := by
  unfold settings at h
  rcases consults_loadSettings g m with ⟨s, loaded⟩ | ⟨c, failed⟩
  · rw [loaded] at h
    cases h
  · rw [failed] at h
    cases h
    exact ⟨c, rfl⟩

/-- The log is opened as the settings say, or it stays closed. -/
theorem opened_logged {m : Machine} (closed : m.log = none) (s : Settings) :
    m.Opened s.logging.file (m.logged s) := by
  have consulted : (StateT.run (Machine.host.environment? logVariable) m).2 = m := rfl
  have opening (style : LogStyle) : StateT.run (Machine.host.openLog style s.logging.file) m =
      m.openLog style s.logging.file := by
    dsimp only [Machine.host, StateT.run]
  unfold logged prepareLog
  rw [on_bind, on_perform]
  dsimp only
  rw [consulted, on_bind, on_settle]
  cases settleFilter _ s.logging.level with
  | error fault => exact .of_closed closed _
  | ok filter =>
      dsimp only [Except.mapError]
      rw [on_attempt, opening]
      exact opened_openLog closed _ _

theorem tellAll_on (m : Machine) (events : List LogEvent) :
    (perform (CommandLine.tellAll Machine.host events)).on m = (.ok (), m.tellAll events) := by
  rw [on_perform]
  induction events generalizing m with
  | nil => rfl
  | cons e events ih => exact ih (m.tell e)

theorem readInput_on (m : Machine) (name : String) :
    (readInput Machine.host name).on m = ((m.source name).mapError .file, m) := by
  unfold readInput source
  rw [on_attempt]
  split
  · rfl
  · rfl

/-! ### Runs -/

theorem run_eq {arguments : List String} {i : Invocation} (asked : ask arguments = .run i)
    (source : TextSource) (m : Machine) :
    (run source Machine.host arguments).run m =
      match (execute source Machine.host i).on m with
      | (.ok (), n) => (0, n)
      | (.error e, n) =>
          let told := n.tell (commandFailed e)
          (e.exitCode, { told with stderr := told.stderr ++ e.report }) := by
  unfold run
  rw [asked]
  dsimp only
  rw [StateT.run_bind]
  unfold Work.on
  cases StateT.run (ExceptT.run (execute source Machine.host i)) m with
  | mk result n =>
      cases result with
      | ok _ => rfl
      | error e => rfl

end Machine

end Fabricate.CommandLine
