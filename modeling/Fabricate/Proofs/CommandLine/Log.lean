import Fabricate.Proofs.CommandLine.Machine

/-!
# What the log leaves on a machine

Opening the log makes its file where it is missing and changes no other one (`Opened`). From then on
every event adds a text in the one place where the log is kept, which may be a file or the standard
output (`Told`). So of any other place it can be said that the log added nothing (`LinesIf`), and a
file is there after an event exactly if it was there before.
-/

namespace Fabricate.CommandLine

/-- The text is made of what events add to a log. -/
inductive IsLog (write : LogStyle → Nat → LogEvent → String) : String → Prop
  | nil : IsLog write ""
  | snoc {text : String} (before : IsLog write text) (style : LogStyle) (told : Nat)
      (e : LogEvent) : IsLog write (text ++ write style told e)

theorem IsLog.append {write : LogStyle → Nat → LogEvent → String} {a b : String}
    (first : IsLog write a) (second : IsLog write b) : IsLog write (a ++ b) := by
  induction second with
  | nil => rwa [String.append_empty]
  | snoc _ style told e ih =>
      rw [← String.append_assoc]
      exact .snoc ih style told e

namespace Machine

/-- The text is what the log added, and it is empty unless the log is kept `there`. -/
def LinesIf (m : Machine) (there : Prop) (text : String) : Prop :=
  IsLog m.logText text ∧ (¬ there → text = "")

/-- The log is kept in the standard output. -/
def LogsOut (m : Machine) : Prop :=
  ∃ log, m.log = some log ∧ log.place = .output

/-- The log is kept in the file at a location. -/
def LogsInto (m : Machine) (p : Location) : Prop :=
  ∃ log q, m.log = some log ∧ log.place = .file q ∧ q.text = p.text

section

variable {m n : Machine} {there : Prop} {a b : String}

theorem LinesIf.nil : m.LinesIf there "" :=
  ⟨.nil, fun _ => rfl⟩

theorem LinesIf.append (first : m.LinesIf there a) (second : m.LinesIf there b) :
    m.LinesIf there (a ++ b) :=
  ⟨first.1.append second.1, fun elsewhere => by
    rw [first.2 elsewhere, second.2 elsewhere, String.append_empty]⟩

/-- What is said of one machine holds of another one that writes events in the same way. -/
theorem LinesIf.imp {here : Prop} (lines : n.LinesIf here a) (write : n.logText = m.logText)
    (h : here → there) : m.LinesIf there a :=
  ⟨write ▸ lines.1, fun elsewhere => lines.2 (mt h elsewhere)⟩

theorem LinesIf.of_place (style : LogStyle) (told : Nat) (e : LogEvent) (h : there) :
    m.LinesIf there (m.logText style told e) := by
  have line : IsLog m.logText ("" ++ m.logText style told e) := .snoc .nil style told e
  rw [String.empty_append] at line
  exact ⟨line, fun elsewhere => absurd h elsewhere⟩

end

/-! ### Telling -/

/-- The second machine is the first one after events. -/
structure Told (m n : Machine) : Prop where
  names : m.SameNames n
  log : n.log = m.log
  logText : n.logText = m.logText
  stdout : ∃ lines, m.LinesIf m.LogsOut lines ∧ n.stdout = m.stdout ++ lines
  files : ∀ p : Location, ∃ lines, m.LinesIf (m.LogsInto p) lines ∧
    n.files.get? p.text = (m.files.get? p.text).map (· ++ lines)

theorem Told.refl (m : Machine) : m.Told m where
  names := .refl m
  log := rfl
  logText := rfl
  stdout := ⟨"", .nil, (String.append_empty).symm⟩
  files := fun p => ⟨"", .nil, by simp⟩

theorem Told.trans {l m n : Machine} (h : l.Told m) (h' : m.Told n) : l.Told n where
  names := h.names.trans h'.names
  log := h'.log.trans h.log
  logText := h'.logText.trans h.logText
  stdout := by
    obtain ⟨first, some, shown⟩ := h.stdout
    obtain ⟨second, more, shown'⟩ := h'.stdout
    have more : l.LinesIf l.LogsOut second := more.imp h.logText fun out => by
      rwa [LogsOut, ← h.log]
    exact ⟨first ++ second, some.append more, by rw [shown', shown, String.append_assoc]⟩
  files := by
    intro p
    obtain ⟨first, some, kept⟩ := h.files p
    obtain ⟨second, more, kept'⟩ := h'.files p
    have more : l.LinesIf (l.LogsInto p) second := more.imp h.logText fun into => by
      rwa [LogsInto, ← h.log]
    refine ⟨first ++ second, some.append more, ?_⟩
    rw [kept', kept, Option.map_map]
    refine congrArg (Option.map · _) (funext fun text => ?_)
    rw [Function.comp_apply, String.append_assoc]

/-- Nothing but the outputs and the number of events is another one. -/
theorem Told.of_output {m : Machine} {out : String} (stderr : String) (told : Nat)
    (lines : m.LinesIf m.LogsOut out) :
    m.Told { m with stdout := m.stdout ++ out, stderr := stderr, told := told } where
  names := ⟨fun _ => rfl, rfl⟩
  log := rfl
  logText := rfl
  stdout := ⟨out, lines, rfl⟩
  files := (Told.refl m).files

theorem Told.of_file {m : Machine} {q : Location} {before line : String} (told : Nat)
    (there : m.files.get? q.text = some before)
    (lines : ∀ p : Location, q.text = p.text → m.LinesIf (m.LogsInto p) line) :
    m.Told { m.put q (before ++ line) with told := told } where
  names := by
    refine ⟨fun name => ?_, rfl⟩
    rw [Bool.eq_iff_iff, put, Directory.has_put_iff]
    refine ⟨.inr, ?_⟩
    rintro (rfl | known)
    · rw [Directory.has, there, Option.isSome_some]
    · exact known
  log := rfl
  logText := rfl
  stdout := (Told.refl m).stdout
  files := by
    intro p
    by_cases here : q.text = p.text
    · refine ⟨line, lines p here, ?_⟩
      rw [← here, there, put, Directory.get?_put_self, Option.map_some]
    · refine ⟨"", .nil, ?_⟩
      rw [put, Directory.put, Directory.get?_update_of_ne _ (Ne.symm here)]
      simp

/-- An event adds a text in the place where the log is kept. -/
theorem told_tell (m : Machine) (e : LogEvent) : m.Told (m.tell e) := by
  unfold tell
  cases opened : m.log with
  | none => exact .refl m
  | some log =>
      obtain ⟨style, place⟩ := log
      have silent : m.LinesIf m.LogsOut "" := .nil
      have added {there : Prop} (h : there) : m.LinesIf there (m.logText style m.told e) :=
        .of_place style m.told e h
      cases place with
      | output => exact .of_output m.stderr _ (added ⟨_, opened, rfl⟩)
      | errorOutput => simpa [addToLog] using Told.of_output _ (m.told + 1) silent
      | nowhere => simpa [addToLog] using Told.of_output m.stderr (m.told + 1) silent
      | file q =>
          cases there : m.files.get? q.text with
          | none => simpa [addToLog, there] using Told.of_output m.stderr (m.told + 1) silent
          | some before =>
              simpa [addToLog, there] using
                Told.of_file (m.told + 1) there fun p same => added ⟨_, q, opened, rfl, same⟩

/-- The machine after the log was told of some events. -/
def tellAll (m : Machine) (events : List LogEvent) : Machine :=
  events.foldl tell m

theorem told_tellAll (m : Machine) (events : List LogEvent) : m.Told (m.tellAll events) := by
  induction events generalizing m with
  | nil => exact .refl m
  | cons e events ih => exact (m.told_tell e).trans (ih (m.tell e))

/-! ### Moving -/

/-- When a file was moved, the log is kept in the output only if it was before. -/
theorem logsOut_of_moved {m n : Machine} {source target : Location}
    (moved : n.log = m.log.map (OpenLog.moved source target)) (h : n.LogsOut) : m.LogsOut := by
  obtain ⟨log, opened, place⟩ := h
  rw [moved] at opened
  obtain ⟨before, was, rfl⟩ := Option.map_eq_some_iff.1 opened
  refine ⟨before, was, ?_⟩
  unfold OpenLog.moved LogPlace.moved at place
  dsimp only at place
  split at place
  · split at place
    · cases place
    · split at place <;> cases place
  · exact place

/-- When a file was moved, the log is kept in it at the new place only if it was at the old one. -/
theorem logsInto_of_moved {m n : Machine} {source target : Location}
    (moved : n.log = m.log.map (OpenLog.moved source target)) (h : n.LogsInto target) :
    m.LogsInto source := by
  obtain ⟨log, q, opened, place, here⟩ := h
  rw [moved] at opened
  obtain ⟨before, was, rfl⟩ := Option.map_eq_some_iff.1 opened
  unfold OpenLog.moved LogPlace.moved at place
  dsimp only at place
  split at place
  · next p kept =>
      split at place
      · next there => exact ⟨before, p, was, kept, there⟩
      · split at place
        · cases place
        · next other =>
            cases place
            exact absurd here other
  · next other => exact absurd place (other q)

/-- When a text was put in place of a file and events follow, the file holds the text, and behind it
what the log adds if it was kept in the temporary file. -/
theorem tellAll_replace {m : Machine} {path text : String} (h : (m.replace path text).1 = .ok ())
    (events : List LogEvent) :
    let after := (m.replace path text).2.tellAll events
    (∃ lines, m.LinesIf m.LogsOut lines ∧ after.stdout = m.stdout ++ lines) ∧
      ∃ temporary lines, (Path.ofText path).temporary? = some temporary ∧
        m.LinesIf (m.LogsInto temporary.location) lines ∧
        after.kept? path = some (text ++ lines) := by
  obtain ⟨temporary, files, folders, named, kept, result⟩ := replace_eq_ok h
  have moved : (m.replace path text).2.log =
      m.log.map (OpenLog.moved temporary.location (Path.ofText path).location) := by
    rw [result]
  have write : (m.replace path text).2.logText = m.logText := by
    rw [result]
  have told := (m.replace path text).2.told_tellAll events
  constructor
  · obtain ⟨lines, found, shown⟩ := told.stdout
    refine ⟨lines, found.imp write (logsOut_of_moved moved), ?_⟩
    rw [shown, result]
  · obtain ⟨lines, found, grown⟩ := told.files (Path.ofText path).location
    refine ⟨temporary, lines, named, found.imp write (logsInto_of_moved moved), ?_⟩
    rw [kept?, grown, result, kept, Option.map_some]

/-! ### Opening -/

/-- The second machine is the first one with a log that was opened, if it could be. -/
structure Opened (m : Machine) (file : Option String) (n : Machine) : Prop where
  stdout : n.stdout = m.stdout
  day : n.day = m.day
  logText : n.logText = m.logText
  files : ∀ p : Location, n.files.get? p.text = m.files.get? p.text ∨
    ∃ path, file = some path ∧ (Path.ofText path).location.text = p.text ∧
      m.files.get? p.text = none ∧ n.files.get? p.text = some ""
  output : n.LogsOut →
    ∃ path, file = some path ∧ (Path.ofText path).location.device? = some .output
  file : ∀ p, n.LogsInto p →
    ∃ path, file = some path ∧ (Path.ofText path).location.text = p.text

theorem Opened.of_closed {m : Machine} (closed : m.log = none) (file : Option String) :
    m.Opened file m where
  stdout := rfl
  day := rfl
  logText := rfl
  files := fun _ => .inl rfl
  output := by
    rintro ⟨log, opened, -⟩
    cases closed.symm.trans opened
  file := by
    rintro p ⟨log, q, opened, -⟩
    cases closed.symm.trans opened

theorem logPlace_output {m : Machine} {p : Location} (h : m.logPlace p = .ok .output) :
    p.device? = some .output := by
  unfold logPlace at h
  split at h
  · cases h
  · split at h <;> first | assumption | cases h

theorem logPlace_file {m : Machine} {p q : Location} (h : m.logPlace p = .ok (.file q)) :
    q = p := by
  unfold logPlace at h
  split at h
  · cases h
    rfl
  · split at h <;> cases h
    rfl

theorem touch_keeps (m : Machine) (p : Location) :
    (m.touch p).stdout = m.stdout ∧ (m.touch p).day = m.day ∧ (m.touch p).logText = m.logText := by
  unfold touch
  split
  · exact ⟨rfl, rfl, rfl⟩
  · exact ⟨rfl, rfl, rfl⟩

theorem get?_touch (m : Machine) (p q : Location) :
    (m.touch p).files.get? q.text = m.files.get? q.text ∨
      p.text = q.text ∧ m.files.get? q.text = none ∧ (m.touch p).files.get? q.text = some "" := by
  unfold touch
  split
  · exact .inl rfl
  · next missing =>
      by_cases here : p.text = q.text
      · have absent : m.files.get? p.text = none := by
          rw [isFile, Bool.or_eq_true, not_or, Directory.has] at missing
          exact Option.not_isSome_iff_eq_none.1 missing.1
        refine .inr ⟨here, here ▸ absent, ?_⟩
        rw [← here, put, Directory.get?_put_self]
      · exact .inl (Directory.get?_update_of_ne _ (Ne.symm here) _)

theorem opened_openLog {m : Machine} (closed : m.log = none) (style : LogStyle)
    (file : Option String) : m.Opened file (m.openLog style file).2 := by
  unfold openLog
  cases file with
  | none =>
      have kept : m.Opened none m := .of_closed closed none
      refine ⟨rfl, rfl, rfl, kept.files, ?_, ?_⟩
      · rintro ⟨log, opened, place⟩
        cases opened
        cases place
      · rintro p ⟨log, q, opened, place, -⟩
        cases opened
        cases place
  | some path =>
      dsimp only
      cases found : m.writable (Path.ofText path) with
      | error fault => exact .of_closed closed _
      | ok location =>
          dsimp only
          cases kept : m.logPlace location with
          | error fault => exact .of_closed closed _
          | ok place =>
              cases writable_eq_ok found
              obtain ⟨stdout, day, logText⟩ := m.touch_keeps (Path.ofText path).location
              refine ⟨stdout, day, logText, fun p => ?_, ?_, ?_⟩
              · exact (m.get?_touch _ p).imp id fun made => ⟨path, rfl, made⟩
              · rintro ⟨log, opened, here⟩
                cases opened
                cases here
                exact ⟨path, rfl, logPlace_output kept⟩
              · rintro p ⟨log, q, opened, here, same⟩
                cases opened
                cases here
                cases logPlace_file kept
                exact ⟨path, rfl, same⟩

end Machine

end Fabricate.CommandLine
