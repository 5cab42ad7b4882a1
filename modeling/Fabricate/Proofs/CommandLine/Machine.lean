import Fabricate.CommandLine.Machine
import Fabricate.Proofs.Generator.History

/-!
# What is kept in the files of a machine

A path names a location whether there is anything or not (`Path.location`). A machine that follows
the path stops where it cannot go on, but where it comes to the end it comes to that location. So
what a file holds can be said by paths, without a machine that follows them (`Machine.kept?`).

Whether a text can be put in place of a file depends on the names of the files that are there, and
not on what they hold (`SameNames`). Putting it there changes files and folders and the place of the
log, and nothing else of the machine.
-/

namespace Fabricate.CommandLine

/-- The location one step away, whatever is there. -/
def Location.step (p : Location) (name : String) : Location :=
  if name = "." then p else if name = ".." then p.parent else p.child name

/-- The location that a path names, whatever is there. -/
def Path.location (p : Path) : Location :=
  p.steps.foldl Location.step (if p.absolute then ⟨.root, []⟩ else .here)

namespace Machine

/-- What is kept in the file that a path names. -/
def kept? (m : Machine) (path : String) : Option String :=
  m.files.get? (Path.ofText path).location.text

/-! ### Following paths -/

theorem enter_eq_ok {m : Machine} {p location : Location} {step : String}
    (h : m.enter p step = .ok location) : location = p.step step := by
  unfold enter at h
  unfold Location.step
  split at h
  · cases h
  · split at h
    · cases h
    · split at h
      · next dot =>
          cases h
          rw [if_pos dot]
      · next dot =>
          rw [if_neg dot]
          split at h
          · next dots =>
              cases h
              rw [if_pos dots]
          · next dots =>
              rw [if_neg dots]
              split at h
              · cases h
              · cases h
                rfl

theorem walk_eq_ok {m : Machine} {p location : Location} {steps : List String}
    (h : m.walk p steps = .ok location) : location = steps.foldl Location.step p := by
  induction steps generalizing p with
  | nil =>
      cases h
      rfl
  | cons step steps ih =>
      rw [walk] at h
      cases entered : m.enter p step with
      | error fault =>
          rw [entered] at h
          cases h
      | ok next =>
          rw [entered] at h
          rw [List.foldl_cons, ← enter_eq_ok entered]
          exact ih h

theorem resolve_eq_ok {m : Machine} {p : Path} {location : Location}
    (h : m.resolve p = .ok location) : location = p.location := by
  unfold resolve start at h
  split at h
  · cases h
  · split at h
    · cases h
    · split at h
      · cases h
      · exact walk_eq_ok h

theorem entry?_eq_ok {m : Machine} {p : Path} {location : Location}
    (h : m.entry? p = .ok (some location)) : location = p.location := by
  unfold entry? at h
  cases resolved : m.resolve p with
  | error fault =>
      rw [resolved] at h
      cases h
  | ok found =>
      rw [resolved] at h
      injection h with h
      split at h
      · cases h
      · split at h
        · cases h
        · cases h
          exact resolve_eq_ok resolved

theorem writable_eq_ok {m : Machine} {p : Path} {location : Location}
    (h : m.writable p = .ok location) : location = p.location := by
  unfold writable at h
  cases entry : m.entry? p with
  | error fault =>
      rw [entry] at h
      cases h
  | ok found =>
      rw [entry] at h
      cases found with
      | none => cases h
      | some found =>
          dsimp only [bind, Except.bind] at h
          split at h
          · cases h
          · cases h
            exact entry?_eq_ok entry

/-! ### Contents do not show in paths -/

/-- The machines have files of the same names and the same folders, whatever the files hold. -/
structure SameNames (m n : Machine) : Prop where
  files : ∀ name, m.files.has name = n.files.has name
  folders : m.folders = n.folders

theorem SameNames.refl (m : Machine) : m.SameNames m :=
  ⟨fun _ => rfl, rfl⟩

theorem SameNames.trans {l m n : Machine} (h : l.SameNames m) (h' : m.SameNames n) :
    l.SameNames n :=
  ⟨fun name => (h.files name).trans (h'.files name), h.folders.trans h'.folders⟩

namespace SameNames

variable {m n : Machine} (same : m.SameNames n)

include same

theorem isFile (p : Location) : m.isFile p = n.isFile p := by
  unfold Machine.isFile
  rw [same.files]

theorem isDirectory (p : Location) : m.isDirectory p = n.isDirectory p := by
  have below : m.files.names.any (fun file => (p.text ++ "/").isPrefixOf file) =
      n.files.names.any (fun file => (p.text ++ "/").isPrefixOf file) := by
    rw [Bool.eq_iff_iff, List.any_eq_true, List.any_eq_true]
    simp only [← Directory.has_iff_mem_names, same.files]
  unfold Machine.isDirectory
  rw [below, same.folders]

theorem walk (p : Location) (steps : List String) : m.walk p steps = n.walk p steps := by
  induction steps generalizing p with
  | nil => rfl
  | cons step steps ih =>
      have entered : m.enter p step = n.enter p step := by
        unfold enter
        rw [same.isFile, same.isDirectory]
      rw [Machine.walk, Machine.walk, entered]
      cases n.enter p step with
      | error fault => rfl
      | ok next => exact ih next

theorem resolve (p : Path) : m.resolve p = n.resolve p := by
  unfold Machine.resolve
  cases Machine.start p with
  | error fault => rfl
  | ok start => exact same.walk start p.steps

theorem entry? (p : Path) : m.entry? p = n.entry? p := by
  unfold Machine.entry?
  rw [same.resolve]

theorem writable (p : Path) : m.writable p = n.writable p := by
  unfold Machine.writable
  rw [same.entry?]
  cases n.entry? p with
  | error fault => rfl
  | ok found =>
      cases found with
      | none => rfl
      | some location =>
          dsimp only [bind, Except.bind]
          rw [same.isDirectory]

/-- Taking over the folders of the other machine changes nothing. -/
theorem with_folders : { m with folders := n.folders } = m := by
  rw [← same.folders]

theorem put (p : Location) (text other : String) : (m.put p text).SameNames (n.put p other) := by
  refine ⟨fun name => ?_, same.folders⟩
  rw [Bool.eq_iff_iff, Machine.put, Machine.put, Directory.has_put_iff, Directory.has_put_iff,
    same.files]

/-- Both machines make the same folder. -/
theorem makeFolder (p : Path) :
    m.makeFolder p = (n.makeFolder p).map fun after => { m with folders := after.folders } := by
  unfold Machine.makeFolder
  rw [same.entry?]
  cases n.entry? p with
  | error fault => rfl
  | ok found =>
      cases found with
      | none => rfl
      | some location =>
          dsimp only [bind, Except.bind]
          rw [same.isFile, same.isDirectory]
          split
          · rfl
          · rw [same.folders]
            rfl

theorem ensureFolder (p : Path) :
    m.ensureFolder p = (n.ensureFolder p).map fun after => { m with folders := after.folders } := by
  have leads : m.leadsToDirectory p = n.leadsToDirectory p := by
    unfold leadsToDirectory
    rw [same.resolve]
    cases n.resolve p with
    | error fault => rfl
    | ok location => exact same.isDirectory location
  unfold Machine.ensureFolder
  rw [same.makeFolder, leads]
  cases n.makeFolder p with
  | ok after => rfl
  | error fault =>
      dsimp only [Except.map]
      split
      · dsimp only
        rw [same.with_folders]
      · rfl

theorem at_folders (folders : List Location) :
    SameNames { m with folders := folders } { n with folders := folders } :=
  ⟨same.files, rfl⟩

/-- A file can be put in place of another one in both machines or in neither. -/
theorem move (source : Location) (p : Path) :
    (m.move source p).map (fun _ => ()) = (n.move source p).map (fun _ => ()) := by
  unfold Machine.move
  rw [same.entry?]
  cases n.entry? p with
  | error fault => rfl
  | ok found =>
      cases found with
      | none => rfl
      | some location =>
          dsimp only [bind, Except.bind]
          rw [same.isDirectory]
          split
          · rfl
          · split <;> rfl

end SameNames

/-! ### Putting a text in place of a file -/

theorem makeFolder_eq_ok {m after : Machine} {p : Path} (h : m.makeFolder p = .ok after) :
    ∃ folders, after = { m with folders := folders } := by
  unfold makeFolder at h
  cases entry : m.entry? p with
  | error fault =>
      rw [entry] at h
      cases h
  | ok found =>
      rw [entry] at h
      cases found with
      | none => cases h
      | some location =>
          dsimp only [bind, Except.bind] at h
          split at h
          · cases h
          · cases h
            exact ⟨_, rfl⟩

theorem ensureFolder_eq_ok {m after : Machine} {p : Path} (h : m.ensureFolder p = .ok after) :
    ∃ folders, after = { m with folders := folders } := by
  unfold ensureFolder at h
  split at h
  · next made =>
      cases h
      exact makeFolder_eq_ok made
  · split at h
    · cases h
      exact ⟨_, rfl⟩
    · cases h

theorem ensureFolders_snd (m : Machine) (ps : List Path) :
    ∃ folders, (m.ensureFolders ps).2 = { m with folders := folders } := by
  induction ps generalizing m with
  | nil => exact ⟨_, rfl⟩
  | cons p outer ih =>
      rw [ensureFolders]
      split
      · next made => exact ensureFolder_eq_ok made
      · obtain ⟨folders, before⟩ := ih m
        split
        · next failed =>
            rw [failed] at before
            exact ⟨folders, before⟩
        · next later found =>
            rw [found] at before
            cases before
            split
            · next made =>
                obtain ⟨more, rfl⟩ := ensureFolder_eq_ok made
                exact ⟨more, rfl⟩
            · exact ⟨folders, rfl⟩
      · exact ⟨_, rfl⟩

theorem move_eq_ok {m after : Machine} {source : Location} {p : Path} {text : String}
    (there : m.textAt? source = some text) (h : m.move source p = .ok after) :
    ∃ files : Directory String, files.get? p.location.text = some text ∧
      after = { m with files := files, log := m.log.map (OpenLog.moved source p.location) } := by
  unfold move at h
  cases entry : m.entry? p with
  | error fault =>
      rw [entry] at h
      cases h
  | ok found =>
      rw [entry] at h
      cases found with
      | none => cases h
      | some location =>
          dsimp only [bind, Except.bind] at h
          split at h
          · cases h
          · split at h
            · cases h
            · cases h
              rw [← entry?_eq_ok entry, there]
              exact ⟨_, Directory.get?_put_self _ _ _, rfl⟩

theorem textAt?_put_self (m : Machine) (p : Location) (text : String) :
    (m.put p text).textAt? p = some text := by
  rw [textAt?, put, Directory.get?_put_self, Option.some_or]

/-- Both machines make the same folders. -/
theorem SameNames.ensureFolders {m n : Machine} (same : m.SameNames n) (ps : List Path) :
    m.ensureFolders ps =
      ((n.ensureFolders ps).1, { m with folders := (n.ensureFolders ps).2.folders }) := by
  induction ps with
  | nil => exact congrArg (Prod.mk _) same.with_folders.symm
  | cons p outer ih =>
      rw [Machine.ensureFolders, Machine.ensureFolders, same.ensureFolder, ih]
      cases n.ensureFolder p with
      | ok after => rfl
      | error fault =>
          cases fault with
          | notFound =>
              obtain ⟨folders, before⟩ := n.ensureFolders_snd outer
              cases made : n.ensureFolders outer with
              | mk result later =>
                  rw [made] at before
                  cases before
                  cases result with
                  | error fault => rfl
                  | ok =>
                      dsimp only [Except.map]
                      rw [(same.at_folders folders).ensureFolder]
                      cases Machine.ensureFolder { n with folders := folders } p with
                      | error fault => rfl
                      | ok after => rfl
          | _ => exact congrArg (Prod.mk _) same.with_folders.symm

/-- Whether a text can be put in place of a file does not depend on any text. -/
theorem SameNames.fst_replace {m n : Machine} (same : m.SameNames n) (path text other : String) :
    (m.replace path text).1 = (n.replace path other).1 := by
  obtain ⟨folders, made⟩ := n.ensureFolders_snd (Path.ofText path).ancestors
  unfold replace
  dsimp only
  rw [same.ensureFolders]
  cases found : n.ensureFolders (Path.ofText path).ancestors with
  | mk result ready =>
      rw [found] at made
      cases made
      have still := same.at_folders folders
      cases result with
      | error fault => rfl
      | ok =>
          dsimp only
          cases (Path.ofText path).temporary? with
          | none => rfl
          | some temporary =>
              dsimp only
              rw [still.writable]
              cases Machine.writable { n with folders := folders } temporary with
              | error fault => rfl
              | ok location =>
                  -- The two texts go under one name, and moving a file looks at names only.
                  have moved := (still.put location text other).move location (Path.ofText path)
                  dsimp only
                  generalize Machine.move (.put { m with folders := folders } _ _) _ _ = x
                    at moved ⊢
                  generalize Machine.move (.put { n with folders := folders } _ _) _ _ = y
                    at moved ⊢
                  cases x with
                  | error fault =>
                      cases y with
                      | error fault' =>
                          cases moved
                          rfl
                      | ok after => cases moved
                  | ok after =>
                      cases y with
                      | error fault => cases moved
                      | ok after' => rfl

/-- When a text was put in place of a file it is all that the file holds. Nothing else was changed
but files and folders, and the log went along with the temporary file. -/
theorem replace_eq_ok {m : Machine} {path text : String} (h : (m.replace path text).1 = .ok ()) :
    ∃ temporary files folders, (Path.ofText path).temporary? = some temporary ∧
      Directory.get? files (Path.ofText path).location.text = some text ∧
      (m.replace path text).2 =
        { m with
          files := files
          folders := folders
          log := m.log.map (OpenLog.moved temporary.location (Path.ofText path).location) } := by
  obtain ⟨folders, before⟩ := m.ensureFolders_snd (Path.ofText path).ancestors
  unfold replace at h ⊢
  dsimp only at h ⊢
  cases made : m.ensureFolders (Path.ofText path).ancestors with
  | mk result ready =>
      rw [made] at h before
      cases before
      cases result with
      | error fault => cases h
      | ok =>
          dsimp only at h ⊢
          cases named : (Path.ofText path).temporary? with
          | none =>
              rw [named] at h
              cases h
          | some temporary =>
              rw [named] at h
              dsimp only at h ⊢
              cases found : Machine.writable { m with folders := folders } temporary with
              | error fault =>
                  rw [found] at h
                  cases h
              | ok location =>
                  rw [found] at h
                  dsimp only at h ⊢
                  cases moved : Machine.move (.put { m with folders := folders } location text)
                      location (Path.ofText path) with
                  | error fault =>
                      rw [moved] at h
                      cases h
                  | ok after =>
                      obtain ⟨files, kept, rfl⟩ :=
                        move_eq_ok (textAt?_put_self _ location text) moved
                      rw [writable_eq_ok found]
                      exact ⟨temporary, files, folders, rfl, kept, rfl⟩

end Machine

end Fabricate.CommandLine
