import StageGraph.Proofs.Store.Failing

/-!
# Ids name files

An id of letters, digits, underscores and hyphens names one file, which stands in the
directory itself.  Saving and deleting under the id change no other file, loading and
looking up see no other, different ids name different files, and lists do not pass the
file over.  An id of another sort names nothing: it is refused as unknown, whatever stands
in the directory, and nothing is changed.  There is one exception.  An id with a line feed
at its end, behind letters of this sort, names a file too.
-/

namespace StageGraph

namespace Directory

variable {directory other : Directory} {name content : String}

/-- The directories hold the same under a name. -/
structure AgreeAt (name : String) (directory other : Directory) : Prop where
  present : directory.present = other.present
  held : Ledger.get? directory.entries name = Ledger.get? other.entries name

/-- The directories hold the same under all other names. -/
structure AgreeOff (name : String) (directory other : Directory) : Prop where
  present : directory.present = other.present
  held : ∀ place ≠ name, Ledger.get? directory.entries place = Ledger.get? other.entries place

theorem AgreeOff.refl (name : String) (directory : Directory) : AgreeOff name directory directory :=
  ⟨rfl, fun _ _ => rfl⟩

theorem agreeOff_withFile (name content : String) (directory : Directory) :
    AgreeOff name directory (directory.withFile name content) where
  present := rfl
  held := by
    intro place different
    rw [withFile, Ledger.get?_put, if_neg different.symm]

/-- The directory without a file. -/
def withoutFile (directory : Directory) (name : String) : Directory :=
  { directory with entries := Ledger.erase directory.entries name }

theorem agreeOff_withoutFile (name : String) (directory : Directory) :
    AgreeOff name directory (directory.withoutFile name) where
  present := rfl
  held := by
    intro place different
    rw [withoutFile, Ledger.get?_erase, if_neg different.symm]

theorem AgreeAt.entry?_eq (agree : AgreeAt name directory other) :
    directory.entry? name = other.entry? name := by
  rw [Directory.entry?, Directory.entry?, agree.present, agree.held]

theorem write_outcome (simple : IsSimple name) (directory : Directory) (content : String) :
    (∃ fault, directory.write name content = .error fault) ∨
      directory.write name content = .ok (directory.withFile name content) := by
  by_cases present : directory.present = true
  · by_cases short : name.utf8ByteSize ≤ nameLimit
    · by_cases folder : Ledger.get? directory.entries name = some .folder
      · exact .inl ⟨.isFolder, by
          simp [write, simple.path_eq, walk_nil, accept_start present, simple.leads,
            walk_name present simple short, simple.at?_place, folder, bind, Except.bind, throw,
            throwThe, MonadExceptOf.throw]⟩
      · exact .inr (write_eq present simple short folder content)
    · exact .inl ⟨_, write_of_long present simple (Nat.lt_of_not_le short) content⟩
  · exact .inl ⟨_, write_of_absent (Bool.not_eq_true _ ▸ present) simple content⟩

/-- What is unlinked under a simple name is gone, and nothing else changes. -/
theorem unlink_outcome (simple : IsSimple name) (directory : Directory) :
    (∃ fault, directory.unlink name = .error fault) ∨
      directory.unlink name = .ok (directory.withoutFile name) := by
  cases held : directory.content name with
  | error fault =>
      exact .inl ⟨fault, by
        simp [unlink, held, bind, Except.bind, discard, Functor.mapConst, Except.map]⟩
  | ok content =>
      have entry := entry?_of_content simple held
      by_cases reached : (directory.present && decide (name.utf8ByteSize ≤ nameLimit)) = true
      · obtain ⟨present, short⟩ := Bool.and_eq_true_iff.mp reached
        rw [entry?_eq present (of_decide_eq_true short)] at entry
        exact .inr (unlink_eq present simple (of_decide_eq_true short) entry)
      · rw [Directory.entry?, if_neg reached] at entry
        cases entry

theorem AgreeAt.content_eq (agree : AgreeAt name directory other) (simple : IsSimple name) :
    directory.content name = other.content name := by
  have step : directory.walk {} [name] = other.walk {} [name] := by
    simp [walk, accept, at?, Location.name?, agree.present]
  simp only [Directory.content, simple.path_eq, Directory.target, List.nil_append,
    Option.toList_some, step, bind, Except.bind]
  by_cases reached : other.present = true ∧ name.utf8ByteSize ≤ nameLimit
  · obtain ⟨present, short⟩ := reached
    simp only [walk_name present simple short, simple.at?_place, agree.held]
  · obtain ⟨fault, blocked⟩ := exists_walk_fault reached
    rw [blocked]

theorem AgreeAt.read_eq (agree : AgreeAt name directory other) (simple : IsSimple name) :
    directory.read name = other.read name := by
  rw [read, read, agree.content_eq simple]

end Directory

namespace Files

variable {id : String}

/-! ## What an id names -/

theorem place_ne_notFound (directory : Directory) (project : Project) (name : String)
    (id : Value) : (place directory project name).1 ≠ .error (.projectNotFound id) := by
  intro refused
  simp only [place] at refused
  split at refused
  · cases refused
  · split at refused <;> cases refused

theorem save_cases {project : Project} (safe : isSafeId project.id.toList = true)
    (directory : Directory) :
    (∃ fault, save directory project = (.error fault, directory)) ∨
      save directory project =
        (.ok (), directory.withFile (nameOf project.id) (document project)) := by
  cases outcome : (save directory project).1 with
  | error fault => exact .inl ⟨fault, Prod.ext outcome (save_keeps outcome)⟩
  | ok _ =>
      right
      have name := (fileName_text project.id).trans (if_pos safe)
      have watched : ¬ SaveEscapes directory project := by
        rw [← contained_save_iff, outcome]
        exact contained_ok _
      have writable : project.isWritable = true := by
        by_contra unwritable
        exact watched ⟨safe, .inl (Bool.not_eq_true _ ▸ unwritable)⟩
      have able : CanDraft directory := by
        by_contra unable
        exact watched ⟨safe, .inr unable⟩
      simp only [save, name, writable, if_true, able.place_eq] at outcome ⊢
      rcases Directory.write_outcome (isSimple_nameOf safe) directory (document project) with
        ⟨fault, failed⟩ | written
      · rw [failed] at outcome
        cases outcome
      · rw [written]

theorem delete_cases (safe : isSafeId id.toList = true) (directory : Directory) :
    (∃ fault, delete directory (.text id) = (.error fault, directory)) ∨
      delete directory (.text id) = (.ok (), directory.withoutFile (nameOf id)) := by
  have name := (fileName_text id).trans (if_pos safe)
  simp only [delete, name]
  split
  · exact .inl ⟨_, rfl⟩
  · rcases Directory.unlink_outcome (isSimple_nameOf safe) directory with
      ⟨fault, failed⟩ | unlinked
    · rw [failed]
      exact .inl ⟨_, rfl⟩
    · rw [unlinked]
      exact .inr rfl

theorem readFile_congr {first second : Directory} {name : String}
    (agree : Directory.AgreeAt name first second) (simple : Directory.IsSimple name)
    (clock : Clock) : readFile first name clock = readFile second name clock := by
  rw [readFile, readFile, agree.read_eq simple]

end Files

namespace Store

open Directory (AgreeAt AgreeOff)

namespace Task

def subject : Task → String
  | .save project => project.id
  | .load id | .delete id => id

/-- A task fails and changes nothing, or it succeeds and leaves a directory. -/
def FailsOrLeaves (task : Task) (files later : Directory) (world : World) : Prop :=
  (∃ fault, task.outcome files world =
    (.error fault, { world with store := .directory files })) ∨
  task.outcome files world = (.ok (), { world with store := .directory later })

variable {id : String} (files : Directory) (world : World)

theorem save_failsOrLeaves {project : Project}
    (safe : Files.isSafeId project.id.toList = true) :
    (save project).FailsOrLeaves files
      (files.withFile (Files.nameOf project.id) (Files.document project)) world := by
  rw [FailsOrLeaves, outcome_save]
  rcases Files.save_cases safe files with ⟨fault, failed⟩ | written
  · rw [failed]
    exact .inl ⟨fault, rfl⟩
  · rw [written]
    exact .inr rfl

theorem delete_failsOrLeaves (safe : Files.isSafeId id.toList = true) :
    (delete id).FailsOrLeaves files (files.withoutFile (Files.nameOf id)) world := by
  rw [FailsOrLeaves, outcome_delete]
  rcases Files.delete_cases safe files with ⟨fault, failed⟩ | gone
  · rw [failed]
    exact .inl ⟨fault, rfl⟩
  · rw [gone]
    exact .inr rfl

variable {files world} in
theorem FailsOrLeaves.exists_agreeOff {task : Task} {later : Directory} {name : String}
    (ends : task.FailsOrLeaves files later world) (agree : AgreeOff name files later) :
    ∃ left, (task.outcome files world).2.store = .directory left ∧ AgreeOff name files left := by
  rcases ends with ⟨fault, failed⟩ | done
  · rw [failed]
    exact ⟨files, rfl, .refl name files⟩
  · rw [done]
    exact ⟨later, rfl, agree⟩

/-- No task about an id that names a file changes another file. -/
theorem exists_agreeOff (task : Task) (safe : Files.isSafeId task.subject.toList = true) :
    ∃ left, (task.outcome files world).2.store = .directory left ∧
      AgreeOff (Files.nameOf task.subject) files left := by
  cases task with
  | save project =>
      exact (save_failsOrLeaves files world safe).exists_agreeOff
        (Directory.agreeOff_withFile _ _ _)
  | load id =>
      rw [outcome_load]
      exact ⟨files, rfl, .refl _ files⟩
  | delete id =>
      exact (delete_failsOrLeaves files world safe).exists_agreeOff
        (Directory.agreeOff_withoutFile _ _)

end Task

/-- In a store of files the id stands for a single file in the directory itself, which lists do
not pass over. -/
structure NamesFile (id name : String) : Prop where
  direct : Directory.Path.ofText name = .ok { outer := [], last := some name, isClosed := false }
  listed : Files.holdsProject name = true
  /-- A project that is saved stands in the file. -/
  saves : ∀ (project : Project) (files : Directory) (world : World), project.id = id →
    (Task.save project).FailsOrLeaves files (files.withFile name (Files.document project)) world
  /-- The file of a project that is deleted is gone. -/
  deletes : ∀ (files : Directory) (world : World),
    (Task.delete id).FailsOrLeaves files (files.withoutFile name) world
  /-- No task about the id changes anything else. -/
  changes : ∀ (task : Task) (files : Directory) (world : World), task.subject = id →
    ∃ left, (task.outcome files world).2.store = .directory left ∧ AgreeOff name files left
  /-- Loading sees nothing else. -/
  loads : ∀ (files others : Directory) (world : World), AgreeAt name files others →
    ((Store.load (.text id)).perform { world with store := .directory files }).1 =
      ((Store.load (.text id)).perform { world with store := .directory others }).1
  /-- A project is there exactly when something stands under the name. -/
  finds : ∀ (files : Directory) (world : World),
    ((Store.has (.text id)).perform { world with store := .directory files }).1 =
      .ok (files.entry? name).isSome

/-- The id is unknown to every store of files, which stays as it is. -/
structure IsRefused (id : String) : Prop where
  fails : ∀ (task : Task) (files : Directory) (world : World), task.subject = id →
    task.outcome files world =
      (.error (.projectNotFound (.text id)), { world with store := .directory files })
  misses : ∀ (files : Directory) (world : World),
    (Store.has (.text id)).perform { world with store := .directory files } =
      (.ok false, { world with store := .directory files })

variable {id : String}

theorem perform_has_directory (files : Directory) (world : World) :
    (Store.has (.text id)).perform { world with store := .directory files } =
      (Files.exists? files (.text id), { world with store := .directory files }) := by
  simp only [Store.has, Action.perform_bind, Action.perform_get, Action.perform_ofResult]

theorem perform_load_directory (files : Directory) (world : World) :
    (Store.load (.text id)).perform { world with store := .directory files } =
      ((Files.load files (.text id) world.clock).1,
        { world with
          store := .directory files
          clock := (Files.load files (.text id) world.clock).2 }) := by
  simp only [Store.load, Action.perform_bind, Action.perform_get, Action.perform_set,
    Action.perform_ofResult]

theorem isRefused_of_not_safe (notSafe : Files.isSafeId id.toList ≠ true) : IsRefused id := by
  have name := (Files.fileName_text id).trans (if_neg notSafe)
  constructor
  · intro task files world about
    subst about
    cases task <;> simp only [Task.subject] at name ⊢
    case save project => simp only [Task.outcome_save, Files.save, name]
    case load id => simp only [Task.outcome_load, Files.load, name, Except.map]
    case delete id => simp only [Task.outcome_delete, Files.delete, name]
  · intro files world
    rw [perform_has_directory, Files.exists?, name]

theorem namesFile_of_safe (safe : Files.isSafeId id.toList = true) :
    NamesFile id (Files.nameOf id) := by
  have simple := Files.isSimple_nameOf safe
  have name := (Files.fileName_text id).trans (if_pos safe)
  constructor
  · exact simple.path_eq
  · exact Files.holdsProject_nameOf safe
  · rintro project files world rfl
    exact Task.save_failsOrLeaves files world safe
  · intro files world
    exact Task.delete_failsOrLeaves files world safe
  · rintro task files world rfl
    exact Task.exists_agreeOff files world task safe
  · intro files others world agree
    rw [perform_load_directory, perform_load_directory, Files.load, Files.load, name]
    simp only [agree.entry?_eq, Files.readFile_congr agree simple]
  · intro files world
    rw [perform_has_directory, Files.exists?, name]

/-- An id that names a file is not refused: saving under it never fails for want of the
project. -/
theorem not_isRefused_of_safe (safe : Files.isSafeId id.toList = true) : ¬ IsRefused id := by
  intro refused
  have failed := congrArg Prod.fst
    (refused.fails (.save (Files.sample id)) {} Keeping.sampleWorld rfl)
  have name := (Files.fileName_text id).trans (if_pos safe)
  have own : (Files.sample id).id = id := rfl
  have writable : (Files.sample id).isWritable = true := rfl
  rw [Task.outcome_save] at failed
  simp only [Files.save, own, name, writable, if_true] at failed
  exact Files.place_ne_notFound _ _ _ _ failed

/-- A plain id names its file, and an id of another sort is refused. -/
structure IsConfined (id : String) : Prop where
  plain : Files.IsPlainId id → NamesFile id (Files.nameOf id)
  other : ¬ Files.IsPlainId id → IsRefused id

theorem isConfined_of_not_isFedId (notFed : ¬ Files.IsFedId id) : IsConfined id where
  plain plain := namesFile_of_safe (Files.isSafeId_iff.mpr (.inl plain))
  other notPlain :=
    isRefused_of_not_safe fun safe => (Files.isSafeId_iff.mp safe).elim notPlain notFed

theorem not_isConfined_of_isFedId (fed : Files.IsFedId id) : ¬ IsConfined id := by
  intro confined
  exact not_isRefused_of_safe (Files.isSafeId_iff.mpr (.inr fed))
    (confined.other fed.not_isPlainId)

/-- Ids are confined except for plain ones with a line feed behind them, which name files of
their own.  Different ids have files of different names. -/
theorem isConfined_iff_not_isFedId (id : String) :
    (IsConfined id ↔ ¬ Files.IsFedId id) ∧
      (Files.IsFedId id → NamesFile id (Files.nameOf id)) ∧
      ∀ other, id ≠ other → Files.nameOf id ≠ Files.nameOf other := by
  refine ⟨⟨?_, isConfined_of_not_isFedId⟩, ?_, fun _ => Files.nameOf_injective.ne⟩
  · intro confined fed
    exact not_isConfined_of_isFedId fed confined
  · intro fed
    exact namesFile_of_safe (Files.isSafeId_iff.mpr (.inr fed))

theorem fedId_not_isConfined :
    ((Task.save (Files.sample "a\n")).outcome {} Keeping.sampleWorld).1 = .ok () ∧
      ¬ IsConfined "a\n" := by
  have plain : Files.IsPlainId "a" := ⟨by decide, by simp; decide⟩
  have admits : Files.Admits (Files.sample "a\n") := ⟨by decide, by decide, rfl⟩
  have fed : Files.IsFedId "a\n" := ⟨"a", plain, by decide⟩
  refine ⟨?_, not_isConfined_of_isFedId fed⟩
  have empty : ({} : Directory) = Files.filed [] := rfl
  rw [Task.outcome_save, empty, Files.save_of_admits [] admits]

end Store

end StageGraph
