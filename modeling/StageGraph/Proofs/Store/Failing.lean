import StageGraph.Proofs.Store.Keeping

/-!
# How a store of files fails

A store in a directory fails by two faults of its own: a project is not there, or the
store cannot read or write.  Whatever fails leaves the directory as it is, for a
document goes under a scratch name first, and the scratch file is taken away when the
document cannot be moved to its place.  That first file is made with no watch over the
file system, though.  Neither is anything watched over while the document is written
down, or when a document that is read holds a time beyond the calendar.  In these
cases, and in no others, a fault escapes that is none of the store's own.
-/

namespace StageGraph

namespace Fresh

theorem exists_pick_eq (base : String) (taken : List String) :
    ∃ counter, pick base taken = candidate base counter := by
  unfold pick
  cases found : ((List.range (taken.length + 1)).map (candidate base)).find?
      fun name => !taken.contains name with
  | none => exact ⟨0, rfl⟩
  | some name =>
      obtain ⟨counter, _, same⟩ := List.mem_map.mp (List.mem_of_find?_eq_some found)
      exact ⟨counter, same.symm⟩

theorem mem_candidate {base : String} {counter : Nat} {c : Char}
    (member : c ∈ (candidate base counter).toList) :
    c ∈ base.toList ∨ c = '-' ∨ c.isDigit = true := by
  unfold candidate at member
  split at member
  · exact .inl member
  · rw [String.toList_append, String.toList_append, List.append_assoc] at member
    rcases List.mem_append.mp member with inBase | member
    · exact .inl inBase
    · rcases List.mem_cons.mp member with dash | inDigits
      · exact .inr (.inl dash)
      · have digits : c ∈ Nat.toDigits 10 counter := by
          simpa using inDigits
        exact .inr (.inr (Nat.isDigit_of_mem_toDigits (by decide) (by decide) digits))

end Fresh

namespace Directory

variable {directory : Directory} {name : String}

/-- Nothing can be written into a directory that is gone. -/
theorem write_of_absent (absent : directory.present = false) (simple : IsSimple name)
    (content : String) : directory.write name content = .error .notFound := by
  simp [write, simple.path_eq, walk_nil, accept, at?, Location.name?, absent, bind,
    Except.bind]

/-- No step leads into a directory that is gone, or under a name that is too long. -/
theorem exists_walk_fault
    (blocked : ¬ (directory.present = true ∧ name.utf8ByteSize ≤ nameLimit)) :
    ∃ fault, directory.walk {} [name] = .error fault := by
  by_cases present : directory.present = true
  · have long : nameLimit < name.utf8ByteSize :=
      Nat.lt_of_not_le fun short => blocked ⟨present, short⟩
    exact ⟨.nameTooLong, by
      simp [walk, accept_start present, long, bind, Except.bind, throw, throwThe,
        MonadExceptOf.throw]⟩
  · exact ⟨.notFound, by
      simp [walk, accept, at?, Location.name?, present, bind, Except.bind]⟩

/-- Only what stands in the directory as a file has a content. -/
theorem entry?_of_content (simple : IsSimple name) {content : String}
    (done : directory.content name = .ok content) :
    directory.entry? name = some (.file content) := by
  by_cases reached : directory.present = true ∧ name.utf8ByteSize ≤ nameLimit
  · obtain ⟨present, short⟩ := reached
    have target := walk_name present simple short
    rw [entry?_eq present short]
    simp only [Directory.content, simple.path_eq, Directory.target, List.nil_append,
      Option.toList_some, target, simple.at?_place, bind, Except.bind] at done
    split at done
    · rename_i held found
      rw [found]
      exact congrArg (some ∘ Entry.file) (Except.ok.inj done)
    · cases done
    · cases done
  · obtain ⟨fault, blocked⟩ := exists_walk_fault reached
    simp [Directory.content, simple.path_eq, Directory.target, blocked, bind,
      Except.bind] at done

theorem entry?_of_read (simple : IsSimple name) {text : String}
    (done : directory.read name = .ok text) : (directory.entry? name).isSome = true := by
  cases held : directory.content name with
  | error fault =>
      rw [read, held] at done
      cases done
  | ok content =>
      rw [entry?_of_content simple held]
      rfl

/-- The directory with one more file. -/
def withFile (directory : Directory) (name content : String) : Directory :=
  { directory with entries := Ledger.put directory.entries name (.file content) }

end Directory

/-- Whether a fault is one by which stores say that they fail. -/
def Fault.isOfStore : Fault → Bool
  | .projectNotFound _ | .storage _ _ => true
  | _ => false

namespace Files

variable {directory : Directory} {project : Project}

/-! ## The scratch file -/

theorem isSimple_scratchName (directory : Directory) :
    Directory.IsSimple (scratchName directory) := by
  obtain ⟨counter, same⟩ := Fresh.exists_pick_eq ".tmp" (Ledger.keys directory.entries)
  have absent : ∀ c, c ∉ ".tmp".toList → c ≠ '-' → c.isDigit = false →
      c ∉ (scratchName directory).toList := by
    intro c notBase notDash notDigit member
    rw [scratchName, same] at member
    rcases Fresh.mem_candidate member with inBase | dash | digit
    · exact notBase inBase
    · exact notDash dash
    · rw [digit] at notDigit
      cases notDigit
  have letter : 't' ∈ (scratchName directory).toList := by
    rw [scratchName, same, Fresh.candidate]
    split
    · decide
    · simp
  have different : ∀ other : String, 't' ∉ other.toList → scratchName directory ≠ other := by
    rintro other free rfl
    exact free letter
  constructor
  · exact different _ (by decide)
  · have notHere := different Directory.here (by decide)
    have notBack := different Location.back (by decide)
    simp [Directory.leadsToFolder, notHere, notBack]
  · exact absent '/' (by decide) (by decide) (by decide)
  · exact absent '\x00' (by decide) (by decide) (by decide)

theorem scratchName_not_mem (directory : Directory) :
    scratchName directory ∉ Ledger.keys directory.entries :=
  Fresh.pick_not_mem _ _

/-- A document can be written under the scratch name. -/
structure CanDraft (directory : Directory) : Prop where
  present : directory.present = true
  short : (scratchName directory).utf8ByteSize ≤ Directory.nameLimit

theorem write_of_not_canDraft (unable : ¬ CanDraft directory) (content : String) :
    ∃ fault, directory.write (scratchName directory) content = .error fault := by
  have simple := isSimple_scratchName directory
  by_cases present : directory.present = true
  · have long : Directory.nameLimit < (scratchName directory).utf8ByteSize :=
      Nat.lt_of_not_le fun short => unable ⟨present, short⟩
    exact ⟨_, Directory.write_of_long present simple long content⟩
  · exact ⟨_, Directory.write_of_absent (Bool.not_eq_true _ ▸ present) simple content⟩

theorem get?_scratch (content : String) :
    Ledger.get? (directory.withFile (scratchName directory) content).entries
      (scratchName directory) = some (.file content) := by
  simp [Directory.withFile, Ledger.get?_put]

namespace CanDraft

variable (able : CanDraft directory)

include able

theorem write_scratch (content : String) :
    directory.write (scratchName directory) content =
      .ok (directory.withFile (scratchName directory) content) := by
  have absent := Ledger.get?_eq_none_iff.mpr (scratchName_not_mem directory)
  apply Directory.write_eq able.present (isSimple_scratchName directory) able.short
  simp [absent]

theorem content_scratch (content : String) :
    (directory.withFile (scratchName directory) content).content (scratchName directory) =
      .ok content := by
  have present : (directory.withFile (scratchName directory) content).present = true :=
    able.present
  exact Directory.content_eq present (isSimple_scratchName directory) able.short
    (get?_scratch content)

theorem unlink_scratch (content : String) :
    (directory.withFile (scratchName directory) content).unlink (scratchName directory) =
      .ok directory := by
  have present : (directory.withFile (scratchName directory) content).present = true :=
    able.present
  rw [Directory.unlink_eq present (isSimple_scratchName directory) able.short
    (get?_scratch content)]
  simp only [Directory.withFile,
    Ledger.erase_put_of_not_mem (scratchName_not_mem directory)]

/-- To place a document is to write it, and when this fails nothing is left behind. -/
theorem place_eq (project : Project) (name : String) :
    place directory project name =
      match directory.write name (document project) with
      | .ok written => (.ok (), written)
      | .error fault =>
        (.error (.storage ("Could not save project " ++ project.id) fault.message),
          directory) := by
  have moved : (directory.withFile (scratchName directory) (document project)).rename
      (scratchName directory) name = directory.write name (document project) := by
    rw [Directory.rename, able.content_scratch, able.unlink_scratch]
    rfl
  cases written : directory.write name (document project) with
  | ok _ => simp only [place, able.write_scratch, moved, written]
  | error _ => simp only [place, able.write_scratch, moved, written, able.unlink_scratch]

end CanDraft

theorem place_of_not_canDraft (unable : ¬ CanDraft directory) (project : Project)
    (name : String) :
    ∃ fault, place directory project name = (.error (.file fault), directory) := by
  obtain ⟨fault, refused⟩ := write_of_not_canDraft unable (document project)
  exact ⟨fault, by simp only [place, refused]⟩

/-! ## The three operations -/

/-- When this fails, it does so by a fault of stores. -/
def Contained {α : Type} (outcome : Except Fault α) : Prop :=
  ∀ fault, outcome = .error fault → fault.isOfStore = true

theorem contained_ok {α : Type} (value : α) : Contained (.ok value) := by
  intro fault failed
  cases failed

theorem contained_error_iff {α : Type} {fault : Fault} :
    Contained (.error fault : Except Fault α) ↔ fault.isOfStore = true := by
  constructor
  · intro contained
    exact contained fault rfl
  · rintro isOfStore _ ⟨⟩
    exact isOfStore

theorem contained_map_iff {α β : Type} {outcome : Except Fault α} {form : α → β} :
    Contained (outcome.map form) ↔ Contained outcome := by
  cases outcome with
  | error fault => rw [Except.map, contained_error_iff, contained_error_iff]
  | ok value => exact iff_of_true (contained_ok _) (contained_ok value)

/-- A project that names a file is to be saved, but no document of it can be made or
put anywhere. -/
structure SaveEscapes (directory : Directory) (project : Project) : Prop where
  safe : isSafeId project.id.toList = true
  unwatched : project.isWritable = false ∨ ¬ CanDraft directory

/-- A file has been found, and a time in it leads out of the calendar. -/
structure LoadEscapes (directory : Directory) (id : String) (clock : Clock) : Prop where
  safe : isSafeId id.toList = true
  beyond : ∃ text, directory.read (nameOf id) = .ok text ∧
    (ofDocument text clock).1 = .error .beyondCalendar

theorem fileName_text (id : String) :
    fileName (.text id) =
      if isSafeId id.toList = true then .ok (nameOf id)
      else .error (.projectNotFound (.text id)) := by
  by_cases safe : isSafeId id.toList = true <;>
    simp [fileName, Value.asText?, fileName?, safe, nameOf]

theorem save_of_escapes (escapes : SaveEscapes directory project) :
    ∃ fault, save directory project = (.error fault, directory) ∧
      fault.isOfStore = false := by
  have name := (fileName_text project.id).trans (if_pos escapes.safe)
  by_cases writable : project.isWritable = true
  · have unable : ¬ CanDraft directory :=
      escapes.unwatched.resolve_left (by simp [writable])
    obtain ⟨fault, placed⟩ := place_of_not_canDraft unable project (nameOf project.id)
    exact ⟨.file fault, by simp only [save, name, writable, if_true, placed], rfl⟩
  · exact ⟨.unencodable, by simp [save, name, writable], rfl⟩

theorem save_of_not_escapes (watched : ¬ SaveEscapes directory project) :
    (∃ written, save directory project = (.ok (), written)) ∨
      ∃ fault, save directory project = (.error fault, directory) ∧
        fault.isOfStore = true := by
  by_cases safe : isSafeId project.id.toList = true
  · have name := (fileName_text project.id).trans (if_pos safe)
    have writable : project.isWritable = true := by
      by_contra unwritable
      exact watched ⟨safe, .inl (Bool.not_eq_true _ ▸ unwritable)⟩
    have able : CanDraft directory := by
      by_contra unable
      exact watched ⟨safe, .inr unable⟩
    simp only [save, name, writable, if_true, able.place_eq]
    cases directory.write (nameOf project.id) (document project) with
    | ok written => exact .inl ⟨written, rfl⟩
    | error fault => exact .inr ⟨_, rfl, rfl⟩
  · have name := (fileName_text project.id).trans (if_neg safe)
    simp only [save, name]
    exact .inr ⟨_, rfl, rfl⟩

theorem contained_save_iff :
    Contained (save directory project).1 ↔ ¬ SaveEscapes directory project := by
  by_cases escapes : SaveEscapes directory project
  · obtain ⟨fault, saved, foreign⟩ := save_of_escapes escapes
    rw [saved, contained_error_iff, foreign]
    simp [escapes]
  · refine iff_of_true ?_ escapes
    rcases save_of_not_escapes escapes with ⟨written, saved⟩ | ⟨fault, saved, own⟩
    · rw [saved]
      exact contained_ok ()
    · rw [saved]
      exact contained_error_iff.mpr own

/-- A project that is not saved leaves the directory as it is. -/
theorem save_keeps {fault : Fault} (failed : (save directory project).1 = .error fault) :
    (save directory project).2 = directory := by
  by_cases escapes : SaveEscapes directory project
  · obtain ⟨_, saved, _⟩ := save_of_escapes escapes
    rw [saved]
  · rcases save_of_not_escapes escapes with ⟨written, saved⟩ | ⟨_, saved, _⟩
    · rw [saved] at failed
      cases failed
    · rw [saved]

theorem load_of_escapes {id : String} {clock : Clock}
    (escapes : LoadEscapes directory id clock) :
    (load directory (.text id) clock).1 = .error .beyondCalendar := by
  obtain ⟨safe, text, read, beyond⟩ := escapes
  have name := (fileName_text id).trans (if_pos safe)
  have found := Directory.entry?_of_read (isSimple_nameOf safe) read
  obtain ⟨entry, found⟩ := Option.isSome_iff_exists.mp found
  simp only [load, name, found, readFile, read]
  rcases outcome : ofDocument text clock with ⟨result, later⟩
  obtain rfl : result = .error .beyondCalendar := by simpa [outcome] using beyond
  rfl

theorem contained_load {id : String} {clock : Clock}
    (watched : ¬ LoadEscapes directory id clock) :
    Contained (load directory (.text id) clock).1 := by
  by_cases safe : isSafeId id.toList = true
  · have name := (fileName_text id).trans (if_pos safe)
    simp only [load, name]
    split
    · exact contained_error_iff.mpr rfl
    · unfold readFile
      split
      · exact contained_error_iff.mpr rfl
      · rename_i text read
        split
        · exact contained_ok _
        · rename_i outcome
          exact (watched ⟨safe, text, read, congrArg Prod.fst outcome⟩).elim
        · exact contained_error_iff.mpr rfl
  · have name := (fileName_text id).trans (if_neg safe)
    simp only [load, name]
    exact contained_error_iff.mpr rfl

theorem contained_load_iff {id : String} {clock : Clock} :
    Contained (load directory (.text id) clock).1 ↔ ¬ LoadEscapes directory id clock := by
  constructor
  · intro contained escapes
    have own := contained .beyondCalendar (load_of_escapes escapes)
    cases own
  · exact contained_load

/-- Deleting always fails by a fault of stores, and changes nothing then. -/
theorem delete_outcome (directory : Directory) (id : String) :
    (∃ rest, delete directory (.text id) = (.ok (), rest)) ∨
      ∃ fault, delete directory (.text id) = (.error fault, directory) ∧
        fault.isOfStore = true := by
  by_cases safe : isSafeId id.toList = true
  · have name := (fileName_text id).trans (if_pos safe)
    simp only [delete, name]
    split
    · exact .inr ⟨_, rfl, rfl⟩
    · split
      · exact .inl ⟨_, rfl⟩
      · exact .inr ⟨_, rfl, rfl⟩
  · have name := (fileName_text id).trans (if_neg safe)
    simp only [delete, name]
    exact .inr ⟨_, rfl, rfl⟩

end Files

namespace Store

/-- What is asked of a store about a single project. -/
inductive Task where
  | save (project : Project)
  | load (id : String)
  | delete (id : String)

namespace Task

/-- Ask a store. -/
def action : Task → Action Unit
  | .save project => discard (Store.save project)
  | .load id => discard (Store.load (.text id))
  | .delete id => Store.delete (.text id)

/-- What a store of files answers, and the world that it leaves. -/
def outcome (task : Task) (files : Directory) (world : World) : Except Fault Unit × World :=
  task.action.perform { world with store := .directory files }

/-- A fault that is none of the store's own escapes from the task. -/
def Escapes (files : Directory) (clock : Clock) : Task → Prop
  | .save project => Files.SaveEscapes files project
  | .load id => Files.LoadEscapes files id clock
  | .delete _ => False

/-- The task changes nothing when it fails. -/
def LeavesNoTrace (task : Task) (files : Directory) (world : World) : Prop :=
  ∀ fault, (task.outcome files world).1 = .error fault →
    (task.outcome files world).2.store = .directory files

variable (files : Directory) (world : World)

theorem outcome_save (project : Project) :
    (save project).outcome files world =
      ((Files.save files project).1,
        { world with store := .directory (Files.save files project).2 }) := by
  simp only [outcome, action, Action.perform_discard, Store.save, Action.perform_bind,
    Action.perform_get, Action.perform_set, Action.perform_ofResult]
  cases (Files.save files project).1 <;> rfl

theorem outcome_load (id : String) :
    (load id).outcome files world =
      ((Files.load files (.text id) world.clock).1.map fun _ => (),
        { world with
          store := .directory files
          clock := (Files.load files (.text id) world.clock).2 }) := by
  simp only [outcome, action, Action.perform_discard, Store.load, Action.perform_bind,
    Action.perform_get, Action.perform_set, Action.perform_ofResult]

theorem outcome_delete (id : String) :
    (delete id).outcome files world =
      ((Files.delete files (.text id)).1,
        { world with store := .directory (Files.delete files (.text id)).2 }) := by
  simp only [outcome, action, Store.delete, Action.perform_bind, Action.perform_get,
    Action.perform_set, Action.perform_ofResult]

theorem leavesNoTrace (task : Task) : task.LeavesNoTrace files world := by
  intro fault failed
  cases task with
  | save project =>
      rw [outcome_save] at failed ⊢
      exact congrArg Store.directory (Files.save_keeps failed)
  | load id => rw [outcome_load]
  | delete id =>
      rw [outcome_delete] at failed ⊢
      rcases Files.delete_outcome files id with ⟨rest, deleted⟩ | ⟨_, deleted, _⟩
      · rw [deleted] at failed
        cases failed
      · rw [deleted]

theorem contained_iff (task : Task) :
    Files.Contained (task.outcome files world).1 ↔ ¬ task.Escapes files world.clock := by
  cases task with
  | save project =>
      rw [outcome_save]
      exact Files.contained_save_iff
  | load id =>
      rw [outcome_load]
      exact Files.contained_map_iff.trans Files.contained_load_iff
  | delete id =>
      rw [outcome_delete]
      refine iff_of_true ?_ not_false
      rcases Files.delete_outcome files id with ⟨rest, deleted⟩ | ⟨_, deleted, own⟩
      · rw [deleted]
        exact Files.contained_ok ()
      · rw [deleted]
        exact Files.contained_error_iff.mpr own

/-- In a directory all of whose files hold texts, what fails leaves the directory as it is,
without a scratch file, and it fails by a fault of stores exactly when none of the unwatched
steps of saving and loading does. -/
theorem leavesNoTrace_and_contained_iff (task : Task) (files : Directory) (world : World) :
    task.LeavesNoTrace files world ∧
      (Files.Contained (task.outcome files world).1 ↔
        ¬ task.Escapes files world.clock) := by
  constructor
  · exact leavesNoTrace files world task
  · exact contained_iff files world task

/-- A directory that has been removed. -/
def removed : Directory :=
  { present := false }

/-- In an empty directory that has been removed a project cannot be saved, and the
refusal of the file system comes out as it is. -/
theorem save_removed_not_contained :
    Directory.drop {} = .ok removed ∧
      ((save (Files.sample "a-1")).outcome removed Keeping.sampleWorld).1 =
        .error (.file .notFound) ∧
      ¬ Files.Contained
        ((save (Files.sample "a-1")).outcome removed Keeping.sampleWorld).1 := by
  have refused : ((save (Files.sample "a-1")).outcome removed Keeping.sampleWorld).1 =
      .error (.file .notFound) := by
    have name := (Files.fileName_text (Files.sample "a-1").id).trans (if_pos (by decide))
    have writable : (Files.sample "a-1").isWritable = true := rfl
    have absent : removed.present = false := rfl
    have unwritten := Directory.write_of_absent absent (Files.isSimple_scratchName removed)
      (Files.document (Files.sample "a-1"))
    simp only [outcome_save, Files.save, name, writable, if_true, Files.place, unwritten]
  refine ⟨rfl, refused, ?_⟩
  intro contained
  cases contained _ refused

end Task

end Store

end StageGraph
