import StageGraph.Proofs.Store.Keeping

/-!
# Lists of a directory

A list of the projects in a directory reads one file after the other and passes over those
that hold no project.  It holds the projects of the others, each once, the last changed
first and equals by the names of their files.  One sort of file is not passed over: when a
time in it leads out of the calendar, there is no list at all.
-/

namespace StageGraph

namespace Clock

variable {clock later latest : Clock}

/-- The clock shows a moment whenever it is read. -/
def IsEndless (clock : Clock) : Prop :=
  ∀ reading, (clock.course reading).isSome = true

structure Follows (later clock : Clock) : Prop where
  course : later.course = clock.course
  readings : clock.readings ≤ later.readings

theorem Follows.refl (clock : Clock) : clock.Follows clock :=
  ⟨rfl, Nat.le_refl _⟩

theorem Follows.trans (last : latest.Follows later) (first : later.Follows clock) :
    latest.Follows clock :=
  ⟨last.course.trans first.course, first.readings.trans last.readings⟩

theorem Follows.isEndless (follows : later.Follows clock) (endless : clock.IsEndless) :
    later.IsEndless := by
  intro reading
  rw [follows.course]
  exact endless reading

end Clock

namespace Project

variable {origin : Origin} {entries : Config} {name : String} {clock other : Clock}

/-- A member of a record gives a time that leads out of the calendar. -/
def IsBeyond (entries : Config) (name : String) : Prop :=
  ∃ value time, Ledger.get? entries name = some value ∧ WrittenTime.read value = .ok time ∧
    time.moment? = none

theorem readMoment_follows (entries : Config) (name : String) (clock : Clock) :
    (readMoment entries name clock).2.Follows clock := by
  unfold readMoment
  split
  · exact .refl clock
  · exact ⟨rfl, Nat.le_succ _⟩

theorem readMoment_of_absent (absent : Ledger.get? entries name = none) (clock : Clock) :
    (readMoment entries name clock).1 = .ok (clock.course clock.readings) := by
  rw [readMoment, absent]
  rfl

theorem readMoment_beyond_iff (endless : clock.IsEndless) :
    (readMoment entries name clock).1 = .ok none ↔ IsBeyond entries name := by
  cases found : Ledger.get? entries name with
  | none =>
      obtain ⟨moment, shown⟩ := Option.isSome_iff_exists.mp (endless clock.readings)
      rw [readMoment_of_absent found, shown, IsBeyond, found]
      simp
  | some value =>
      rw [readMoment_of_get? found, Checked.under_eq_ok_iff, IsBeyond, found]
      constructor
      · intro beyond
        obtain ⟨time, read, outside⟩ := Checked.map_eq_ok beyond
        exact ⟨value, time, rfl, read, outside⟩
      · rintro ⟨_, time, ⟨⟩, read, outside⟩
        rw [read, Except.map, outside]

theorem readMoment_again {moment : Moment}
    (done : (readMoment entries name clock).1 = .ok (some moment)) (endless : other.IsEndless) :
    ∃ again, (readMoment entries name other).1 = .ok (some again) := by
  cases found : Ledger.get? entries name with
  | none =>
      obtain ⟨again, shown⟩ := Option.isSome_iff_exists.mp (endless other.readings)
      exact ⟨again, (readMoment_of_absent found other).trans (congrArg Except.ok shown)⟩
  | some value =>
      rw [readMoment_of_get? found] at done
      exact ⟨moment, by rw [readMoment_of_get? found, done]⟩

theorem compose_eq_beyond_iff {content : Checked Content}
    {created updated : Checked (Option Moment)} :
    compose content created updated = .error .beyondCalendar ↔
      created = .ok none ∨ updated = .ok none := by
  rcases created with issues | (_ | createdAt) <;> rcases updated with more | (_ | updatedAt) <;>
    rcases content with most | content <;> simp [compose, Checked.both]

theorem exists_read_outcome (origin : Origin) (entries : Config) (clock : Clock) :
    ∃ between later, between.Follows clock ∧ later.Follows clock ∧
      (read origin (.record entries) clock).1 =
        compose (readContent origin entries) (readMoment entries "created_at" clock).1
          (readMoment entries "updated_at" between).1 ∧
      (read origin (.record entries) clock).2 = later := by
  have first := readMoment_follows entries "created_at" clock
  have second := readMoment_follows entries "updated_at" (readMoment entries "created_at" clock).2
  obtain ⟨outcome, kept⟩ := read_outcome origin rfl rfl
  rcases kept with kept | kept
  · exact ⟨_, _, first, first, outcome, kept⟩
  · exact ⟨_, _, first, second.trans first, outcome, kept⟩

theorem read_beyond_iff (endless : clock.IsEndless) :
    (read origin (.record entries) clock).1 = .error .beyondCalendar ↔
      IsBeyond entries "created_at" ∨ IsBeyond entries "updated_at" := by
  obtain ⟨between, _, follows, _, outcome, _⟩ := exists_read_outcome origin entries clock
  rw [outcome, compose_eq_beyond_iff, readMoment_beyond_iff endless,
    readMoment_beyond_iff (follows.isEndless endless)]

/-- A record that is read to a project at one time is read at any other to one of the same
user. -/
theorem read_again {project : Project}
    (done : (read origin (.record entries) clock).1 = .ok project) (endless : other.IsEndless) :
    ∃ again, (read origin (.record entries) other).1 = .ok again ∧
      again.userId = project.userId := by
  obtain ⟨_, _, _, _, outcome, _⟩ := exists_read_outcome origin entries clock
  obtain ⟨between, _, follows, _, newOutcome, _⟩ := exists_read_outcome origin entries other
  rw [outcome] at done
  obtain ⟨content, created, updated⟩ := of_compose_eq_ok done
  obtain ⟨createdAgain, createdRead⟩ := readMoment_again created endless
  obtain ⟨updatedAgain, updatedRead⟩ := readMoment_again updated (follows.isEndless endless)
  rw [newOutcome, content, createdRead, updatedRead]
  exact ⟨_, rfl, rfl⟩

end Project

namespace Files

variable {text name : String} {directory : Directory} {clock other start : Clock}

/-- The text is a document that gives a time beyond the calendar. -/
def LeavesCalendar (text : String) : Prop :=
  ∃ entries, Json.read text .stored = .ok (.record entries) ∧
    (Project.IsBeyond entries "created_at" ∨ Project.IsBeyond entries "updated_at")

theorem ofDocument_cases (text : String) :
    (∃ entries, Json.read text .stored = .ok (.record entries) ∧
      ∀ clock, ofDocument text clock = Project.read .given (.record entries) clock) ∨
    (∃ issues, (∀ entries, Json.read text .stored ≠ .ok (.record entries)) ∧
      ∀ clock, ofDocument text clock = (.error (.invalid issues), clock)) := by
  cases done : Json.read text .stored with
  | error fault => exact .inr ⟨_, by simp, fun clock => by rw [ofDocument, done]⟩
  | ok value =>
      cases value with
      | record entries => exact .inl ⟨entries, rfl, fun clock => by rw [ofDocument, done]⟩
      | _ => exact .inr ⟨_, by simp, fun clock => by rw [ofDocument, done]; rfl⟩

theorem ofDocument_follows (text : String) (clock : Clock) :
    (ofDocument text clock).2.Follows clock := by
  rcases ofDocument_cases text with ⟨entries, _, same⟩ | ⟨issues, _, same⟩
  · obtain ⟨_, later, _, follows, _, kept⟩ := Project.exists_read_outcome .given entries clock
    rw [same, kept]
    exact follows
  · rw [same]
    exact .refl clock

theorem ofDocument_beyond_iff (endless : clock.IsEndless) :
    (ofDocument text clock).1 = .error .beyondCalendar ↔ LeavesCalendar text := by
  rcases ofDocument_cases text with ⟨entries, record, same⟩ | ⟨issues, noRecord, same⟩
  · rw [same, Project.read_beyond_iff endless, LeavesCalendar, record]
    simp
  · rw [same]
    constructor
    · intro beyond
      cases beyond
    · rintro ⟨entries, record, _⟩
      exact (noRecord entries record).elim

theorem ofDocument_again {project : Project}
    (done : (ofDocument text clock).1 = .ok project) (endless : other.IsEndless) :
    ∃ again, (ofDocument text other).1 = .ok again ∧ again.userId = project.userId := by
  rcases ofDocument_cases text with ⟨entries, _, same⟩ | ⟨issues, _, same⟩
  · rw [same] at done
    rw [same]
    exact Project.read_again done endless
  · rw [same] at done
    cases done

/-! ## From file to file -/

/-- The file is read to the project, by the clock or after more readings of it. -/
def IsReadAs (directory : Directory) (clock : Clock) (name : String) (project : Project) : Prop :=
  ∃ text start, directory.read name = .ok text ∧ start.Follows clock ∧
    (ofDocument text start).1 = .ok project

/-- The file can be read, and a time in it leads out of the calendar. -/
def IsSpoilt (directory : Directory) (name : String) : Prop :=
  ∃ text, directory.read name = .ok text ∧ LeavesCalendar text

theorem IsReadAs.userId_eq {first second : Project} (one : IsReadAs directory clock name first)
    (two : IsReadAs directory clock name second) (endless : clock.IsEndless) :
    second.userId = first.userId := by
  obtain ⟨text, start, read, follows, done⟩ := one
  obtain ⟨other, later, readAgain, laterFollows, doneAgain⟩ := two
  obtain rfl := Except.ok.inj (read.symm.trans readAgain)
  obtain ⟨again, found, same⟩ := ofDocument_again done (laterFollows.isEndless endless)
  obtain rfl := Except.ok.inj (doneAgain.symm.trans found)
  exact same

theorem isReadAs_of_document {project : Project} (present : directory.present = true)
    (simple : Directory.IsSimple name) (short : name.utf8ByteSize ≤ Directory.nameLimit)
    (held : Ledger.get? directory.entries name = some (.file (document project)))
    (restored : reread project = .ok project) (clock : Clock) :
    IsReadAs directory clock name project := by
  have read := read_document present simple short held
  refine ⟨_, clock, read, .refl clock, ?_⟩
  rw [← document, ofDocument_eq_echo, echo_of_reread restored]

theorem IsReadAs.not_isSpoilt {project : Project} (found : IsReadAs directory clock name project)
    (endless : clock.IsEndless) : ¬ IsSpoilt directory name := by
  obtain ⟨text, start, read, follows, done⟩ := found
  rintro ⟨other, readAgain, leaves⟩
  obtain rfl := Except.ok.inj (read.symm.trans readAgain)
  have beyond := (ofDocument_beyond_iff (follows.isEndless endless)).mpr leaves
  cases done.symm.trans beyond

theorem not_isReadAs_of_error (clock : Clock) {text : String} {fault : ProjectFault}
    (read : directory.read name = .ok text) (failed : (ofDocument text start).1 = .error fault)
    (endless : start.IsEndless) (project : Project) : ¬ IsReadAs directory clock name project := by
  rintro ⟨other, _, readAgain, _, done⟩
  obtain rfl := Except.ok.inj (read.symm.trans readAgain)
  -- Whether a document is taken does not depend on the time.
  obtain ⟨again, found, _⟩ := ofDocument_again done endless
  rw [failed] at found
  cases found

/-- What is met in a file: a project, nothing to be taken, or a time beyond the calendar. -/
theorem readFile_cases (directory : Directory) (name : String) (endless : clock.IsEndless)
    (follows : start.Follows clock) :
    ∃ later, later.Follows clock ∧
      ((∃ project, readFile directory name start = (.ok project, later) ∧
          IsReadAs directory clock name project ∧ ¬ IsSpoilt directory name) ∨
        (∃ message cause,
          readFile directory name start = (.error (.storage message cause), later) ∧
          (∀ project, ¬ IsReadAs directory clock name project) ∧ ¬ IsSpoilt directory name) ∨
        readFile directory name start = (.error .beyondCalendar, later) ∧
          IsSpoilt directory name) := by
  have running := follows.isEndless endless
  cases read : directory.read name with
  | error fault =>
      refine ⟨start, follows, .inr (.inl ⟨_, _, by rw [readFile, read]; rfl, ?_, ?_⟩)⟩
      · rintro project ⟨text, _, found, _⟩
        cases read.symm.trans found
      · rintro ⟨text, found, _⟩
        cases read.symm.trans found
  | ok text =>
      have spoilt_iff : IsSpoilt directory name ↔
          (ofDocument text start).1 = .error .beyondCalendar := by
        rw [ofDocument_beyond_iff running, IsSpoilt, read]
        simp
      have moved := (ofDocument_follows text start).trans follows
      rcases outcome : ofDocument text start with ⟨result, later⟩
      simp only [spoilt_iff, readFile, read, outcome]
      rw [outcome] at moved
      refine ⟨later, moved, ?_⟩
      rcases result with fault | project
      · have absent := not_isReadAs_of_error clock read (congrArg Prod.fst outcome)
          running
        cases fault with
        | beyondCalendar => exact .inr (.inr ⟨rfl, rfl⟩)
        | invalid issues =>
            refine .inr (.inl ⟨_, _, rfl, absent, ?_⟩)
            intro beyond
            cases beyond
      · have found : IsReadAs directory clock name project :=
          ⟨text, start, read, follows, congrArg Prod.fst outcome⟩
        refine .inl ⟨project, rfl, found, ?_⟩
        intro beyond
        cases beyond

/-- The projects of some files, each under the name of its file. -/
inductive Gathers (directory : Directory) (clock : Clock) :
    List String → Ledger Project → Prop where
  | nil : Gathers directory clock [] []
  | taken {name : String} {project : Project} {names : List String} {shelf : Ledger Project}
      (found : IsReadAs directory clock name project) (rest : Gathers directory clock names shelf) :
      Gathers directory clock (name :: names) ((name, project) :: shelf)
  | passed {name : String} {names : List String} {shelf : Ledger Project}
      (absent : ∀ project, ¬ IsReadAs directory clock name project)
      (rest : Gathers directory clock names shelf) : Gathers directory clock (name :: names) shelf

namespace Gathers

variable {names : List String} {shelf : Ledger Project}
  (gathers : Gathers directory clock names shelf)

include gathers

theorem keys_sublist : (Ledger.keys shelf).Sublist names := by
  induction gathers with
  | nil => exact .slnil
  | taken _ _ induction => exact induction.cons_cons _
  | passed _ _ induction => exact induction.cons _

theorem isReadAs {name : String} {project : Project} (member : (name, project) ∈ shelf) :
    IsReadAs directory clock name project := by
  induction gathers with
  | nil => cases member
  | taken found _ induction =>
      rcases List.mem_cons.mp member with same | later
      · obtain ⟨rfl, rfl⟩ := Prod.mk.inj same
        exact found
      · exact induction later
  | passed _ _ induction => exact induction member

theorem exists_mem {name : String} {project : Project} (member : name ∈ names)
    (found : IsReadAs directory clock name project) : ∃ taken, (name, taken) ∈ shelf := by
  induction gathers with
  | nil => cases member
  | @taken _ first _ _ _ _ induction =>
      rcases List.mem_cons.mp member with rfl | later
      · exact ⟨first, List.mem_cons_self⟩
      · obtain ⟨taken, among⟩ := induction later
        exact ⟨taken, List.mem_cons_of_mem _ among⟩
  | passed absent _ induction =>
      rcases List.mem_cons.mp member with rfl | later
      · exact (absent project found).elim
      · exact induction later

end Gathers

theorem readAll_cons_of_ok {project : Project} {later : Clock}
    (read : readFile directory name start = (.ok project, later)) (names : List String) :
    (readAll directory (name :: names) start).1 =
      (readAll directory names later).1.map (project :: ·) := by
  simp only [readAll, read]
  rcases readAll directory names later with ⟨result, final⟩
  cases result <;> rfl

theorem readAll_cons_of_storage {message cause : String} {later : Clock}
    (read : readFile directory name start = (.error (.storage message cause), later))
    (names : List String) :
    readAll directory (name :: names) start = readAll directory names later := by
  simp only [readAll, read]

theorem readAll_of_clean {names : List String} (endless : clock.IsEndless)
    (follows : start.Follows clock) (clean : ∀ name ∈ names, ¬ IsSpoilt directory name) :
    ∃ shelf, (readAll directory names start).1 = .ok (Ledger.values shelf) ∧
      Gathers directory clock names shelf := by
  induction names generalizing start with
  | nil => exact ⟨[], rfl, .nil⟩
  | cons name names induction =>
      obtain ⟨sound, rest⟩ := List.forall_mem_cons.mp clean
      obtain ⟨later, laterFollows, ⟨project, read, found, _⟩ |
        ⟨message, cause, read, absent, _⟩ | ⟨_, spoilt⟩⟩ :=
        readFile_cases directory name endless follows
      · obtain ⟨shelf, done, gathers⟩ := induction laterFollows rest
        refine ⟨(name, project) :: shelf, ?_, .taken found gathers⟩
        rw [readAll_cons_of_ok read, done]
        rfl
      · obtain ⟨shelf, done, gathers⟩ := induction laterFollows rest
        exact ⟨shelf, by rw [readAll_cons_of_storage read, done], .passed absent gathers⟩
      · exact (sound spoilt).elim

/-- One file that is spoilt spoils them all. -/
theorem readAll_of_spoilt {names : List String} (endless : clock.IsEndless)
    (follows : start.Follows clock) (spoils : ∃ name ∈ names, IsSpoilt directory name) :
    (readAll directory names start).1 = .error .beyondCalendar := by
  induction names generalizing start with
  | nil =>
      obtain ⟨_, member, _⟩ := spoils
      cases member
  | cons name names induction =>
      have onward (sound : ¬ IsSpoilt directory name) :
          ∃ name ∈ names, IsSpoilt directory name := by
        obtain ⟨other, member, spoilt⟩ := spoils
        rcases List.mem_cons.mp member with rfl | later
        · exact (sound spoilt).elim
        · exact ⟨other, later, spoilt⟩
      obtain ⟨later, laterFollows, ⟨project, read, _, sound⟩ |
        ⟨message, cause, read, _, sound⟩ | ⟨read, _⟩⟩ :=
        readFile_cases directory name endless follows
      · rw [readAll_cons_of_ok read, induction laterFollows (onward sound)]
        rfl
      · rw [readAll_cons_of_storage read, induction laterFollows (onward sound)]
      · simp only [readAll, read]

theorem pairwise_names (single : (Ledger.keys directory.entries).Nodup) :
    directory.names.Pairwise (· < ·) := by
  unfold Directory.names
  split
  · have once := single.filter fun name => !name.toList.contains '/'
    have same := List.mergeSort_perm ((Ledger.keys directory.entries).filter fun name =>
      !name.toList.contains '/') fun left right => decide (left ≤ right)
    have sorted := List.pairwise_mergeSort' (· ≤ ·)
      ((Ledger.keys directory.entries).filter fun name => !name.toList.contains '/')
    exact (sorted.and (same.nodup_iff.mpr once)).imp
      fun ordered => lt_of_le_of_ne ordered.1 ordered.2
  · exact .nil

def candidates (directory : Directory) : List String :=
  directory.names.filter holdsProject

end Files

namespace Store

variable {directory : Directory} {clock : Clock} {user : Option String} {shelf : Ledger Project}

/-- The projects of a user in a directory, or all of them, under the names of their files. -/
structure IsListing (directory : Directory) (clock : Clock) (user : Option String)
    (shelf : Ledger Project) : Prop where
  mem_iff : ∀ name, name ∈ Ledger.keys shelf ↔
    name ∈ Files.candidates directory ∧
      ∃ project, Files.IsReadAs directory clock name project ∧
        ∀ owner ∈ user, project.userId = owner
  isReadAs : ∀ name project, (name, project) ∈ shelf →
    Files.IsReadAs directory clock name project ∧ ∀ owner ∈ user, project.userId = owner
  once : (Ledger.keys shelf).Nodup
  ordered : shelf.Pairwise fun first second =>
    second.2.updatedAt.micros < first.2.updatedAt.micros ∨
      (second.2.updatedAt.micros = first.2.updatedAt.micros ∧ first.1 < second.1)

def askedBy (user : Option String) : Value :=
  (user.map Value.text).getD .null

/-- The entries for a user, the last changed first. -/
def sortedFor (user : Option String) (shelf : Ledger Project) : Ledger Project :=
  (shelf.filter fun entry => Keeping.isFor (askedBy user) entry.2).mergeSort
    (Keeping.comesFirst fun entry => entry.2.updatedAt.micros)

theorem newestFirst_values (user : Option String) (shelf : Ledger Project) :
    newestFirst (Ledger.values shelf) (askedBy user) = Ledger.values (sortedFor user shelf) := by
  have owned : (Ledger.values shelf).filter (Keeping.isFor (askedBy user)) =
      Ledger.values (shelf.filter fun entry => Keeping.isFor (askedBy user) entry.2) :=
    List.filter_map
  have sorted := List.map_mergeSort (f := Prod.snd)
    (l := shelf.filter fun entry => Keeping.isFor (askedBy user) entry.2)
    (r := Keeping.comesFirst fun entry => entry.2.updatedAt.micros)
    (s := Keeping.comesFirst fun project => project.updatedAt.micros) fun _ _ _ _ => rfl
  have shape : newestFirst (Ledger.values shelf) (askedBy user) =
      ((Ledger.values shelf).filter (Keeping.isFor (askedBy user))).mergeSort
        (Keeping.comesFirst fun project => project.updatedAt.micros) := rfl
  rw [shape, owned]
  exact sorted.symm

theorem mem_sortedFor_iff {entry : String × Project} :
    entry ∈ sortedFor user shelf ↔
      entry ∈ shelf ∧ ∀ owner ∈ user, entry.2.userId = owner := by
  rw [sortedFor, List.mem_mergeSort, List.mem_filter, askedBy, Keeping.isFor_user_iff]

theorem isListing_sortedFor (endless : clock.IsEndless)
    (single : (Ledger.keys directory.entries).Nodup)
    (gathers : Files.Gathers directory clock (Files.candidates directory) shelf) :
    IsListing directory clock user (sortedFor user shelf) := by
  -- The scan goes by name, and a stable sort leaves equals in its order.
  have names : (Ledger.keys shelf).Pairwise (· < ·) :=
    ((Files.pairwise_names single).filter _).sublist gathers.keys_sublist
  have named : (shelf.filter fun entry => Keeping.isFor (askedBy user) entry.2).Pairwise
      fun first second => first.1 < second.1 :=
    (List.pairwise_map.mp names).sublist List.filter_sublist
  have ordered := Keeping.pairwise_mergeSort_of_pairwise
    (fun entry => entry.2.updatedAt.micros) _ named
  constructor
  · intro name
    constructor
    · intro member
      obtain ⟨⟨_, project⟩, among, rfl⟩ := List.mem_map.mp member
      obtain ⟨inShelf, owned⟩ := mem_sortedFor_iff.mp among
      have listed := gathers.keys_sublist.subset (List.mem_map_of_mem inShelf)
      exact ⟨listed, project, gathers.isReadAs inShelf, owned⟩
    · rintro ⟨listed, project, found, owned⟩
      obtain ⟨taken, inShelf⟩ := gathers.exists_mem listed found
      have same := found.userId_eq (gathers.isReadAs inShelf) endless
      have among : (name, taken) ∈ sortedFor user shelf :=
        mem_sortedFor_iff.mpr ⟨inShelf, fun owner given => same.trans (owned owner given)⟩
      exact List.mem_map_of_mem among
  · intro name project member
    obtain ⟨inShelf, owned⟩ := mem_sortedFor_iff.mp member
    exact ⟨gathers.isReadAs inShelf, owned⟩
  · have part := (List.mergeSort_perm (shelf.filter fun entry =>
      Keeping.isFor (askedBy user) entry.2)
      (Keeping.comesFirst fun entry => entry.2.updatedAt.micros)).map Prod.fst
    have once : (Ledger.keys shelf).Nodup := names.imp ne_of_lt
    exact part.nodup_iff.mpr (once.sublist (List.filter_sublist.map _))
  · exact ordered

/-- Some file that may hold a project is spoilt. -/
def IsSpoilt (directory : Directory) : Prop :=
  ∃ name ∈ Files.candidates directory, Files.IsSpoilt directory name

theorem perform_list_directory (files : Directory) (world : World) (user : Value) :
    ((Store.list user).perform { world with store := .directory files }).1 =
      (Files.all files world.clock).1.map fun listed => newestFirst listed user := by
  simp only [Store.list, Action.perform_bind, Action.perform_get, Action.perform_set,
    Action.perform_ofResult]
  cases (Files.all files world.clock).1 <;> rfl

/-- What the store in the directory answers when it is asked for a list. -/
def listOutcome (directory : Directory) (world : World) (user : Option String) :
    Except Fault (List Project) :=
  ((Store.list (askedBy user)).perform { world with store := .directory directory }).1

section

variable {world : World} (endless : world.clock.IsEndless)

include endless

theorem listOutcome_of_spoilt (spoilt : IsSpoilt directory) (user : Option String) :
    listOutcome directory world user = .error .beyondCalendar := by
  rw [listOutcome, perform_list_directory, Files.all, ← Files.candidates,
    Files.readAll_of_spoilt endless (.refl _) spoilt]
  rfl

theorem exists_isListing (single : (Ledger.keys directory.entries).Nodup)
    (sound : ¬ IsSpoilt directory) (user : Option String) :
    ∃ shelf, listOutcome directory world user = .ok (Ledger.values shelf) ∧
      IsListing directory world.clock user shelf := by
  obtain ⟨shelf, done, gathers⟩ := Files.readAll_of_clean endless (.refl world.clock)
    fun name member spoilt => sound ⟨name, member, spoilt⟩
  refine ⟨sortedFor user shelf, ?_, isListing_sortedFor endless single gathers⟩
  rw [listOutcome, perform_list_directory, Files.all, ← Files.candidates, done,
    ← newestFirst_values]
  rfl

/-- The projects in a directory, all of whose files hold texts, are listed unless a file is
spoilt, and if one is, none are. -/
theorem list_isListing_iff (single : (Ledger.keys directory.entries).Nodup)
    (user : Option String) :
    ((∃ shelf, listOutcome directory world user = .ok (Ledger.values shelf) ∧
        IsListing directory world.clock user shelf) ↔ ¬ IsSpoilt directory) ∧
      (IsSpoilt directory → listOutcome directory world user = .error .beyondCalendar) := by
  refine ⟨⟨?_, fun sound => exists_isListing endless single sound user⟩,
    fun spoilt => listOutcome_of_spoilt endless spoilt user⟩
  rintro ⟨shelf, done, _⟩ spoilt
  cases done.symm.trans (listOutcome_of_spoilt endless spoilt user)

end

/-- A world with a clock that stands still. -/
def stillWorld : World :=
  { store := .directory {}, clock := Clock.steady 63882000000000000 0 }

theorem isEndless_stillWorld : stillWorld.clock.IsEndless := by
  intro reading
  simp [stillWorld, Clock.steady, Moment.ofMicros?]
  decide

/-- The file of a project, and another file. -/
def goodBeside (name text : String) : Directory :=
  { entries := [("good.json", .file (Files.document (Files.sample "good"))), (name, .file text)] }

theorem mem_candidates_goodBeside {name text candidate : String}
    (member : candidate ∈ Files.candidates (goodBeside name text)) :
    candidate = "good.json" ∨ candidate = name := by
  have listed := (List.mem_filter.mp member).1
  rw [Directory.names, goodBeside, if_pos rfl, List.mem_mergeSort] at listed
  simpa [goodBeside, Ledger.keys] using (List.mem_filter.mp listed).1

theorem good_isReadAs (name text : String) (clock : Clock) :
    Files.IsReadAs (goodBeside name text) clock "good.json" (Files.sample "good") :=
  Files.isReadAs_of_document rfl (by constructor <;> decide) (by decide) rfl
    (Files.reread_sample "good") clock

theorem not_isSpoilt_of_list {files : Directory} (present : files.present = true)
    (held : Ledger.get? files.entries "notes.json" = some (.file "[]")) :
    ¬ Files.IsSpoilt files "notes.json" := by
  have simple : Directory.IsSimple "notes.json" := by constructor <;> decide
  have content := Directory.read_eq present simple (by decide) held
  have list : Json.read "[]" .stored = .ok (.list []) := by cbv
  rintro ⟨text, read, entries, record, _⟩
  obtain rfl : "[]" = text := Except.ok.inj (content.symm.trans read)
  cases list.symm.trans record

theorem goodBesideNotes_listed :
    stillWorld.clock.IsEndless ∧
      (Ledger.keys (goodBeside "notes.json" "[]").entries).Nodup ∧
      ∃ shelf, listOutcome (goodBeside "notes.json" "[]") stillWorld (some "u") =
          .ok (Ledger.values shelf) ∧
        IsListing (goodBeside "notes.json" "[]") stillWorld.clock (some "u") shelf := by
  have single : (Ledger.keys (goodBeside "notes.json" "[]").entries).Nodup := by decide
  have sound : ¬ IsSpoilt (goodBeside "notes.json" "[]") := by
    rintro ⟨name, member, spoilt⟩
    rcases mem_candidates_goodBeside member with rfl | rfl
    · exact (good_isReadAs _ _ stillWorld.clock).not_isSpoilt isEndless_stillWorld spoilt
    · exact not_isSpoilt_of_list rfl rfl spoilt
  exact ⟨isEndless_stillWorld, single,
    (list_isListing_iff isEndless_stillWorld single (some "u")).1.mpr sound⟩

/-- A project that was made before the calendar begins. -/
def early : Value :=
  .record [("id", "early"), ("name", "Flow"), ("user_id", "u"),
    ("created_at", "0001-01-01T00:00:00+00:01"), ("updated_at", "2024-05-01T10:00:00Z")]

theorem leavesCalendar_early : Files.LeavesCalendar (Json.document early) := by
  have kept : Json.IsKept early := by
    apply Json.isKept_of_plain
    simp [Json.Plain, Json.PlainEntries, early, Ledger.keys, Json.Tolerance.stored]
  refine ⟨_, kept, .inl ⟨_, ⟨⟨1, 1, 1, 0, 0, 0, 0⟩, some 60000000⟩, rfl, ?_, ?_⟩⟩
  · cbv
  · decide

/-- A project that could be listed is not, beside one that was made before the calendar. -/
theorem goodBesideEarly_not_listed :
    Files.IsReadAs (goodBeside "early.json" (Json.document early)) stillWorld.clock "good.json"
        (Files.sample "good") ∧
      listOutcome (goodBeside "early.json" (Json.document early)) stillWorld none =
        .error .beyondCalendar ∧
      ¬ ∃ shelf, listOutcome (goodBeside "early.json" (Json.document early)) stillWorld none =
          .ok (Ledger.values shelf) ∧
        IsListing (goodBeside "early.json" (Json.document early)) stillWorld.clock none shelf := by
  have simple : Directory.IsSimple "early.json" := by constructor <;> decide
  have listed : "early.json" ∈
      Files.candidates (goodBeside "early.json" (Json.document early)) := by
    have named : Files.holdsProject "early.json" = true := by decide
    simp [Files.candidates, Directory.names, goodBeside, Ledger.keys, named]
  have read := Files.read_document rfl simple (by decide)
    (rfl : Ledger.get? (goodBeside "early.json" (Json.document early)).entries "early.json" = _)
  have spoilt : IsSpoilt (goodBeside "early.json" (Json.document early)) :=
    ⟨_, listed, _, read, leavesCalendar_early⟩
  have fails := listOutcome_of_spoilt isEndless_stillWorld spoilt none
  refine ⟨good_isReadAs _ _ _, fails, ?_⟩
  rintro ⟨shelf, done, _⟩
  cases done.symm.trans fails

end Store

end StageGraph
