import StageGraph.Proofs.Fresh
import StageGraph.Proofs.Store.Directory
import StageGraph.Proofs.Store.Recall

/-!
# Projects filed in a directory

A directory that only projects are saved in holds the document of each of them under
its id with the ending, and nothing else.  Saving, deleting and looking up in such a
directory are the operations on the ledger of the projects in it, and whatever is
refused leaves the directory as it is.
-/

namespace StageGraph.Files

/-- The name of the file of an id that names one. -/
def nameOf (id : String) : String :=
  id ++ ending

/-- The directory that holds the documents of some projects and nothing else. -/
def filed (projects : Ledger Project) : Directory :=
  { entries := Ledger.relabel nameOf (fun project => .file (document project)) projects }

/-- A project that can be kept in a directory. -/
structure Admits (project : Project) : Prop where
  safe : isSafeId project.id.toList = true
  short : (nameOf project.id).utf8ByteSize ≤ Directory.nameLimit
  writable : project.isWritable = true

/-- The project that the file of a project gives back. -/
def reread (project : Project) : Except Fault Project :=
  match echo project with
  | .ok read => .ok read
  | .error .beyondCalendar => .error .beyondCalendar
  | .error (.invalid _) => .error (unreadable (nameOf project.id) "not a project")

theorem echo_of_reread {project read : Project} (done : reread project = .ok read) :
    echo project = .ok read := by
  unfold reread at done
  split at done
  · rename_i found
    exact found.trans (congrArg Except.ok (Except.ok.inj done))
  · cases done
  · cases done

theorem recalls_of_reread {project read : Project} (done : reread project = .ok read) :
    project.Recalls read :=
  recalls_of_echo (echo_of_reread done)

/-- A normal project in a document that keeps its values is given back as it is. -/
theorem reread_eq_self {project : Project} (normal : project.Normal)
    (kept : Json.IsKept project.toValue) : reread project = .ok project := by
  have back : echo project = .ok project := by
    rw [echo, ofDocument, document, kept]
    simp only [normal.read_toValue]
  rw [reread, back]

/-- No line break of a document is changed when it is read. -/
theorem read_document {directory : Directory} {name : String} {value : Value}
    (present : directory.present = true) (simple : Directory.IsSimple name)
    (short : name.utf8ByteSize ≤ Directory.nameLimit)
    (held : Ledger.get? directory.entries name = some (.file (Json.document value))) :
    directory.read name = .ok (Json.document value) := by
  have plain : '\r' ∉ (Json.document value).toList := Json.not_mem_documentAt 0 value
  rw [Directory.read_eq present simple short held, Directory.withLineFeeds_eq_self plain,
    String.ofList_toList]

/-! ## Names of files -/

theorem nameOf_injective : Function.Injective nameOf :=
  fun _ _ same => (String.append_left_inj ending).mp same

theorem nameOf_ne {id other : String} (last : other.toList.getLast? ≠ some 'n') :
    nameOf id ≠ other := by
  rintro rfl
  simp [nameOf, ending] at last

section

variable {id : String}

/-- A non-empty text of letters, digits, underscores and hyphens. -/
structure IsPlainId (id : String) : Prop where
  inhabited : id ≠ ""
  letters : ∀ c ∈ id.toList, isSafe c = true

/-- A plain id with a line feed behind it. -/
def IsFedId (id : String) : Prop :=
  ∃ body, IsPlainId body ∧ id = body ++ "\n"

theorem IsPlainId.getLast?_ne (plain : IsPlainId id) : id.toList.getLast? ≠ some '\n' := by
  intro last
  have safe := plain.letters _ (List.mem_of_getLast? last)
  cases safe

theorem IsFedId.not_isPlainId (fed : IsFedId id) : ¬ IsPlainId id := by
  obtain ⟨body, _, rfl⟩ := fed
  intro plain
  apply plain.getLast?_ne
  simp

theorem isPlainId_ofList_iff {cs : List Char} :
    IsPlainId (String.ofList cs) ↔ (!cs.isEmpty && cs.all isSafe) = true := by
  rw [Bool.and_eq_true, List.all_eq_true, Bool.not_eq_true', List.isEmpty_eq_false_iff]
  constructor
  · rintro ⟨inhabited, letters⟩
    rw [String.toList_ofList] at letters
    refine ⟨?_, letters⟩
    rintro rfl
    exact inhabited rfl
  · rintro ⟨inhabited, letters⟩
    refine ⟨?_, by rwa [String.toList_ofList]⟩
    intro empty
    exact inhabited (by simpa using congrArg String.toList empty)

/-- An id names a file when it is plain, also with a line feed behind it. -/
theorem isSafeId_iff : isSafeId id.toList = true ↔ IsPlainId id ∨ IsFedId id := by
  by_cases ended : id.toList.getLast? = some '\n'
  · have whole : id = String.ofList id.toList.dropLast ++ "\n" := by
      apply String.toList_inj.mp
      rw [String.toList_append, String.toList_ofList]
      exact (List.dropLast_append_getLast? '\n' ended).symm
    have notPlain : ¬ IsPlainId id := fun plain => plain.getLast?_ne ended
    rw [or_iff_right notPlain, isSafeId, if_pos ended, ← isPlainId_ofList_iff]
    constructor
    · intro plain
      exact ⟨_, plain, whole⟩
    · rintro ⟨body, plain, rfl⟩
      simpa using plain
  · have notFed : ¬ IsFedId id := by
      rintro ⟨body, _, rfl⟩
      simp at ended
    rw [or_iff_left notFed, isSafeId, if_neg ended, ← isPlainId_ofList_iff, String.ofList_toList]

end

section

variable {id : String} (safe : isSafeId id.toList = true)

include safe

theorem safe_or_lineFeed {c : Char} (member : c ∈ id.toList) : isSafe c = true ∨ c = '\n' := by
  simp only [isSafeId, Bool.and_eq_true, List.all_eq_true] at safe
  obtain ⟨_, all⟩ := safe
  split at all
  · rename_i ended
    have whole := List.dropLast_append_getLast? '\n' ended
    rw [← whole] at member
    rcases List.mem_append.mp member with member | member
    · exact .inl (all c member)
    · exact .inr (List.mem_singleton.mp member)
  · exact .inl (all c member)

theorem ne_empty_of_isSafeId : id ≠ "" := by
  rintro rfl
  cases safe

theorem isSimple_nameOf : Directory.IsSimple (nameOf id) := by
  have absent : ∀ c, isSafe c = false → c ≠ '\n' → c ∉ ending.toList →
      c ∉ (nameOf id).toList := by
    intro c notSafe notFeed notEnding member
    rw [nameOf, String.toList_append] at member
    rcases List.mem_append.mp member with member | member
    · rcases safe_or_lineFeed safe member with isSafe | feed
      · rw [isSafe] at notSafe
        cases notSafe
      · exact notFeed feed
    · exact notEnding member
  constructor
  · exact nameOf_ne (by decide)
  · have notHere : nameOf id ≠ Directory.here := nameOf_ne (by decide)
    have notBack : nameOf id ≠ Location.back := nameOf_ne (by decide)
    simp [Directory.leadsToFolder, notHere, notBack]
  · exact absent '/' (by decide) (by decide) (by decide)
  · exact absent '\x00' (by decide) (by decide) (by decide)

theorem holdsProject_nameOf : holdsProject (nameOf id) = true := by
  obtain ⟨c, rest, shape⟩ := List.exists_cons_of_ne_nil
    (fun empty => ne_empty_of_isSafeId safe (String.toList_inj.mp empty) : id.toList ≠ [])
  have first : c ≠ '.' := by
    rintro rfl
    rcases safe_or_lineFeed safe (shape ▸ List.mem_cons_self) with wrong | wrong
    · cases wrong
    · cases wrong
  simp [holdsProject, nameOf, String.toList_append, shape, first]

end

theorem isSimple_scratch : Directory.IsSimple ".tmp" := by
  constructor <;> decide

/-! ## Saving -/

section

variable (projects : Ledger Project)

theorem get?_filed (id : String) :
    Ledger.get? (filed projects).entries (nameOf id) =
      (Ledger.get? projects id).map fun project => .file (document project) :=
  Ledger.get?_relabel nameOf (fun project => Entry.file (document project)) nameOf_injective
    projects id

theorem get?_filed_ne_folder (id : String) :
    Ledger.get? (filed projects).entries (nameOf id) ≠ some .folder := by
  rw [get?_filed]
  cases Ledger.get? projects id <;> simp

theorem put_filed (project : Project) :
    Ledger.put (filed projects).entries (nameOf project.id) (.file (document project)) =
      (filed (Ledger.put projects project.id project)).entries :=
  Ledger.put_relabel nameOf (fun project => Entry.file (document project)) nameOf_injective
    projects project.id project

theorem scratch_not_mem : ".tmp" ∉ Ledger.keys (filed projects).entries := by
  rw [filed, Ledger.keys_relabel]
  intro member
  obtain ⟨id, _, same⟩ := List.mem_map.mp member
  exact nameOf_ne (by decide) same

theorem scratchName_filed : scratchName (filed projects) = ".tmp" :=
  Fresh.pick_of_not_mem (scratch_not_mem projects)

/-- The directory while a document stands under the scratch name. -/
def drafted (content : String) : Directory :=
  { entries := Ledger.put (filed projects).entries ".tmp" (.file content) }

theorem write_scratch (content : String) :
    (filed projects).write ".tmp" content = .ok (drafted projects content) := by
  have absent := Ledger.get?_eq_none_iff.mpr (scratch_not_mem projects)
  exact Directory.write_eq rfl isSimple_scratch (by decide) (by simp [absent]) content

theorem get?_drafted (content : String) :
    Ledger.get? (drafted projects content).entries ".tmp" = some (.file content) := by
  simp [drafted, Ledger.get?_put]

theorem unlink_scratch (content : String) :
    (drafted projects content).unlink ".tmp" = .ok (filed projects) := by
  rw [Directory.unlink_eq rfl isSimple_scratch (by decide) (get?_drafted projects content)]
  simp only [drafted, Ledger.erase_put_of_not_mem (scratch_not_mem projects)]
  rfl

theorem rename_drafted (content name : String) :
    (drafted projects content).rename ".tmp" name = (filed projects).write name content := by
  rw [Directory.rename, Directory.content_eq rfl isSimple_scratch (by decide)
    (get?_drafted projects content), unlink_scratch]
  rfl

variable {project : Project}

theorem place_of_short (safe : isSafeId project.id.toList = true)
    (short : (nameOf project.id).utf8ByteSize ≤ Directory.nameLimit) :
    place (filed projects) project (nameOf project.id) =
      (.ok (), filed (Ledger.put projects project.id project)) := by
  have written := Directory.write_eq rfl (isSimple_nameOf safe) short
    (get?_filed_ne_folder projects project.id) (document project)
  rw [put_filed] at written
  simp only [place, scratchName_filed, write_scratch, rename_drafted, written]
  rfl

theorem place_of_long (safe : isSafeId project.id.toList = true)
    (long : Directory.nameLimit < (nameOf project.id).utf8ByteSize) :
    ∃ fault, place (filed projects) project (nameOf project.id) =
      (.error fault, filed projects) := by
  have refused : (filed projects).write (nameOf project.id) (document project) = _ :=
    Directory.write_of_long rfl (isSimple_nameOf safe) long (document project)
  simp only [place, scratchName_filed, write_scratch, rename_drafted, refused, unlink_scratch]
  exact ⟨_, rfl⟩

theorem fileName_of_safe {id : Value} {text : String} (read : id.asText? = some text)
    (safe : isSafeId text.toList = true) : fileName id = .ok (nameOf text) := by
  simp [fileName, read, fileName?, safe, nameOf]

theorem save_of_admits (admits : Admits project) :
    save (filed projects) project =
      (.ok (), filed (Ledger.put projects project.id project)) := by
  have name : fileName (.text project.id) = .ok (nameOf project.id) :=
    fileName_of_safe rfl admits.safe
  simp only [save, name, admits.writable, if_true, place_of_short projects admits.safe admits.short]

/-- What is not admitted leaves the directory as it is, without the scratch file. -/
theorem save_of_not_admits (refused : ¬ Admits project) :
    ∃ fault, save (filed projects) project = (.error fault, filed projects) := by
  by_cases safe : isSafeId project.id.toList = true
  · have name : fileName (.text project.id) = .ok (nameOf project.id) :=
      fileName_of_safe rfl safe
    by_cases writable : project.isWritable = true
    · have long : Directory.nameLimit < (nameOf project.id).utf8ByteSize := by
        by_contra short
        exact refused ⟨safe, Nat.not_lt.mp short, writable⟩
      obtain ⟨fault, placed⟩ := place_of_long projects safe long
      exact ⟨fault, by simp only [save, name, writable, if_true, placed]⟩
    · exact ⟨.unencodable, by simp [save, name, writable]⟩
  · exact ⟨.projectNotFound (.text project.id),
      by simp [save, fileName, Value.asText?, fileName?, safe]⟩

end

/-! ## Looking up and deleting -/

/-- What is answered when there is no project under a value. -/
def absence (id : Value) : Fault :=
  if id.asText? = none ∧ id.truthy = true then .unusableId else .projectNotFound id

/-- Every project stands under its own id, and can be kept in a directory. -/
def Kept (projects : Ledger Project) : Prop :=
  ∀ id project, Ledger.get? projects id = some project → project.id = id ∧ Admits project

section

variable {projects : Ledger Project} (kept : Kept projects) {id : Value}

theorem fileName_of_not_safe {text : String} (read : id.asText? = some text)
    (notSafe : isSafeId text.toList ≠ true) : fileName id = .error (absence id) := by
  simp [fileName, read, fileName?, notSafe, absence]

theorem fileName_of_no_text (read : id.asText? = none) : fileName id = .error (absence id) := by
  by_cases truthy : id.truthy = true <;> simp [fileName, read, absence, truthy]

include kept

/-- The name of an id is refused, or leads to what is kept under the id. -/
theorem fileName_filed (id : Value) :
    (fileName id = .error (absence id) ∧ id.asText?.bind (Ledger.get? projects) = none) ∨
      ∃ text, id.asText? = some text ∧ isSafeId text.toList = true ∧
        fileName id = .ok (nameOf text) ∧
        Directory.entry? (filed projects) (nameOf text) =
          (Ledger.get? projects text).map fun project => .file (document project) := by
  cases read : id.asText? with
  | none => exact .inl ⟨fileName_of_no_text read, rfl⟩
  | some text =>
      by_cases safe : isSafeId text.toList = true
      · refine .inr ⟨text, rfl, safe, fileName_of_safe read safe, ?_⟩
        cases found : Ledger.get? projects text with
        | none =>
            apply Directory.entry?_eq_none
            rw [get?_filed, found]
            rfl
        | some project =>
            obtain ⟨rfl, admits⟩ := kept text project found
            rw [Directory.entry?_eq rfl admits.short, get?_filed, found]
      · refine .inl ⟨fileName_of_not_safe read safe, ?_⟩
        simp only [Option.bind_some]
        by_contra present
        obtain ⟨project, found⟩ := Option.ne_none_iff_exists'.mp present
        obtain ⟨rfl, admits⟩ := kept text project found
        exact safe admits.safe

theorem readFile_filed {text : String} {project : Project}
    (found : Ledger.get? projects text = some project) (clock : Clock) :
    readFile (filed projects) (nameOf text) clock = (reread project, clock) := by
  obtain ⟨rfl, admits⟩ := kept text project found
  have entry := get?_filed projects project.id
  rw [found, Option.map_some] at entry
  have content : (filed projects).read (nameOf project.id) = .ok (document project) :=
    read_document rfl (isSimple_nameOf admits.safe) admits.short entry
  rw [readFile, content]
  simp only [ofDocument_eq_echo, reread]
  cases echo project with
  | ok read => rfl
  | error fault => cases fault <;> rfl

theorem load_filed (id : Value) (clock : Clock) :
    load (filed projects) id clock =
      (match id.asText?.bind (Ledger.get? projects) with
        | some project => reread project
        | none => .error (absence id), clock) := by
  rcases fileName_filed kept id with ⟨refused, absent⟩ | ⟨text, read, safe, name, entry⟩
  · simp only [load, refused, absent]
  · simp only [load, name, entry, read, Option.bind_some]
    cases found : Ledger.get? projects text with
    | none => simp [absence, read]
    | some project => simp only [Option.map_some, readFile_filed kept found]

theorem exists?_filed (id : String) :
    exists? (filed projects) (.text id) = .ok (Ledger.get? projects id).isSome := by
  rcases fileName_filed kept (.text id) with ⟨refused, absent⟩ | ⟨text, read, safe, name, entry⟩
  · have absent : Ledger.get? projects id = none := absent
    simp [exists?, refused, absence, Value.asText?, absent]
  · cases read
    simp [exists?, name, entry]

theorem delete_filed (id : Value) :
    delete (filed projects) id =
      match id.asText?.bind (Ledger.get? projects) with
      | some project => (.ok (), filed (Ledger.erase projects project.id))
      | none => (.error (absence id), filed projects) := by
  rcases fileName_filed kept id with ⟨refused, absent⟩ | ⟨text, read, safe, name, entry⟩
  · simp only [delete, refused, absent]
  · simp only [delete, name, entry, read, Option.bind_some]
    cases found : Ledger.get? projects text with
    | none => simp [absence, read]
    | some project =>
        obtain ⟨rfl, admits⟩ := kept text project found
        have held := get?_filed projects project.id
        rw [found, Option.map_some] at held
        have erased := Ledger.erase_relabel nameOf
          (fun project => Entry.file (document project)) nameOf_injective projects project.id
        simp only [Option.map_some,
          Directory.unlink_eq rfl (isSimple_nameOf admits.safe) admits.short held]
        simp only [filed, erased]

end

/-! ## Listing -/

/-- The projects by the names of their files. -/
def shelf (projects : Ledger Project) : Ledger Project :=
  projects.mergeSort fun left right => nameOf left.1 ≤ nameOf right.1

/-- The projects among what files give back; a file that holds none is passed over. -/
def gather : List (Except Fault Project) → Except Fault (List Project)
  | [] => .ok []
  | .ok project :: rest => (gather rest).map (project :: ·)
  | .error (.storage _ _) :: rest => gather rest
  | .error fault :: _ => .error fault

theorem gather_map_ok (projects : List Project) : gather (projects.map .ok) = .ok projects := by
  induction projects with
  | nil => rfl
  | cons project rest induction =>
      rw [List.map_cons, gather, induction]
      rfl

theorem mem_of_mem_gather {outcomes : List (Except Fault Project)} {listed : List Project}
    (done : gather outcomes = .ok listed) {project : Project} (member : project ∈ listed) :
    .ok project ∈ outcomes := by
  induction outcomes generalizing listed with
  | nil =>
      cases done
      cases member
  | cons outcome rest induction =>
      rcases outcome with fault | first
      · cases fault with
        | storage => exact List.mem_cons_of_mem _ (induction done member)
        | _ => cases done
      · rw [gather] at done
        obtain ⟨later, restDone, rfl⟩ := Checked.map_eq_ok done
        rcases List.mem_cons.mp member with rfl | among
        · exact List.mem_cons_self
        · exact List.mem_cons_of_mem _ (induction restDone among)

theorem readAll_eq_gather {α : Type} {directory : Directory} {items : List α}
    {name : α → String} {outcome : α → Except Fault Project} {clock : Clock}
    (reads : ∀ item ∈ items, readFile directory (name item) clock = (outcome item, clock)) :
    readAll directory (items.map name) clock = (gather (items.map outcome), clock) := by
  induction items with
  | nil => rfl
  | cons item items induction =>
      obtain ⟨first, rest⟩ := List.forall_mem_cons.mp reads
      have later := induction rest
      rw [List.map_cons, readAll, first, List.map_cons]
      rcases outcome item with fault | project
      · cases fault <;> simp only [gather, later]
      · simp only [gather, later]
        cases gather (items.map outcome) <;> rfl

theorem shelf_perm (projects : Ledger Project) : (shelf projects).Perm projects :=
  List.mergeSort_perm _ _

theorem names_filed {projects : Ledger Project}
    (safe : ∀ entry ∈ projects, isSafeId entry.1.toList = true) :
    (filed projects).names.filter holdsProject =
      (shelf projects).map fun entry => nameOf entry.1 := by
  have keys : Ledger.keys (filed projects).entries = projects.map fun entry => nameOf entry.1 := by
    simp [filed, Ledger.relabel, Ledger.keys]
  have names : (filed projects).names = (shelf projects).map fun entry => nameOf entry.1 := by
    have inside : (Ledger.keys (filed projects).entries).filter
        (fun name => !name.toList.contains '/') = Ledger.keys (filed projects).entries := by
      apply List.filter_eq_self.mpr
      intro name member
      rw [keys] at member
      obtain ⟨entry, among, rfl⟩ := List.mem_map.mp member
      simpa using (isSimple_nameOf (safe entry among)).noSlash
    have present : (filed projects).present = true := rfl
    rw [Directory.names, if_pos present, inside, keys, shelf, List.map_mergeSort]
    intro left _ right _
    rfl
  rw [names]
  apply List.filter_eq_self.mpr
  intro name member
  obtain ⟨entry, among, rfl⟩ := List.mem_map.mp member
  exact holdsProject_nameOf (safe entry ((shelf_perm projects).mem_iff.mp among))

/-- The list of a directory is made of what the files give back, by their names. -/
theorem all_filed {projects : Ledger Project} (kept : Kept projects)
    (nodup : (Ledger.keys projects).Nodup) (clock : Clock) :
    all (filed projects) clock =
      (gather ((shelf projects).map fun entry => reread entry.2), clock) := by
  have found : ∀ entry ∈ projects, Ledger.get? projects entry.1 = some entry.2 :=
    fun entry member => Ledger.get?_eq_some_of_mem nodup member
  have safe : ∀ entry ∈ projects, isSafeId entry.1.toList = true := by
    intro entry member
    obtain ⟨own, admits⟩ := kept _ _ (found entry member)
    exact own ▸ admits.safe
  rw [all, names_filed safe]
  apply readAll_eq_gather
  intro entry member
  exact readFile_filed kept (found entry ((shelf_perm projects).mem_iff.mp member)) clock

/-! ## A project that is given back as it is -/

/-- A project with a stage in it. -/
def sample (id : String) : Project :=
  { id := id
    name := "Flow"
    userId := "u"
    flow := {
      stages := [{
        id := "load"
        type := TypeName.ingest
        category := "data"
        configuration := [("path", "a.csv")] }] }
    createdAt := { micros := 63850154400500000 }
    updatedAt := { micros := 63850154400500000 } }

theorem normal_sample (id : String) : (sample id).Normal where
  flow := {
    stages := by
      intro stage member
      obtain rfl := List.mem_singleton.mp member
      exact ⟨by cbv, by cbv⟩
    links := by
      intro link member
      cases member }
  createdAt := (by decide : 63850154400500000 < Moment.limit)
  updatedAt := (by decide : 63850154400500000 < Moment.limit)

theorem reread_sample (id : String) : reread (sample id) = .ok (sample id) := by
  apply reread_eq_self (normal_sample id)
  · apply Json.isKept_of_plain
    simp [Json.Plain, Json.PlainEntries, Json.PlainItems, Project.toValue, sample,
      Stage.toValue, Ledger.keys, Json.Tolerance.stored]

theorem admits_sample : Admits (sample "a-1") where
  safe := by decide
  short := by decide
  writable := rfl

end StageGraph.Files
