import StageGraph.Proofs.Store.Filing
import StageGraph.Store.Basic

/-!
# Stores as ledgers of projects

Memory, memory behind its list, and a directory keep projects in one way: each
operation reads or changes the ledger of what is kept.  They differ in what they
admit, in what they give back for a project, in the fault that stands for an absent
one, and in the order of equals in a list.  An operation that fails leaves the world
as it is.
-/

namespace StageGraph

/-- What the clock of a world shows. -/
def World.time? (world : World) : Option Moment :=
  world.clock.course world.clock.readings

/-- The world with a reading of its clock taken. -/
def World.tick (world : World) : World :=
  { world with clock := { world.clock with readings := world.clock.readings + 1 } }

namespace Action

variable {α β : Type}

/-- What an action answers in a world, and the world that it leaves. -/
def perform (action : Action α) (world : World) : Except Fault α × World :=
  (ExceptT.run action).run world

variable (world : World)

@[simp] theorem perform_pure (value : α) :
    perform (pure value) world = (.ok value, world) := rfl

@[simp] theorem perform_throw (fault : Fault) :
    perform (throw fault : Action α) world = (.error fault, world) := rfl

@[simp] theorem perform_get : perform get world = (.ok world, world) := rfl

@[simp] theorem perform_set (other : World) : perform (set other) world = (.ok (), other) := rfl

@[simp] theorem perform_ofResult (result : Except Fault α) :
    perform (ofResult result) world = (result, world) := by
  cases result <;> rfl

theorem perform_bind (action : Action α) (next : α → Action β) :
    perform (action >>= next) world =
      match perform action world with
      | (.ok value, later) => perform (next value) later
      | (.error fault, later) => (.error fault, later) := by
  simp only [perform, ExceptT.run_bind, StateT.run_bind]
  rcases StateT.run (ExceptT.run action) world with ⟨outcome, later⟩
  cases outcome <;> rfl

theorem perform_map (action : Action α) (form : α → β) :
    perform (do return form (← action)) world =
      ((perform action world).1.map form, (perform action world).2) := by
  rw [perform_bind]
  rcases perform action world with ⟨outcome, later⟩
  cases outcome <;> rfl

theorem perform_discard (action : Action α) :
    perform (discard action) world =
      ((perform action world).1.map fun _ => (), (perform action world).2) := by
  exact perform_map world action fun _ => ()

/-- Reading the clock takes one of its readings, and fails where its course ends. -/
theorem perform_now :
    perform now world =
      (match world.time? with
        | some moment => .ok moment
        | none => .error .beyondCalendar, world.tick) := by
  simp only [now, perform_bind, perform_get, Clock.read, perform_set, World.time?]
  cases world.clock.course world.clock.readings <;> rfl

variable {world} in
theorem perform_now_bind {time : Moment} (shown : world.time? = some time)
    (next : Moment → Action β) :
    perform (now >>= next) world = perform (next time) world.tick := by
  rw [perform_bind, perform_now, shown]

variable {world} in
theorem perform_now_bind_of_none (hidden : world.time? = none) (next : Moment → Action β) :
    perform (now >>= next) world = (.error .beyondCalendar, world.tick) := by
  rw [perform_bind, perform_now, hidden]

@[simp] theorem perform_nextId :
    perform nextId world =
      (.ok (world.issued + 1), { world with issued := world.issued + 1 }) := rfl

end Action

/-- The ways in which projects are kept. -/
inductive Keeping where
  | memory
  /-- In memory, with nothing to ask except for the list. -/
  | listing
  | directory
  deriving DecidableEq, Repr

namespace Keeping

/-- The store that keeps some projects and nothing else. -/
def store : Keeping → Ledger Project → Store
  | .memory, projects => .memory projects
  | .listing, projects => .listing projects
  | .directory, projects => .directory (Files.filed projects)

/-- What can be kept. -/
def Admits : Keeping → Project → Prop
  | .memory, _ | .listing, _ => True
  | .directory, project => Files.Admits project

/-- What is given back for a project that is kept. -/
def giveBack : Keeping → Project → Except Fault Project
  | .memory, project | .listing, project => .ok project
  | .directory, project => Files.reread project

/-- What is answered when nothing is kept under a value. -/
def absence : Keeping → Value → Fault
  | .memory, id | .listing, id => if id.isKey then .projectNotFound id else .unusableId
  | .directory, id => Files.absence id

/-- What is kept under a value; only a text is an id. -/
def kept? (projects : Ledger Project) (id : Value) : Option Project :=
  id.asText?.bind (Ledger.get? projects)

/-- What is answered to a value when some projects are kept. -/
def answer (keeping : Keeping) (projects : Ledger Project) (id : Value) : Except Fault Project :=
  match kept? projects id with
  | some project => keeping.giveBack project
  | none => .error (keeping.absence id)

/-- The projects of which lists are made. -/
def gathered : Keeping → Ledger Project → Except Fault (List Project)
  | .memory, projects | .listing, projects => .ok (Ledger.values projects)
  | .directory, projects =>
    Files.gather ((Files.shelf projects).map fun entry => Files.reread entry.2)

/-- Every project is kept once, under its own id, where it is admitted. -/
structure Sound (keeping : Keeping) (projects : Ledger Project) : Prop where
  nodup : (Ledger.keys projects).Nodup
  own : ∀ {id project}, Ledger.get? projects id = some project → project.id = id
  admitted : ∀ {id project}, Ledger.get? projects id = some project → keeping.Admits project

variable {keeping : Keeping} {projects : Ledger Project} {project : Project} {id : String}

namespace Sound

theorem nil (keeping : Keeping) : keeping.Sound [] where
  nodup := List.nodup_nil
  own found := by cases found
  admitted found := by cases found

theorem put (sound : keeping.Sound projects) (admits : keeping.Admits project) :
    keeping.Sound (Ledger.put projects project.id project) where
  nodup := Ledger.nodup_keys_put sound.nodup _ _
  own found := by
    rcases Ledger.of_get?_put found with ⟨same, rfl⟩ | ⟨_, found⟩
    · exact same
    · exact sound.own found
  admitted found := by
    rcases Ledger.of_get?_put found with ⟨_, rfl⟩ | ⟨_, found⟩
    · exact admits
    · exact sound.admitted found

theorem erase (sound : keeping.Sound projects) (id : String) :
    keeping.Sound (Ledger.erase projects id) where
  nodup := Ledger.nodup_keys_erase sound.nodup _
  own found := sound.own (Ledger.of_get?_erase found)
  admitted found := sound.admitted (Ledger.of_get?_erase found)

theorem map_id_values (sound : keeping.Sound projects) :
    (Ledger.values projects).map Project.id = Ledger.keys projects := by
  rw [Ledger.values, Ledger.keys, List.map_map]
  apply List.map_congr_left
  intro entry member
  exact sound.own (Ledger.get?_eq_some_of_mem sound.nodup member)

theorem filed (sound : Sound .directory projects) : Files.Kept projects :=
  fun _ _ found => ⟨sound.own found, sound.admitted found⟩

end Sound

/-! ## What is given back -/

theorem recalls_of_giveBack {read : Project} (done : keeping.giveBack project = .ok read) :
    project.Recalls read := by
  cases keeping with
  | memory =>
      cases done
      exact .refl _
  | listing =>
      cases done
      exact .refl _
  | directory => exact Files.recalls_of_reread done

/-- What is answered to a value was kept under it. -/
theorem of_answer_eq_ok (sound : keeping.Sound projects) {id : Value} {loaded : Project}
    (answered : keeping.answer projects id = .ok loaded) :
    ∃ stored, id.asText? = some loaded.id ∧ Ledger.get? projects loaded.id = some stored ∧
      stored.Recalls loaded := by
  unfold answer at answered
  split at answered
  · rename_i stored found
    obtain ⟨text, read, found⟩ := Option.bind_eq_some_iff.mp found
    have recalls := recalls_of_giveBack answered
    have own := recalls.id.trans (sound.own found)
    exact ⟨stored, own ▸ read, own ▸ found, recalls⟩
  · cases answered

/-! ## Lists -/

theorem mem_values_iff (sound : keeping.Sound projects) :
    project ∈ Ledger.values projects ↔ Ledger.get? projects project.id = some project := by
  constructor
  · intro member
    obtain ⟨⟨key, held⟩, among, rfl⟩ := List.mem_map.mp member
    have found := Ledger.get?_eq_some_of_mem sound.nodup among
    rw [sound.own found]
    exact found
  · intro found
    exact List.mem_map.mpr ⟨_, Ledger.mem_of_get?_eq_some found, rfl⟩

/-- Whether a list for a user holds a project. -/
def isFor (user : Value) (project : Project) : Bool :=
  match user with
  | .null => true
  | user => user.agrees (.text project.userId)

/-- A list for a user holds the user's projects, and a list for nobody all projects. -/
theorem isFor_user_iff {user : Option String} {project : Project} :
    isFor ((user.map Value.text).getD .null) project = true ↔
      ∀ name ∈ user, project.userId = name := by
  cases user with
  | none => simp [isFor]
  | some name =>
      simp only [Option.map_some, Option.getD_some, isFor, Value.agrees, beq_iff_eq,
        Option.mem_some_iff, forall_eq']
      exact eq_comm

section

variable {α : Type} (key : α → Nat)

/-- Whether an item with the greater number comes first, or with an equal one. -/
def comesFirst (left right : α) : Bool :=
  key right ≤ key left

theorem comesFirst_trans (first second third : α) (one : comesFirst key first second = true)
    (two : comesFirst key second third = true) : comesFirst key first third = true :=
  decide_eq_true ((of_decide_eq_true two).trans (of_decide_eq_true one))

theorem comesFirst_total (first second : α) :
    (comesFirst key first second || comesFirst key second first) = true := by
  simpa [comesFirst] using Nat.le_total (key second) (key first)

variable (items : List α)

theorem pairwise_mergeSort_comesFirst :
    (items.mergeSort (comesFirst key)).Pairwise fun first second => key second ≤ key first :=
  (List.pairwise_mergeSort (comesFirst_trans key) (comesFirst_total key) items).imp
    of_decide_eq_true

/-- Items of the same number keep their order. -/
theorem filter_mergeSort_comesFirst (number : Nat) :
    (items.mergeSort (comesFirst key)).filter (fun item => key item = number) =
      items.filter fun item => key item = number := by
  have alike : (items.filter fun item => key item = number).Pairwise
      fun first second => comesFirst key first second = true := by
    apply List.pairwise_of_forall_mem_list
    intro first inFirst second inSecond
    have left := of_decide_eq_true (List.mem_filter.mp inFirst).2
    have right := of_decide_eq_true (List.mem_filter.mp inSecond).2
    exact decide_eq_true (right.trans left.symm).le
  have kept := List.sublist_mergeSort (comesFirst_trans key) (comesFirst_total key) alike
    List.filter_sublist
  have among := kept.filter fun item => decide (key item = number)
  simp only [List.filter_filter, Bool.and_self] at among
  have size := ((List.mergeSort_perm items (comesFirst key)).filter
    fun item => decide (key item = number)).length_eq
  exact (among.eq_of_length size.symm).symm

/-- Sorted items come by their numbers, and those of equal numbers as they came before. -/
theorem pairwise_mergeSort_of_pairwise {Before : α → α → Prop} (ordered : items.Pairwise Before) :
    (items.mergeSort (comesFirst key)).Pairwise fun first second =>
      key second < key first ∨ (key second = key first ∧ Before first second) := by
  rw [List.pairwise_iff_forall_sublist]
  intro first second within
  have numbers := List.pairwise_iff_forall_sublist.mp
    (pairwise_mergeSort_comesFirst key items) within
  rcases Nat.lt_or_eq_of_le numbers with less | same
  · exact .inl less
  · have among := within.filter fun item => decide (key item = key first)
    rw [filter_mergeSort_comesFirst] at among
    simp only [List.filter_cons, same, decide_true, if_true, List.filter_nil] at among
    have before := List.pairwise_iff_forall_sublist.mp ordered
      (among.trans List.filter_sublist)
    exact .inr ⟨same, before⟩

end

theorem newestFirst_perm (listed : List Project) (user : Value) :
    (Store.newestFirst listed user).Perm (listed.filter (isFor user)) :=
  List.mergeSort_perm _ _

theorem mem_newestFirst_iff {listed : List Project} {user : Value} :
    project ∈ Store.newestFirst listed user ↔ project ∈ listed ∧ isFor user project = true := by
  rw [(newestFirst_perm listed user).mem_iff, List.mem_filter]

/-- Looking through the list for an id finds what is kept under it. -/
theorem any_newestFirst (sound : keeping.Sound projects) {listed : List Project}
    (same : listed.Perm (Ledger.values projects)) (id : String) :
    ((Store.newestFirst listed .null).any fun project =>
      (Value.text id).agrees (.text project.id)) = (Ledger.get? projects id).isSome := by
  rw [Bool.eq_iff_iff, List.any_eq_true, Option.isSome_iff_exists]
  constructor
  · rintro ⟨project, member, agrees⟩
    obtain rfl : id = project.id := by simpa [Value.agrees] using agrees
    have among := same.mem_iff.mp (mem_newestFirst_iff.mp member).1
    exact ⟨project, (mem_values_iff sound).mp among⟩
  · rintro ⟨project, found⟩
    obtain rfl := sound.own found
    have among := same.mem_iff.mpr ((mem_values_iff sound).mpr found)
    exact ⟨project, mem_newestFirst_iff.mpr ⟨among, rfl⟩, by simp [Value.agrees]⟩

/-! ## The operations -/

section

variable {world : World} (holds : world.store = keeping.store projects)

include holds

theorem perform_save (admits : keeping.Admits project) :
    (Store.save project).perform world =
      (.ok project,
        { world with store := keeping.store (Ledger.put projects project.id project) }) := by
  obtain ⟨held, clock, issued, stamp⟩ := world
  obtain rfl : held = _ := holds
  cases keeping with
  | memory => rfl
  | listing => rfl
  | directory =>
      simp only [Store.save, Action.perform_bind, Action.perform_get, store,
        Files.save_of_admits projects admits, Action.perform_set, Action.perform_ofResult,
        Action.perform_pure]

/-- What is not admitted is not saved. -/
theorem perform_save_of_not_admits (refused : ¬ keeping.Admits project) :
    ∃ fault, (Store.save project).perform world = (.error fault, world) := by
  obtain ⟨held, clock, issued, stamp⟩ := world
  obtain rfl : held = _ := holds
  cases keeping with
  | memory => exact absurd trivial refused
  | listing => exact absurd trivial refused
  | directory =>
      obtain ⟨fault, failed⟩ := Files.save_of_not_admits projects refused
      refine ⟨fault, ?_⟩
      simp only [Store.save, Action.perform_bind, Action.perform_get, store, failed,
        Action.perform_set, Action.perform_ofResult]

variable (sound : keeping.Sound projects)

include sound

theorem perform_load (id : Value) :
    (Store.load id).perform world = (keeping.answer projects id, world) := by
  obtain ⟨held, clock, issued, stamp⟩ := world
  obtain rfl : held = _ := holds
  cases keeping with
  | memory => exact Action.perform_ofResult _ _
  | listing => exact Action.perform_ofResult _ _
  | directory =>
      simp only [Store.load, Action.perform_bind, Action.perform_get, store,
        Files.load_filed sound.filed, Action.perform_set, Action.perform_ofResult]
      rfl

theorem perform_list (user : Value) :
    (Store.list user).perform world =
      ((keeping.gathered projects).map fun listed => Store.newestFirst listed user, world) := by
  obtain ⟨held, clock, issued, stamp⟩ := world
  obtain rfl : held = _ := holds
  cases keeping with
  | memory => rfl
  | listing => rfl
  | directory =>
      simp only [Store.list, Action.perform_bind, Action.perform_get, store,
        Files.all_filed sound.filed sound.nodup, Action.perform_set, Action.perform_ofResult,
        gathered]
      cases Files.gather _ <;> rfl

theorem perform_delete (id : Value) :
    (Store.delete id).perform world =
      match kept? projects id with
      | some project =>
        (.ok (), { world with store := keeping.store (Ledger.erase projects project.id) })
      | none => (.error (keeping.absence id), world) := by
  obtain ⟨held, clock, issued, stamp⟩ := world
  obtain rfl : held = _ := holds
  cases keeping with
  | memory =>
      simp only [Store.delete, Action.perform_bind, Action.perform_get, store,
        Action.perform_ofResult, Store.without, Store.find, kept?]
      cases id.asText?.bind (Ledger.get? projects) <;> rfl
  | listing =>
      simp only [Store.delete, Action.perform_bind, Action.perform_get, store,
        Action.perform_ofResult, Store.without, Store.find, kept?]
      cases id.asText?.bind (Ledger.get? projects) <;> rfl
  | directory =>
      simp only [Store.delete, Action.perform_bind, Action.perform_get, store,
        Files.delete_filed sound.filed, Action.perform_set, Action.perform_ofResult, kept?]
      cases id.asText?.bind (Ledger.get? projects) <;> rfl

theorem perform_has (id : String) :
    (Store.has (.text id)).perform world = (.ok (Ledger.get? projects id).isSome, world) := by
  have listed := perform_list holds sound .null
  obtain ⟨held, clock, issued, stamp⟩ := world
  obtain rfl : held = _ := holds
  cases keeping with
  | memory => rfl
  | listing =>
      simp only [Store.has, Action.perform_bind, Action.perform_get, store] at listed ⊢
      rw [listed]
      simp only [gathered, Except.map, Action.perform_pure,
        any_newestFirst sound (List.Perm.refl _)]
  | directory =>
      simp only [Store.has, Action.perform_bind, Action.perform_get, store,
        Files.exists?_filed sound.filed, Action.perform_ofResult]

end

/-! ## What a store shows -/

/-- Where the projects of a store can be seen: they are kept under an id, loaded from there, or
listed. -/
inductive Shows (keeping : Keeping) (projects : Ledger Project) (world : World) (id : String) :
    Project → Prop where
  | kept {project : Project} (found : Ledger.get? projects id = some project) :
      Shows keeping projects world id project
  | loaded {project : Project} (found : ((Store.load (.text id)).perform world).1 = .ok project) :
      Shows keeping projects world id project
  | listed {project : Project} {user : Value} {listed : List Project}
      (found : ((Store.list user).perform world).1 = .ok listed) (member : project ∈ listed)
      (own : project.id = id) : Shows keeping projects world id project

theorem exists_recalls_of_mem_gathered (sound : keeping.Sound projects) {listed : List Project}
    (gathered : keeping.gathered projects = .ok listed) (member : project ∈ listed) :
    ∃ stored, Ledger.get? projects project.id = some stored ∧ stored.Recalls project := by
  cases keeping with
  | memory =>
      cases gathered
      exact ⟨project, (mem_values_iff sound).mp member, .refl _⟩
  | listing =>
      cases gathered
      exact ⟨project, (mem_values_iff sound).mp member, .refl _⟩
  | directory =>
      obtain ⟨entry, among, reread⟩ := List.mem_map.mp (Files.mem_of_mem_gather gathered member)
      have found := Ledger.get?_eq_some_of_mem sound.nodup
        ((Files.shelf_perm projects).mem_iff.mp among)
      have recalls := Files.recalls_of_reread reread
      rw [recalls.id, sound.own found]
      exact ⟨entry.2, found, recalls⟩

/-- What a store shows under an id recalls what is kept there. -/
theorem Shows.exists_recalls {world : World} (shows : keeping.Shows projects world id project)
    (holds : world.store = keeping.store projects) (sound : keeping.Sound projects) :
    ∃ stored, Ledger.get? projects id = some stored ∧ stored.Recalls project := by
  cases shows with
  | kept found => exact ⟨project, found, .refl _⟩
  | loaded found =>
      rw [perform_load holds sound] at found
      obtain ⟨stored, read, kept, recalls⟩ := of_answer_eq_ok sound found
      obtain rfl := Option.some.inj read
      exact ⟨stored, kept, recalls⟩
  | listed found member own =>
      subst own
      rw [perform_list holds sound] at found
      obtain ⟨listed, gathered, rfl⟩ := Checked.map_eq_ok found
      exact exists_recalls_of_mem_gathered sound gathered (mem_newestFirst_iff.mp member).1

/-! ## A single project -/

/-- The store of a world keeps projects and nothing else, among them one under an id. -/
def Keeps (keeping : Keeping) (world : World) (id : String) (project : Project) : Prop :=
  ∃ projects, world.store = keeping.store projects ∧ keeping.Sound projects ∧
    Ledger.get? projects id = some project

namespace Keeps

variable {world : World} (keeps : keeping.Keeps world id project)

include keeps

theorem perform_load :
    (Store.load (.text id)).perform world = (keeping.giveBack project, world) := by
  obtain ⟨projects, holds, sound, found⟩ := keeps
  have kept : kept? projects (.text id) = some project := found
  rw [Keeping.perform_load holds sound, answer, kept]

theorem of_same_store {later : World} (same : later.store = world.store) :
    keeping.Keeps later id project := by
  obtain ⟨projects, holds, sound, found⟩ := keeps
  exact ⟨projects, same.trans holds, sound, found⟩

end Keeps

/-- An empty directory and a clock. -/
def sampleWorld : World :=
  { store := .directory {}, clock := Clock.steady 63882000000000000 1 }

/-- A directory with a project in it. -/
def savedWorld : World :=
  ((Store.save (Files.sample "a-1")).perform sampleWorld).2

theorem store_savedWorld :
    savedWorld.store = directory.store (Ledger.put [] "a-1" (Files.sample "a-1")) := by
  have empty : sampleWorld.store = directory.store [] := rfl
  rw [savedWorld, perform_save empty Files.admits_sample]
  rfl

theorem sound_savedWorld : directory.Sound (Ledger.put [] "a-1" (Files.sample "a-1")) :=
  (Sound.nil directory).put Files.admits_sample

end Keeping

end StageGraph
