import StageGraph.Proofs.Workshop.Course

/-!
# Requests change one project or nothing

A store that was only worked on by requests, and that projects were saved in, keeps
projects and nothing else, however it is kept.  On such a store a request that fails has
changed nothing that can be asked for later, and neither has a request that only looks.
One that succeeds leaves every project alone but the one that it names or makes.
-/

namespace StageGraph.Workshop

/-- A world that saving and requests lead to from an empty store, while time goes by. -/
inductive Reachable (keeping : Keeping) : World → Prop where
  | empty {world : World} (empty : world.store = keeping.store []) : Reachable keeping world
  | elapsed {world later : World} (reached : Reachable keeping world)
      (same : later.store = world.store) : Reachable keeping later
  | saved {world : World} (reached : Reachable keeping world) (project : Project) :
      Reachable keeping ((Store.save project).perform world).2
  | requested {world : World} (reached : Reachable keeping world) (workshop : Workshop)
      (request : Request) : Reachable keeping ((request.action workshop).perform world).2

theorem Reachable.exists_sound {keeping : Keeping} {world : World}
    (reachable : Reachable keeping world) :
    ∃ projects, world.store = keeping.store projects ∧ keeping.Sound projects := by
  induction reachable with
  | empty empty => exact ⟨[], empty, .nil keeping⟩
  | elapsed _ same induction =>
      obtain ⟨projects, holds, sound⟩ := induction
      exact ⟨projects, same.trans holds, sound⟩
  | saved _ project induction =>
      obtain ⟨projects, holds, sound⟩ := induction
      by_cases admits : keeping.Admits project
      · rw [Keeping.perform_save holds admits]
        exact ⟨_, rfl, sound.put admits⟩
      · obtain ⟨fault, failed⟩ := Keeping.perform_save_of_not_admits holds admits
        rw [failed]
        exact ⟨projects, holds, sound⟩
  | requested _ workshop request induction =>
      obtain ⟨projects, holds, sound⟩ := induction
      obtain ⟨outcome, after, later, performed, course⟩ :=
        hasCourse workshop holds sound request
      rw [performed]
      exact ⟨after, course.holds holds, course.sound sound⟩

/-- What a workshop replies to requests one after the other. -/
def replies (workshop : Workshop) : List Request → World → List (Except Fault Reply)
  | [], _ => []
  | request :: rest, world =>
    let performed := (request.action workshop).perform world
    performed.1 :: replies workshop rest performed.2

section

variable {workshop : Workshop} {keeping : Keeping} {projects : Ledger Project}

variable (workshop) in
/-- The reply to a request that only looks is settled by what the store keeps. -/
theorem exists_reply (sound : keeping.Sound projects) {request : Request}
    (reading : request.isReading = true) :
    ∃ outcome, ∀ world, world.store = keeping.store projects →
      (request.action workshop).perform world = (outcome, world) := by
  cases request with
  | get id =>
      refine ⟨(keeping.answer projects id).map .project, fun world holds => ?_⟩
      rw [Request.action, Action.perform_map, Keeping.perform_load holds sound]
  | list user =>
      refine ⟨((keeping.gathered projects).map fun listed =>
        Store.newestFirst listed user).map .projects, fun world holds => ?_⟩
      rw [Request.action, Action.perform_map, Keeping.perform_list holds sound]
  | report id =>
      refine ⟨(keeping.answer projects id >>= fun loaded =>
        (Report.make workshop.catalog loaded.flow).mapError .obstacle).map .report,
        fun world holds => ?_⟩
      rw [Request.action, Action.perform_map, perform_report holds sound]
  | script id =>
      refine ⟨(keeping.answer projects id >>= fun loaded =>
        (Script.make workshop.catalog loaded.flow).mapError .obstacle).map .script,
        fun world holds => ?_⟩
      rw [Request.action, Action.perform_map, perform_script holds sound]
  | create | update | addStage | removeStage | delete => cases reading

theorem replies_eq (sound : keeping.Sound projects) {world other : World}
    (holds : world.store = keeping.store projects) (same : other.store = world.store)
    {requests : List Request} (reading : ∀ request ∈ requests, request.isReading = true) :
    replies workshop requests other = replies workshop requests world := by
  induction requests with
  | nil => rfl
  | cons request requests induction =>
      obtain ⟨first, rest⟩ := List.forall_mem_cons.mp reading
      obtain ⟨outcome, replied⟩ := exists_reply workshop sound first
      rw [replies, replies, replied world holds, replied other (same.trans holds)]
      exact congrArg _ (induction rest)

end

/-- Nothing that can be looked at has changed. -/
def Unchanged (world later : World) : Prop :=
  later.store = world.store ∧
    ∀ (workshop : Workshop) (requests : List Request),
      (∀ request ∈ requests, request.isReading = true) →
        replies workshop requests later = replies workshop requests world

/-- The same project, or the same fault, is found under a value. -/
def SameUnder (id : Value) (world later : World) : Prop :=
  ((Store.load id).perform later).1 = ((Store.load id).perform world).1

/-- A request changes nothing when it fails or only looks, nothing but the project that it
names when it succeeds, and no project that is there when it makes a new one. -/
structure Isolated (request : Request) (world : World) (outcome : Except Fault Reply)
    (later : World) : Prop where
  failing : ∀ fault, outcome = .error fault → Unchanged world later
  looking : request.isReading = true → Unchanged world later
  naming : ∀ reply, outcome = .ok reply → ∀ id : Value,
    (∀ name, request.place? world.issued = some name → id.asText? ≠ some name) →
      SameUnder id world later
  making : ∀ draft, request = .create draft → ∀ id : String,
    ((Store.has (.text id)).perform world).1 = .ok true → SameUnder (.text id) world later

theorem request_isolated {keeping : Keeping} {world : World}
    (reachable : Reachable keeping world) (workshop : Workshop) {request : Request}
    (unused : ∀ draft, request = .create draft →
      ((Store.has (.text (idText (world.issued + 1)))).perform world).1 = .ok false) :
    Isolated request world ((request.action workshop).perform world).1
      ((request.action workshop).perform world).2 := by
  obtain ⟨projects, holds, sound⟩ := reachable.exists_sound
  obtain ⟨outcome, after, later, performed, course⟩ :=
    hasCourse workshop holds sound request
  have laterHolds := course.holds holds
  have laterSound := course.sound sound
  rw [performed]
  have unchanged : (request.isReading = true ∨ ∃ fault, outcome = .error fault) →
      Unchanged world later := by
    intro idle
    have same := course.store_eq idle
    exact ⟨same, fun _ _ reading => replies_eq sound holds same reading⟩
  have elsewhere : ∀ id : Value,
      (∀ name, request.place? world.issued = some name → id.asText? ≠ some name) →
        SameUnder id world later := by
    intro id apart
    rw [SameUnder, Keeping.perform_load laterHolds laterSound, Keeping.perform_load holds sound]
    have same : Keeping.kept? after id = Keeping.kept? projects id := by
      cases read : id.asText? with
      | none => simp [Keeping.kept?, read]
      | some text =>
          have untouched : request.place? world.issued ≠ some text :=
            fun named => apart text named read
          simpa [Keeping.kept?, read] using course.get?_eq sound untouched
    simp only [Keeping.answer, same]
  constructor
  · exact fun fault failed => unchanged (.inr ⟨fault, failed⟩)
  · exact fun reading => unchanged (.inl reading)
  · exact fun _ _ => elsewhere
  · rintro draft rfl id present
    apply elsewhere
    intro name named same
    obtain rfl := Option.some.inj named
    obtain rfl := Option.some.inj same
    rw [unused draft rfl] at present
    cases present

theorem reachable_savedWorld : Reachable .directory Keeping.savedWorld :=
  .saved (.empty rfl) (Files.sample "a-1")

/-- The first id that is handed out is not that of the project. -/
theorem unused_savedWorld (draft : Draft) (_ : Request.create {} = .create draft) :
    ((Store.has (.text (idText (Keeping.savedWorld.issued + 1)))).perform
      Keeping.savedWorld).1 = .ok false := by
  rw [Keeping.perform_has Keeping.store_savedWorld Keeping.sound_savedWorld]
  rfl

theorem savedWorld_isolated :
    Reachable .directory Keeping.savedWorld ∧
      (∀ draft, Request.create {} = .create draft →
        ((Store.has (.text (idText (Keeping.savedWorld.issued + 1)))).perform
          Keeping.savedWorld).1 = .ok false) ∧
      Isolated (.create {}) Keeping.savedWorld
        (((Request.create {}).action {}).perform Keeping.savedWorld).1
        (((Request.create {}).action {}).perform Keeping.savedWorld).2 :=
  ⟨reachable_savedWorld, unused_savedWorld,
    request_isolated reachable_savedWorld {} unused_savedWorld⟩

end StageGraph.Workshop
