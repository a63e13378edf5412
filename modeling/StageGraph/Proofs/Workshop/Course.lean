import StageGraph.Proofs.Store.Keeping
import StageGraph.Workshop

/-!
# The course of a request

A workshop that works on a store takes one of five courses.  A request fails, and the
store stays as it is; it only looks, and the whole world stays as it is; it puts a new
project into the store; it puts a revision of a project that the store gives back in the
place of that project; or it takes a project away.  Whatever is true of the work on
projects is read off these courses.
-/

namespace StageGraph

/-- The later world has the same clock further on, and has handed out no fewer ids. -/
structure World.Precedes (world later : World) : Prop where
  course : later.clock.course = world.clock.course
  readings : world.clock.readings ≤ later.clock.readings
  issued : world.issued ≤ later.issued

namespace World.Precedes

theorem refl (world : World) : world.Precedes world :=
  ⟨rfl, Nat.le_refl _, Nat.le_refl _⟩

theorem trans {first second third : World} (one : first.Precedes second)
    (two : second.Precedes third) : first.Precedes third :=
  ⟨two.course.trans one.course, one.readings.trans two.readings, one.issued.trans two.issued⟩

theorem tick (world : World) : world.Precedes world.tick :=
  ⟨rfl, Nat.le_succ _, Nat.le_refl _⟩

end World.Precedes

namespace Workshop

/-- What can be asked of a workshop. -/
inductive Request where
  | create (draft : Draft)
  | update (id : Value) (amendment : Amendment)
  | addStage (id : Value) (placement : Placement)
  | removeStage (id stageId : Value)
  | delete (id : Value)
  | get (id : Value)
  | list (user : Value)
  | report (id : Value)
  | script (id : Value)

/-- What a workshop replies. -/
inductive Reply where
  | project (project : Project)
  | stage (stage : Stage)
  | done
  | projects (listed : List Project)
  | report (report : Report)
  | script (script : Script)

namespace Request

/-- Ask a workshop. -/
def action (workshop : Workshop) : Request → Action Reply
  | .create draft => do return .project (← workshop.create draft)
  | .update id amendment => do return .project (← Workshop.update id amendment)
  | .addStage id placement => do return .stage (← workshop.addStage id placement)
  | .removeStage id stageId => do return .project (← Workshop.removeStage id stageId)
  | .delete id => do
    Store.delete id
    return .done
  | .get id => do return .project (← Store.load id)
  | .list user => do return .projects (← Store.list user)
  | .report id => do return .report (← workshop.report id)
  | .script id => do return .script (← workshop.script id)

/-- Whether a request only looks. -/
def isReading : Request → Bool
  | .get _ | .list _ | .report _ | .script _ => true
  | .create _ | .update _ _ | .addStage _ _ | .removeStage _ _ | .delete _ => false

end Request

/-- What a request makes of the project under an id at a time, and what it replies. -/
inductive Revision (workshop : Workshop) (stamp : Int) (id : Value) (loaded : Project)
    (time : Moment) : Request → Project → Reply → Prop where
  | update {amendment : Amendment} (writable : amendment.isWritable = true) :
      Revision workshop stamp id loaded time (.update id amendment)
        (loaded.amend amendment time) (.project (loaded.amend amendment time))
  | addStage {placement : Placement} {kind : Kind} {configuration : Config}
      (known : workshop.catalog.lookup placement.type = some kind)
      (passed : Gate.update kind [] placement.configuration = .ok configuration) :
      Revision workshop stamp id loaded time (.addStage id placement)
        (loaded.place (loaded.newStage kind configuration stamp) time)
        (.stage (loaded.newStage kind configuration stamp))
  | removeStage {stageId : Value} :
      Revision workshop stamp id loaded time (.removeStage id stageId)
        (loaded.withoutStage stageId time) (.project (loaded.withoutStage stageId time))

/-- What a request does to a world whose store keeps some projects: what it answers, what is
kept then, and the world that it leaves. -/
inductive Course (workshop : Workshop) (keeping : Keeping) (projects : Ledger Project)
    (world : World) : Request → Except Fault Reply → Ledger Project → World → Prop where
  | failed {request : Request} {fault : Fault} {later : World}
      (same : later.store = world.store) (precedes : world.Precedes later) :
      Course workshop keeping projects world request (.error fault) projects later
  | looked {request : Request} {outcome : Except Fault Reply}
      (reading : request.isReading = true) :
      Course workshop keeping projects world request outcome projects world
  | created {draft : Draft} {project : Project} {created updated : Moment} {later : World}
      (first : world.time? = some created) (second : world.tick.time? = some updated)
      (drafted : workshop.draftProject draft (idText (world.issued + 1)) created updated =
        .ok project)
      (admits : keeping.Admits project)
      (kept : later.store = keeping.store (Ledger.put projects project.id project))
      (precedes : world.tick.tick.Precedes later) (issued : world.issued < later.issued) :
      Course workshop keeping projects world (.create draft) (.ok (.project project))
        (Ledger.put projects project.id project) later
  | revised {request : Request} {id : Value} {loaded saved : Project} {time : Moment}
      {reply : Reply}
      (answered : keeping.answer projects id = .ok loaded) (shown : world.time? = some time)
      (revision : Revision workshop world.stamp id loaded time request saved reply)
      (admits : keeping.Admits saved) :
      Course workshop keeping projects world request (.ok reply)
        (Ledger.put projects saved.id saved)
        { world with
          store := keeping.store (Ledger.put projects saved.id saved)
          clock := world.tick.clock }
  | deleted {id : Value} {project : Project} {later : World}
      (found : Keeping.kept? projects id = some project)
      (kept : later.store = keeping.store (Ledger.erase projects project.id))
      (precedes : world.Precedes later) :
      Course workshop keeping projects world (.delete id) (.ok .done)
        (Ledger.erase projects project.id) later

/-- How a stage is added to a project that was loaded. -/
def placing (placement : Placement) (kind : Kind) (loaded : Project) : Action Stage := do
  let configuration ← Action.ofResult
    ((Gate.update kind [] placement.configuration).mapError Fault.ofGate)
  let stage := loaded.newStage kind configuration (← get).stamp
  let time ← Action.now
  discard (Store.save (loaded.place stage time))
  return stage

theorem perform_placing (placement : Placement) (kind : Kind) (loaded : Project)
    (world : World) :
    (placing placement kind loaded).perform world =
      match Gate.update kind [] placement.configuration with
      | .error fault => (.error (Fault.ofGate fault), world)
      | .ok configuration =>
        let stage := loaded.newStage kind configuration world.stamp
        let performed := (do
          let time ← Action.now
          Store.save (loaded.place stage time)).perform world
        (performed.1.map fun _ => stage, performed.2) := by
  rw [placing, Action.perform_bind, Action.perform_ofResult]
  cases Gate.update kind [] placement.configuration with
  | error fault => rfl
  | ok configuration =>
      simp only [Except.mapError, Action.perform_bind, Action.perform_get, Action.perform_now]
      cases world.time? with
      | none => rfl
      | some time =>
          simp only [Action.perform_discard]
          rcases (Store.save _).perform world.tick with ⟨outcome, later⟩
          cases outcome <;> rfl

section

variable {workshop : Workshop} {keeping : Keeping} {projects : Ledger Project} {world : World}
  (holds : world.store = keeping.store projects)

include holds

/-- What is made with the next reading of the clock is saved. -/
theorem perform_now_save {alter : Moment → Project} {time : Moment}
    (shown : world.time? = some time) (admits : keeping.Admits (alter time)) :
    (do let time ← Action.now; Store.save (alter time)).perform world =
      (.ok (alter time), { world.tick with
        store := keeping.store (Ledger.put projects (alter time).id (alter time)) }) := by
  have ticked : world.tick.store = keeping.store projects := holds
  rw [Action.perform_now_bind shown]
  exact Keeping.perform_save ticked admits

/-- Nothing is saved without a reading of the clock, or when it is not admitted. -/
theorem perform_now_save_cases (alter : Moment → Project) :
    (∃ time, world.time? = some time ∧ keeping.Admits (alter time)) ∨
      ∃ fault, (do let time ← Action.now; Store.save (alter time)).perform world =
        (.error fault, world.tick) := by
  have ticked : world.tick.store = keeping.store projects := holds
  cases shown : world.time? with
  | none =>
      exact .inr ⟨.beyondCalendar, Action.perform_now_bind_of_none shown _⟩
  | some time =>
      by_cases admits : keeping.Admits (alter time)
      · exact .inl ⟨time, rfl, admits⟩
      · obtain ⟨fault, failed⟩ := Keeping.perform_save_of_not_admits ticked admits
        refine .inr ⟨fault, ?_⟩
        rw [Action.perform_now_bind shown]
        exact failed

variable (sound : keeping.Sound projects)

include sound

theorem perform_update (id : Value) (amendment : Amendment) :
    (Workshop.update id amendment).perform world =
      match keeping.answer projects id with
      | .ok loaded =>
        if amendment.isWritable then
          (do let time ← Action.now; Store.save (loaded.amend amendment time)).perform world
        else (.error .tooDeep, world)
      | .error fault => (.error fault, world) := by
  rw [Workshop.update, Action.perform_bind, Keeping.perform_load holds sound]
  cases keeping.answer projects id with
  | error fault => rfl
  | ok loaded =>
      by_cases writable : amendment.isWritable = true
      · simp [writable]
      · simp [writable]

theorem perform_removeStage (id stageId : Value) :
    (Workshop.removeStage id stageId).perform world =
      match keeping.answer projects id with
      | .ok loaded =>
        (do let time ← Action.now; Store.save (loaded.withoutStage stageId time)).perform world
      | .error fault => (.error fault, world) := by
  rw [Workshop.removeStage, Action.perform_bind, Keeping.perform_load holds sound]
  cases keeping.answer projects id <;> rfl

theorem perform_addStage (id : Value) (placement : Placement) :
    (workshop.addStage id placement).perform world =
      match workshop.catalog.lookup placement.type with
      | none => (.error (.typeNotFound (.text placement.type)), world)
      | some kind =>
        match keeping.answer projects id with
        | .error fault => (.error fault, world)
        | .ok loaded =>
          match Gate.update kind [] placement.configuration with
          | .error fault => (.error (Fault.ofGate fault), world)
          | .ok configuration =>
            let stage := loaded.newStage kind configuration world.stamp
            let performed := (do
              let time ← Action.now
              Store.save (loaded.place stage time)).perform world
            (performed.1.map fun _ => stage, performed.2) := by
  rw [Workshop.addStage]
  cases workshop.catalog.lookup placement.type with
  | none => rfl
  | some kind =>
      dsimp only
      rw [Action.perform_bind, Keeping.perform_load holds sound]
      cases keeping.answer projects id with
      | error fault => rfl
      | ok loaded => exact perform_placing placement kind loaded world

omit holds sound in
theorem perform_create (draft : Draft) :
    (workshop.create draft).perform world =
      let numbered : World := { world with issued := world.issued + 1 }
      match world.time? with
      | none => (.error .beyondCalendar, numbered.tick)
      | some createdAt =>
        match world.tick.time? with
        | none => (.error .beyondCalendar, numbered.tick.tick)
        | some updatedAt =>
          match workshop.draftProject draft (idText (world.issued + 1)) createdAt updatedAt with
          | .error issues => (.error (.invalid issues), numbered.tick.tick)
          | .ok project => (Store.save project).perform numbered.tick.tick := by
  let numbered : World := { world with issued := world.issued + 1 }
  rw [Workshop.create, Action.perform_bind, Action.perform_nextId]
  dsimp only
  cases first : world.time? with
  | none =>
      have hidden : numbered.time? = none := first
      exact Action.perform_now_bind_of_none hidden _
  | some createdAt =>
      have shown : numbered.time? = some createdAt := first
      rw [Action.perform_now_bind shown]
      cases second : world.tick.time? with
      | none =>
          have hidden : numbered.tick.time? = none := second
          exact Action.perform_now_bind_of_none hidden _
      | some updatedAt =>
          have shown : numbered.tick.time? = some updatedAt := second
          rw [Action.perform_now_bind shown, Action.perform_bind, Action.perform_ofResult]
          dsimp only
          cases workshop.draftProject draft (idText (world.issued + 1)) createdAt updatedAt <;> rfl

theorem perform_report (id : Value) :
    (workshop.report id).perform world =
      (keeping.answer projects id >>= fun loaded =>
        (Report.make workshop.catalog loaded.flow).mapError .obstacle, world) := by
  rw [Workshop.report, Action.perform_bind, Keeping.perform_load holds sound]
  cases keeping.answer projects id with
  | error fault => rfl
  | ok loaded => exact Action.perform_ofResult _ _

theorem perform_script (id : Value) :
    (workshop.script id).perform world =
      (keeping.answer projects id >>= fun loaded =>
        (Script.make workshop.catalog loaded.flow).mapError .obstacle, world) := by
  rw [Workshop.script, Action.perform_bind, Keeping.perform_load holds sound]
  cases keeping.answer projects id with
  | error fault => rfl
  | ok loaded => exact Action.perform_ofResult _ _

/-- A request takes a course. -/
def Request.HasCourse (workshop : Workshop) (keeping : Keeping) (projects : Ledger Project)
    (world : World) (request : Request) : Prop :=
  ∃ outcome after later, (request.action workshop).perform world = (outcome, later) ∧
    Course workshop keeping projects world request outcome after later

omit sound in
theorem hasCourse_of_revision {request : Request} {id : Value} {loaded : Project}
    {alter : Moment → Project} {form : Project → Reply}
    (performed : (request.action workshop).perform world =
      let saving := (do let time ← Action.now; Store.save (alter time)).perform world
      (saving.1.map form, saving.2))
    (answered : keeping.answer projects id = .ok loaded)
    (revision : ∀ time, Revision workshop world.stamp id loaded time request (alter time)
      (form (alter time))) :
    request.HasCourse workshop keeping projects world := by
  rcases perform_now_save_cases holds alter with ⟨time, shown, admits⟩ | ⟨fault, failed⟩
  · rw [perform_now_save holds shown admits] at performed
    exact ⟨_, _, _, performed, .revised answered shown (revision time) admits⟩
  · rw [failed] at performed
    exact ⟨_, _, _, performed, .failed rfl (.tick world)⟩

omit sound in
theorem hasCourse_create (draft : Draft) :
    (Request.create draft).HasCourse workshop keeping projects world := by
  have performed := Action.perform_map world (workshop.create draft) Reply.project
  rw [perform_create] at performed
  let numbered : World := { world with issued := world.issued + 1 }
  cases first : world.time? with
  | none =>
      simp only [first] at performed
      exact ⟨_, _, _, performed, .failed rfl ⟨rfl, Nat.le_add_right _ 1, Nat.le_succ _⟩⟩
  | some createdAt =>
      have precedes : world.Precedes numbered.tick.tick :=
        ⟨rfl, Nat.le_add_right _ 2, Nat.le_succ _⟩
      cases second : world.tick.time? with
      | none =>
          simp only [first, second] at performed
          exact ⟨_, _, _, performed, .failed rfl precedes⟩
      | some updatedAt =>
          cases drafted : workshop.draftProject draft (idText (world.issued + 1))
              createdAt updatedAt with
          | error issues =>
              simp only [first, second, drafted] at performed
              exact ⟨_, _, _, performed, .failed rfl precedes⟩
          | ok project =>
              simp only [first, second, drafted] at performed
              have kept : numbered.tick.tick.store = keeping.store projects := holds
              by_cases admits : keeping.Admits project
              · rw [Keeping.perform_save kept admits] at performed
                exact ⟨_, _, _, performed, .created first second drafted admits rfl
                  ⟨rfl, Nat.le_refl _, Nat.le_succ _⟩ (Nat.lt_succ_self _)⟩
              · obtain ⟨fault, failed⟩ := Keeping.perform_save_of_not_admits kept admits
                rw [failed] at performed
                exact ⟨_, _, _, performed, .failed rfl precedes⟩

theorem hasCourse_update (id : Value) (amendment : Amendment) :
    (Request.update id amendment).HasCourse workshop keeping projects world := by
  have performed := Action.perform_map world (Workshop.update id amendment) Reply.project
  rw [perform_update holds sound] at performed
  cases answered : keeping.answer projects id with
  | error fault =>
      rw [answered] at performed
      exact ⟨_, _, _, performed, .failed rfl (.refl world)⟩
  | ok loaded =>
      simp only [answered] at performed
      by_cases writable : amendment.isWritable = true
      · rw [if_pos writable] at performed
        exact hasCourse_of_revision holds performed answered fun _ => .update writable
      · rw [if_neg writable] at performed
        exact ⟨_, _, _, performed, .failed rfl (.refl world)⟩

theorem hasCourse_addStage (id : Value) (placement : Placement) :
    (Request.addStage id placement).HasCourse workshop keeping projects world := by
  have performed := Action.perform_map world (workshop.addStage id placement) Reply.stage
  rw [perform_addStage holds sound] at performed
  cases known : workshop.catalog.lookup placement.type with
  | none =>
      rw [known] at performed
      exact ⟨_, _, _, performed, .failed rfl (.refl world)⟩
  | some kind =>
      cases answered : keeping.answer projects id with
      | error fault =>
          simp only [known, answered] at performed
          exact ⟨_, _, _, performed, .failed rfl (.refl world)⟩
      | ok loaded =>
          cases passed : Gate.update kind [] placement.configuration with
          | error fault =>
              simp only [known, answered, passed] at performed
              exact ⟨_, _, _, performed, .failed rfl (.refl world)⟩
          | ok configuration =>
              simp only [known, answered, passed] at performed
              have merged : ∀ result : Except Fault Project,
                  (result.map fun _ =>
                    loaded.newStage kind configuration world.stamp).map Reply.stage =
                  result.map fun _ =>
                    Reply.stage (loaded.newStage kind configuration world.stamp) := by
                intro result
                cases result <;> rfl
              rw [merged] at performed
              exact hasCourse_of_revision holds performed answered fun _ => .addStage known passed

variable (workshop) in
/-- A request on a store that keeps projects takes one of the courses. -/
theorem hasCourse (request : Request) : request.HasCourse workshop keeping projects world := by
  cases request with
  | create draft => exact hasCourse_create holds draft
  | update id amendment => exact hasCourse_update holds sound id amendment
  | addStage id placement => exact hasCourse_addStage holds sound id placement
  | removeStage id stageId =>
      have performed := Action.perform_map world (Workshop.removeStage id stageId) Reply.project
      rw [perform_removeStage holds sound] at performed
      cases answered : keeping.answer projects id with
      | error fault =>
          rw [answered] at performed
          exact ⟨_, _, _, performed, .failed rfl (.refl world)⟩
      | ok loaded =>
          simp only [answered] at performed
          exact hasCourse_of_revision holds performed answered fun _ => .removeStage
  | delete id =>
      have performed := Action.perform_map world (Store.delete id) fun _ => Reply.done
      rw [Keeping.perform_delete holds sound] at performed
      cases found : Keeping.kept? projects id with
      | none =>
          rw [found] at performed
          exact ⟨_, _, _, performed, .failed rfl (.refl world)⟩
      | some project =>
          rw [found] at performed
          exact ⟨_, _, _, performed, .deleted found rfl ⟨rfl, Nat.le_refl _, Nat.le_refl _⟩⟩
  | get id =>
      have performed := Action.perform_map world (Store.load id) Reply.project
      rw [Keeping.perform_load holds sound] at performed
      exact ⟨_, _, _, performed, .looked rfl⟩
  | list user =>
      have performed := Action.perform_map world (Store.list user) Reply.projects
      rw [Keeping.perform_list holds sound] at performed
      exact ⟨_, _, _, performed, .looked rfl⟩
  | report id =>
      have performed := Action.perform_map world (workshop.report id) Reply.report
      rw [perform_report holds sound] at performed
      exact ⟨_, _, _, performed, .looked rfl⟩
  | script id =>
      have performed := Action.perform_map world (workshop.script id) Reply.script
      rw [perform_script holds sound] at performed
      exact ⟨_, _, _, performed, .looked rfl⟩

end

/-! ## What the courses have in common -/

namespace Request

/-- The id under which a request may change something. -/
def place? (issued : Nat) : Request → Option String
  | .create _ => some (idText (issued + 1))
  | .update id _ | .addStage id _ | .removeStage id _ | .delete id => id.asText?
  | .get _ | .list _ | .report _ | .script _ => none

end Request

theorem of_memberOr_eq_ok {name text member : String} {default : Value}
    (done : memberOr name text default = .ok member) :
    (text ≠ "" ∧ member = text) ∨ (text = "" ∧ default.asText? = some member) := by
  have inside := Checked.under_eq_ok_iff.mp done
  by_cases empty : text = ""
  · rw [if_pos empty] at inside
    exact .inr ⟨empty, Checked.text_eq_ok_iff.mp inside⟩
  · rw [if_neg empty] at inside
    cases inside
    exact .inl ⟨empty, rfl⟩

/-- A project from a draft has the given id and moments. -/
theorem exists_of_draftProject {workshop : Workshop} {draft : Draft} {id : String}
    {createdAt updatedAt : Moment} {project : Project}
    (drafted : workshop.draftProject draft id createdAt updatedAt = .ok project) :
    ∃ name userId,
      memberOr "name" (Text.trimText (draft.name.getD "")) workshop.defaultName = .ok name ∧
      memberOr "user_id" (draft.userId.getD "") workshop.defaultUser = .ok userId ∧
      project = {
        id := id
        name := name
        description := draft.description
        flow := draft.flow
        userId := userId
        createdAt := createdAt
        updatedAt := updatedAt } := by
  obtain ⟨⟨name, userId⟩, parts, made⟩ := Checked.bind_eq_ok drafted
  obtain ⟨nameRead, userRead⟩ := Checked.both_eq_ok_iff.mp parts
  exact ⟨name, userId, nameRead, userRead, (Except.ok.inj made).symm⟩

namespace Revision

variable {workshop : Workshop} {stamp : Int} {id : Value} {loaded saved : Project}
  {time : Moment} {request : Request} {reply : Reply}
  (revision : Revision workshop stamp id loaded time request saved reply)

include revision

theorem id_eq : saved.id = loaded.id := by
  cases revision <;> rfl

theorem userId_eq : saved.userId = loaded.userId := by
  cases revision <;> rfl

theorem createdAt_eq : saved.createdAt = loaded.createdAt := by
  cases revision <;> rfl

theorem updatedAt_eq : saved.updatedAt = time := by
  cases revision <;> rfl

theorem place?_eq (issued : Nat) : request.place? issued = id.asText? := by
  cases revision <;> rfl

end Revision

namespace Course

variable {workshop : Workshop} {keeping : Keeping} {projects after : Ledger Project}
  {world later : World} {request : Request} {outcome : Except Fault Reply}
  (course : Course workshop keeping projects world request outcome after later)

include course

theorem holds (held : world.store = keeping.store projects) :
    later.store = keeping.store after := by
  cases course with
  | failed same => exact same.trans held
  | looked => exact held
  | created _ _ _ _ kept => exact kept
  | revised => rfl
  | deleted _ kept => exact kept

theorem sound (before : keeping.Sound projects) : keeping.Sound after := by
  cases course with
  | failed => exact before
  | looked => exact before
  | created _ _ _ admits => exact before.put admits
  | revised _ _ _ admits => exact before.put admits
  | deleted => exact before.erase _

theorem precedes : world.Precedes later := by
  cases course with
  | failed _ precedes => exact precedes
  | looked => exact .refl world
  | created _ _ _ _ _ precedes => exact ((World.Precedes.tick _).trans (.tick _)).trans precedes
  | revised => exact ⟨rfl, Nat.le_succ _, Nat.le_refl _⟩
  | deleted _ _ precedes => exact precedes

/-- What fails or only looks leaves the store as it is. -/
theorem store_eq (idle : request.isReading = true ∨ ∃ fault, outcome = .error fault) :
    later.store = world.store := by
  rcases idle with reading | ⟨fault, rfl⟩
  · cases course with
    | failed same => exact same
    | looked => rfl
    | created => cases reading
    | revised _ _ revision => cases revision <;> cases reading
    | deleted => cases reading
  · cases course with
    | failed same => exact same
    | looked => rfl

/-- Nothing changes under another id than that of the request. -/
theorem get?_eq (before : keeping.Sound projects) {other : String}
    (apart : request.place? world.issued ≠ some other) :
    Ledger.get? after other = Ledger.get? projects other := by
  cases course with
  | failed => rfl
  | looked => rfl
  | created _ _ drafted =>
      obtain ⟨name, userId, _, _, rfl⟩ := exists_of_draftProject drafted
      rw [Ledger.get?_put, if_neg fun same => apart (congrArg some same)]
  | revised answered _ revision =>
      obtain ⟨_, read, _⟩ := Keeping.of_answer_eq_ok before answered
      rw [revision.place?_eq, read, ← revision.id_eq] at apart
      rw [Ledger.get?_put, if_neg fun same => apart (congrArg some same)]
  | deleted found =>
      obtain ⟨text, read, found⟩ := Option.bind_eq_some_iff.mp found
      rw [before.own found, Ledger.get?_erase, if_neg]
      rintro rfl
      exact apart read

end Course

/-- The world after some requests, each at its own time stamp. -/
def after (workshop : Workshop) (steps : List (Int × Request)) (world : World) : World :=
  steps.foldl (fun world step =>
    ((step.2.action workshop).perform { world with stamp := step.1 }).2) world

end Workshop

end StageGraph
