import StageGraph.Proofs.Workshop.Course

/-!
# Editing keeps flows well-formed

In a well-formed flow no two stages share an id and every link joins two of the stages.
A new stage gets an id that no stage has, however often the same time stamp comes again,
and a stage that is removed takes the links that touch it along.  So whatever is added
to a stored project and removed from it, its flow stays well-formed.
-/

namespace StageGraph

/-- No two stages share an id, and every link joins two of the stages. -/
structure Flow.WellFormed (flow : Flow) : Prop where
  distinct : (flow.stages.map Stage.id).Nodup
  sources : ∀ link ∈ flow.links, link.source ∈ flow.stages.map Stage.id
  targets : ∀ link ∈ flow.links, link.target ∈ flow.stages.map Stage.id

namespace Flow

variable {flow : Flow}

theorem WellFormed.append (wellFormed : flow.WellFormed) {stage : Stage}
    (fresh : stage.id ∉ flow.stages.map Stage.id) :
    WellFormed { flow with stages := flow.stages ++ [stage] } := by
  have kept : ∀ id ∈ flow.stages.map Stage.id, id ∈ (flow.stages ++ [stage]).map Stage.id := by
    intro id member
    rw [List.map_append]
    exact List.mem_append_left _ member
  constructor
  · rw [List.map_append, List.map_singleton]
    refine List.nodup_append.mpr ⟨wellFormed.distinct, List.nodup_singleton _, ?_⟩
    rintro id member _ last rfl
    exact fresh (List.mem_singleton.mp last ▸ member)
  · exact fun link member => kept _ (wellFormed.sources link member)
  · exact fun link member => kept _ (wellFormed.targets link member)

theorem mem_links_remove_iff {id : String} {link : Link} :
    link ∈ (flow.remove id).links ↔ link ∈ flow.links ∧ link.source ≠ id ∧ link.target ≠ id := by
  simp [remove, touches]

theorem mem_ids_remove {id other : String} (member : other ∈ flow.stages.map Stage.id)
    (different : other ≠ id) : other ∈ (flow.remove id).stages.map Stage.id := by
  obtain ⟨stage, among, rfl⟩ := List.mem_map.mp member
  exact List.mem_map.mpr ⟨stage, List.mem_filter.mpr ⟨among, decide_eq_true different⟩, rfl⟩

theorem WellFormed.remove (wellFormed : flow.WellFormed) (id : String) :
    (flow.remove id).WellFormed := by
  constructor
  · exact wellFormed.distinct.sublist (List.filter_sublist.map _)
  · intro link member
    obtain ⟨among, notSource, _⟩ := mem_links_remove_iff.mp member
    exact mem_ids_remove (wellFormed.sources link among) notSource
  · intro link member
    obtain ⟨among, _, notTarget⟩ := mem_links_remove_iff.mp member
    exact mem_ids_remove (wellFormed.targets link among) notTarget

/-- A flow that is recalled is as well-formed as the flow that was saved. -/
theorem Recalls.wellFormed {saved read : Flow} (recalls : Recalls saved read)
    (wellFormed : saved.WellFormed) : read.WellFormed := by
  constructor
  · rw [recalls.map_id]
    exact wellFormed.distinct
  · intro link member
    have source : link.source ∈ read.links.map Link.source := List.mem_map_of_mem member
    rw [recalls.map_source] at source
    obtain ⟨other, among, same⟩ := List.mem_map.mp source
    rw [recalls.map_id, ← same]
    exact wellFormed.sources other among
  · intro link member
    have target : link.target ∈ read.links.map Link.target := List.mem_map_of_mem member
    rw [recalls.map_target] at target
    obtain ⟨other, among, same⟩ := List.mem_map.mp target
    rw [recalls.map_id, ← same]
    exact wellFormed.targets other among

end Flow

namespace Project

/-- The id of a new stage is new in the project. -/
theorem newStage_id_not_mem (project : Project) (kind : Kind) (configuration : Config)
    (stamp : Int) :
    (project.newStage kind configuration stamp).id ∉ project.flow.stages.map Stage.id :=
  Fresh.pick_not_mem _ _

theorem withoutStage_flow (project : Project) (stageId : Value) (time : Moment) :
    (project.withoutStage stageId time).flow =
      { stages := project.flow.stages.filter fun stage => stageId.asText? ≠ some stage.id
        links := project.flow.links.filter fun link =>
          stageId.asText? ≠ some link.source && stageId.asText? ≠ some link.target } := by
  rw [withoutStage]
  cases stageId.asText? with
  | none => simp
  | some id =>
      simp [Flow.remove, Flow.touches, @eq_comm _ id]

theorem isWritable_withoutStage {project : Project} (writable : project.isWritable = true)
    (stageId : Value) (time : Moment) : (project.withoutStage stageId time).isWritable = true := by
  rw [isWritable, Flow.isWritable, List.all_eq_true] at writable ⊢
  rw [withoutStage_flow]
  intro stage member
  exact writable stage (List.mem_of_mem_filter member)

end Project

namespace Workshop

/-- A change of the stages of a project. -/
inductive Edit where
  | add (placement : Placement)
  | remove (stageId : Value)

namespace Edit

/-- The request for an edit of the project under an id. -/
def request (id : String) : Edit → Request
  | .add placement => .addStage (.text id) placement
  | .remove stageId => .removeStage (.text id) stageId

/-- What an edit makes of the project that is loaded: one stage more, at the end and with a
new id, or no stage of an id and no link that touches it. -/
def Makes (loaded saved : Project) (reply : Reply) : Edit → Prop
  | .add _ => ∃ stage, reply = .stage stage ∧ stage.id ∉ loaded.flow.stages.map Stage.id ∧
      saved.flow = { loaded.flow with stages := loaded.flow.stages ++ [stage] }
  | .remove stageId => reply = .project saved ∧ saved.flow = {
      stages := loaded.flow.stages.filter fun stage => stageId.asText? ≠ some stage.id
      links := loaded.flow.links.filter fun link =>
        stageId.asText? ≠ some link.source && stageId.asText? ≠ some link.target }

/-- The edit of the project under an id fails, and the store stays as it is. -/
def Fails (workshop : Workshop) (id : String) (world : World) (edit : Edit) : Prop :=
  ∃ fault later, ((edit.request id).action workshop).perform world = (.error fault, later) ∧
    later.store = world.store

/-- The project under an id is loaded, and kept as what the edit makes of it. -/
def Succeeds (workshop : Workshop) (keeping : Keeping) (id : String) (world : World)
    (edit : Edit) : Prop :=
  ∃ loaded saved reply later, ((Store.load (.text id)).perform world).1 = .ok loaded ∧
    ((edit.request id).action workshop).perform world = (.ok reply, later) ∧
    keeping.Keeps later id saved ∧ edit.Makes loaded saved reply

variable {workshop : Workshop} {keeping : Keeping} {world : World} {id : String}
  {stored loaded saved : Project} {reply : Reply} {edit : Edit}

theorem Makes.wellFormed (makes : edit.Makes loaded saved reply)
    (wellFormed : loaded.flow.WellFormed) : saved.flow.WellFormed := by
  cases edit with
  | add placement =>
      obtain ⟨stage, _, fresh, made⟩ := makes
      rw [made]
      exact wellFormed.append fresh
  | remove stageId =>
      have made : saved.flow = (loaded.withoutStage stageId loaded.updatedAt).flow :=
        makes.2.trans (loaded.withoutStage_flow stageId loaded.updatedAt).symm
      rw [made, Project.withoutStage]
      cases stageId.asText? with
      | none => exact wellFormed
      | some id => exact wellFormed.remove id

theorem fails_or_succeeds (keeps : keeping.Keeps world id stored) (edit : Edit) :
    edit.Fails workshop id world ∨ edit.Succeeds workshop keeping id world := by
  have loading := keeps.perform_load
  obtain ⟨projects, holds, sound, found⟩ := keeps
  have kept : Keeping.kept? projects (.text id) = some stored := found
  obtain ⟨outcome, after, later, performed, course⟩ :=
    hasCourse workshop holds sound (edit.request id)
  have laterHolds := course.holds holds
  have laterSound := course.sound sound
  generalize named : edit.request id = request at performed course
  cases course with
  | failed same =>
      subst named
      exact .inl ⟨_, _, performed, same⟩
  | looked reading => cases edit <;> cases named <;> cases reading
  | created => cases edit <;> cases named
  | deleted => cases edit <;> cases named
  | @revised _ _ loaded saved time reply answered _ revision =>
      have makes : keeping.answer projects (.text id) = .ok loaded ∧
          edit.Makes loaded saved reply := by
        cases edit with
        | add placement =>
            cases named
            cases revision with
            | addStage known passed =>
                exact ⟨answered, _, rfl, loaded.newStage_id_not_mem _ _ _, rfl⟩
        | remove stageId =>
            cases named
            cases revision with
            | removeStage => exact ⟨answered, rfl, loaded.withoutStage_flow stageId time⟩
      obtain ⟨answered, makes⟩ := makes
      obtain ⟨_, read, _, _⟩ := Keeping.of_answer_eq_ok sound answered
      obtain rfl : id = saved.id := (Option.some.inj read).trans revision.id_eq.symm
      rw [Keeping.answer, kept] at answered
      subst named
      refine .inr ⟨loaded, saved, reply, _, ?_, performed, ?_, makes⟩
      · rw [loading]
        exact answered
      · exact ⟨_, laterHolds, laterSound, by rw [Ledger.get?_put, if_pos rfl]⟩

/-- A removal succeeds whenever the project can be loaded and the clock shows a time. -/
theorem remove_succeeds (keeps : keeping.Keeps world id stored) {time : Moment}
    (given : ((Store.load (.text id)).perform world).1 = .ok loaded)
    (shown : world.time? = some time) (stageId : Value) :
    (Edit.remove stageId).Succeeds workshop keeping id world := by
  refine (fails_or_succeeds keeps (.remove stageId)).resolve_left ?_
  rintro ⟨fault, later, failed, _⟩
  rw [keeps.perform_load] at given
  dsimp only at given
  obtain ⟨projects, holds, sound, found⟩ := keeps
  have kept : Keeping.kept? projects (.text id) = some stored := found
  have recalls := Keeping.recalls_of_giveBack given
  have admits : keeping.Admits (loaded.withoutStage stageId time) := by
    have before := sound.admitted found
    cases keeping with
    | memory => exact trivial
    | listing => exact trivial
    | directory =>
        have sameId : (loaded.withoutStage stageId time).id = stored.id := recalls.id
        have writable := recalls.flow.isWritable before.writable
        constructor
        · rw [sameId]
          exact before.safe
        · rw [sameId]
          exact before.short
        · exact Project.isWritable_withoutStage writable stageId time
  have performed := Action.perform_map world (Workshop.removeStage (.text id) stageId)
    Reply.project
  rw [perform_removeStage holds sound, Keeping.answer, kept] at performed
  dsimp only at performed
  rw [given] at performed
  dsimp only at performed
  rw [perform_now_save holds shown admits] at performed
  cases failed.symm.trans performed

end Edit

/-- The world after some edits of the project under an id, each at its own time stamp. -/
def edited (workshop : Workshop) (id : String) (steps : List (Int × Edit)) (world : World) :
    World :=
  workshop.after (steps.map fun step => (step.1, step.2.request id)) world

variable {keeping : Keeping} {world : World} {id : String} {stored : Project}

theorem exists_keeps_edited (keeps : keeping.Keeps world id stored)
    (wellFormed : stored.flow.WellFormed) (workshop : Workshop) (steps : List (Int × Edit)) :
    ∃ current, keeping.Keeps (edited workshop id steps world) id current ∧
      current.flow.WellFormed := by
  induction steps generalizing world stored with
  | nil => exact ⟨stored, keeps, wellFormed⟩
  | cons step steps induction =>
      have stamped : keeping.Keeps { world with stamp := step.1 } id stored :=
        keeps.of_same_store rfl
      rw [edited, List.map_cons, after, List.foldl_cons, ← after, ← edited]
      rcases Edit.fails_or_succeeds stamped step.2 with
        ⟨_, _, performed, same⟩ | ⟨loaded, saved, _, _, given, performed, kept, makes⟩
      · rw [performed]
        exact induction (stamped.of_same_store same) wellFormed
      · rw [stamped.perform_load] at given
        rw [performed]
        have recalls := Keeping.recalls_of_giveBack given
        exact induction kept (makes.wellFormed (recalls.flow.wellFormed wellFormed))

/-- Whatever edits a stored project has gone through, its flow is well-formed, also when it
is loaded, and the next edit fails or makes of it what it is to make.  A removal does not
fail when the project can be loaded and the clock shows a time. -/
theorem edited_wellFormed (keeps : keeping.Keeps world id stored)
    (wellFormed : stored.flow.WellFormed) (workshop : Workshop) (steps : List (Int × Edit)) :
    (∃ current, keeping.Keeps (edited workshop id steps world) id current ∧
      current.flow.WellFormed) ∧
    ∀ (stamp : Int) (edit : Edit),
      let before := { edited workshop id steps world with stamp := stamp }
      (∀ loaded, ((Store.load (.text id)).perform before).1 = .ok loaded →
        loaded.flow.WellFormed) ∧
      (edit.Fails workshop id before ∨ edit.Succeeds workshop keeping id before) ∧
      ∀ stageId loaded time, edit = .remove stageId →
        ((Store.load (.text id)).perform before).1 = .ok loaded → before.time? = some time →
        edit.Succeeds workshop keeping id before := by
  obtain ⟨current, currentKeeps, currentWellFormed⟩ :=
    exists_keeps_edited keeps wellFormed workshop steps
  refine ⟨⟨current, currentKeeps, currentWellFormed⟩, ?_⟩
  intro stamp edit before
  have beforeKeeps : keeping.Keeps before id current := currentKeeps.of_same_store rfl
  refine ⟨?_, Edit.fails_or_succeeds beforeKeeps edit, ?_⟩
  · intro loaded found
    rw [beforeKeeps.perform_load] at found
    exact (Keeping.recalls_of_giveBack found).flow.wellFormed currentWellFormed
  · rintro stageId loaded time rfl given shown
    exact Edit.remove_succeeds beforeKeeps given shown stageId

/-- Two stages come at one time stamp, and the first of all is removed. -/
def sampleEdits : List (Int × Edit) :=
  [(0, .add { type := TypeName.ingest }), (0, .add { type := TypeName.ingest }),
    (0, .remove "load")]

/-- A stage that is linked with another one, and that one with itself. -/
def linkedProject : Project :=
  { Files.sample "a-1" with
    flow := {
      stages := [{ id := "load", type := TypeName.ingest },
        { id := "clean", type := TypeName.preprocess }]
      links := [Link.make "" "load" "clean", Link.make "" "clean" "clean"] } }

theorem wellFormed_linkedProject : linkedProject.flow.WellFormed := by
  constructor <;> decide

/-- The linked stages in memory, and a clock that stands still. -/
def linkedWorld : World :=
  { store := .memory [("a-1", linkedProject)]
    clock := { course := fun _ => some linkedProject.updatedAt } }

theorem keeps_linkedWorld : Keeping.memory.Keeps linkedWorld "a-1" linkedProject := by
  have admits : Keeping.memory.Admits linkedProject := trivial
  exact ⟨Ledger.put [] "a-1" linkedProject, rfl, (Keeping.Sound.nil .memory).put admits, rfl⟩

/-- The ids of the stages of a project, and the ends of its links. -/
def outline (project : Project) : List String × List (String × String) :=
  (project.flow.stages.map Stage.id,
    project.flow.links.map fun link => (link.source, link.target))

/-- The outlines of the projects in memory. -/
def outlines : Store → List (List String × List (String × String))
  | .memory projects => (Ledger.values projects).map outline
  | _ => []

theorem outlines_edited_linkedWorld :
    outlines (edited {} "a-1" sampleEdits linkedWorld).store =
      [(["clean", "ingestNode-0", "ingestNode-0-1"], [("clean", "clean")])] := by
  decide +kernel

theorem sampleEdits_wellFormed :
    Keeping.memory.Keeps linkedWorld "a-1" linkedProject ∧ linkedProject.flow.WellFormed ∧
      ∃ current,
        Keeping.memory.Keeps (edited {} "a-1" sampleEdits linkedWorld) "a-1" current ∧
        current.flow.WellFormed ∧
        current.flow.stages.map Stage.id = ["clean", "ingestNode-0", "ingestNode-0-1"] ∧
        current.flow.links.map (fun link => (link.source, link.target)) =
          [("clean", "clean")] := by
  obtain ⟨current, keeps, wellFormed⟩ :=
    (edited_wellFormed keeps_linkedWorld wellFormed_linkedProject {} sampleEdits).1
  have ⟨projects, holds, _, found⟩ := keeps
  have member : outline current ∈ outlines (edited {} "a-1" sampleEdits linkedWorld).store := by
    rw [holds]
    exact List.mem_map_of_mem (List.mem_map_of_mem (Ledger.mem_of_get?_eq_some found))
  rw [outlines_edited_linkedWorld, List.mem_singleton] at member
  obtain ⟨stages, links⟩ := Prod.mk.inj member
  exact ⟨keeps_linkedWorld, wellFormed_linkedProject, current, keeps, wellFormed, stages, links⟩

end Workshop

end StageGraph
