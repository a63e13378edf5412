import StageGraph.Proofs.Gate.Branches
import StageGraph.Proofs.Workshop.Course

/-!
# A placed stage has what was asked for

A stage that is placed in a project passes the gate, which completes its configuration and
sets back what does not fit.  The compiler completes a configuration too, and does so
without asking whether it fits.  For the built-in types both come to the same: the stage is
kept with the configuration that the compiler would have made of what was given, and its
code is the code of what was given.
-/

namespace StageGraph

namespace Workshop

/-- Whatever stage is placed in the project under an id, it is one of the kind with the given
configuration completed, it has the code of what was given, and it is kept at the end of the
project. -/
def PlacesCompleted (workshop : Workshop) (keeping : Keeping) (kind : Kind) (id : String)
    (world : World) (placement : Placement) : Prop :=
  ∀ stage later,
    ((Request.addStage (.text id) placement).action workshop).perform world =
      (.ok (.stage stage), later) →
    stage.type = kind.typeName ∧ stage.configuration = kind.effective placement.configuration ∧
      kind.render stage.configuration = kind.render placement.configuration ∧
      ∃ saved, keeping.Keeps later id saved ∧ saved.flow.stages.getLast? = some stage

variable {workshop : Workshop} {keeping : Keeping} {world : World} {id : String}
  {stored : Project} {placement : Placement} {kind : Kind}

theorem placesCompleted (builtin : kind ∈ Catalog.builtinKinds)
    (known : workshop.catalog.lookup placement.type = some kind)
    (keeps : keeping.Keeps world id stored) :
    workshop.PlacesCompleted keeping kind id world placement := by
  intro stage later placed
  obtain ⟨projects, holds, sound, found⟩ := keeps
  obtain ⟨outcome, after, left, performed, course⟩ :=
    hasCourse workshop holds sound (.addStage (.text id) placement)
  obtain ⟨rfl, rfl⟩ := Prod.mk.inj (performed.symm.trans placed)
  have laterHolds := course.holds holds
  have laterSound := course.sound sound
  cases course with
  | looked reading => cases reading
  | @revised _ _ loaded _ time _ answered _ revision =>
      obtain ⟨_, read, _, _⟩ := Keeping.of_answer_eq_ok sound answered
      cases revision with
      | addStage otherKnown passed =>
          obtain rfl := Option.some.inj (known.symm.trans otherKnown)
          obtain rfl := Gate.update_nil_eq_ok builtin passed
          obtain rfl : id = loaded.id := Option.some.inj read
          let saved := loaded.place
            (loaded.newStage kind (kind.effective placement.configuration) world.stamp) time
          have kept : keeping.Keeps _ loaded.id saved :=
            ⟨_, laterHolds, laterSound, (Ledger.get?_put ..).trans (if_pos rfl)⟩
          have rendered := Kind.render_effective (Catalog.steady_builtin builtin
            placement.configuration)
          exact ⟨rfl, rfl, rendered, saved, kept,
            List.getLast?_concat⟩

end Workshop

namespace Gate

variable {kind : Kind}

/-- What the gate lets pass for a new stage of a built-in type is what is given, completed,
and it has the same code; and so is every stage that a workshop places. -/
theorem apply_null_eq_effective (builtin : kind ∈ Catalog.builtinKinds) :
    (∀ type updates config, kind? Catalog.builtin type = some kind →
      apply Catalog.builtin type .null (.record updates) = .ok config →
        config = kind.effective updates ∧ kind.render config = kind.render updates) ∧
    ∀ (workshop : Workshop) keeping world id stored placement,
      workshop.catalog.lookup placement.type = some kind →
      keeping.Keeps world id stored →
        workshop.PlacesCompleted keeping kind id world placement := by
  constructor
  · intro type updates config known passed
    have emptyNodup : (Ledger.keys ((none : Option Config).getD [])).Nodup := List.nodup_nil
    have merged := (apply_eq_update known emptyNodup updates).symm.trans passed
    obtain rfl := update_nil_eq_ok builtin merged
    exact ⟨rfl, Kind.render_effective (Catalog.steady_builtin builtin updates)⟩
  · intro workshop keeping world id stored placement known keeps
    exact Workshop.placesCompleted builtin known keeps

/-- An evaluation of a regression, with nothing said about the metrics. -/
def regressing : Config :=
  [("evaluationType", "Regression")]

/-- A project in memory, and a clock that stands still. -/
def rememberedWorld : World :=
  { store := .memory [("a-1", Files.sample "a-1")]
    clock := { course := fun _ => some (Files.sample "a-1").updatedAt } }

theorem holds_rememberedWorld :
    rememberedWorld.store = Keeping.memory.store (Ledger.put [] "a-1" (Files.sample "a-1")) :=
  rfl

theorem sound_rememberedWorld :
    Keeping.memory.Sound (Ledger.put [] "a-1" (Files.sample "a-1")) := by
  have admits : Keeping.memory.Admits (Files.sample "a-1") := trivial
  exact (Keeping.Sound.nil .memory).put admits

theorem evaluation_builtin : Kind.evaluation ∈ Catalog.builtinKinds :=
  List.mem_of_getElem? (i := 7) rfl

theorem regressing_passed :
    update .evaluation [] regressing = .ok (Kind.evaluation.effective regressing) :=
  update_nil_of_issues evaluation_builtin rfl

theorem rememberedWorld_places : ∃ stage later, ((Workshop.Request.addStage "a-1"
    { type := "evaluationNode", configuration := regressing }).action {}).perform
      rememberedWorld = (.ok (.stage stage), later) := by
  have known : ({} : Workshop).catalog.lookup "evaluationNode" = some .evaluation := rfl
  have answered : Keeping.memory.answer (Ledger.put [] "a-1" (Files.sample "a-1")) "a-1" =
      .ok (Files.sample "a-1") := rfl
  have shown : rememberedWorld.time? = some (Files.sample "a-1").updatedAt := rfl
  rw [Workshop.Request.action, Action.perform_map,
    Workshop.perform_addStage holds_rememberedWorld sound_rememberedWorld]
  simp only [known, answered, regressing_passed]
  rw [Workshop.perform_now_save holds_rememberedWorld shown trivial]
  exact ⟨_, _, rfl⟩

theorem apply_regressing_eq_effective :
    (∃ config, apply Catalog.builtin "evaluationNode" .null (.record regressing) = .ok config ∧
      config = Kind.evaluation.effective regressing ∧
      Kind.evaluation.render config = Kind.evaluation.render regressing) ∧
    ({} : Workshop).PlacesCompleted .memory .evaluation "a-1" rememberedWorld
      { type := "evaluationNode", configuration := regressing } ∧
    ∃ stage later, ((Workshop.Request.addStage "a-1"
        { type := "evaluationNode", configuration := regressing }).action {}).perform
          rememberedWorld = (.ok (.stage stage), later) := by
  obtain ⟨applied, placed⟩ := apply_null_eq_effective evaluation_builtin
  have emptyNodup : (Ledger.keys ((none : Option Config).getD [])).Nodup := List.nodup_nil
  have passed : apply Catalog.builtin "evaluationNode" .null (.record regressing) =
      .ok (Kind.evaluation.effective regressing) :=
    (apply_eq_update rfl emptyNodup regressing).trans regressing_passed
  have keeps : Keeping.memory.Keeps rememberedWorld "a-1" (Files.sample "a-1") :=
    ⟨_, holds_rememberedWorld, sound_rememberedWorld, rfl⟩
  exact ⟨⟨_, passed, applied _ _ _ rfl passed⟩,
    placed {} .memory rememberedWorld "a-1" _ _ rfl keeps, rememberedWorld_places⟩

end Gate

end StageGraph
