import StageGraph.Compiler
import StageGraph.StageId
import StageGraph.Store.Basic

/-!
# Work on stored projects

Projects are created, changed, inspected and compiled in a store.  Every change
loads the project, alters it as a value, and saves the result with the time of
the change; the alterations are plain functions on projects.
-/

namespace StageGraph

namespace Project

/-- A name without outer blanks, or another one when nothing is left of it. -/
def nameOr (name fallback : String) : String :=
  let trimmed := Text.trimText name
  if trimmed = "" then fallback else trimmed

/-- A project with the parts of an amendment in place of its own. -/
def amend (project : Project) (amendment : Amendment) (time : Moment) : Project :=
  { project with
    name := match amendment.name with
      | some name => nameOr name project.name
      | none => project.name
    description := amendment.description.getD project.description
    flow := {
      stages := amendment.stages.getD project.flow.stages
      links := amendment.links.getD project.flow.links }
    updatedAt := time }

/-- A stage of a kind with an id that is new in the project. -/
def newStage (project : Project) (kind : Kind) (configuration : Config) (stamp : Int) : Stage :=
  { id := StageId.generate kind.typeName (project.flow.stages.map Stage.id) (toString stamp)
    type := kind.typeName
    category := kind.phase.text
    configuration := configuration }

/-- A project with one more stage at the end. -/
def place (project : Project) (stage : Stage) (time : Moment) : Project :=
  { project with
    flow := { project.flow with stages := project.flow.stages ++ [stage] }
    updatedAt := time }

/-- A project without a stage and the links that touch it; only a text is the id of a stage. -/
def withoutStage (project : Project) (stageId : Value) (time : Moment) : Project :=
  { project with
    flow := (stageId.asText?.map project.flow.remove).getD project.flow
    updatedAt := time }

end Project

/-- The rules under which projects are made.  A default that is no text serves no project. -/
structure Workshop where
  catalog : Catalog := Catalog.builtin
  defaultName : Value := "ML Pipeline"
  defaultUser : Value := "local"

namespace Workshop

/-- The id of a project as 32 hexadecimal digits. -/
def idText (number : Nat) : String :=
  String.ofList (Text.Quoted.hexDigits 32 number)

/-- A text as the member of a project, or else the default for it. -/
def memberOr (name text : String) (default : Value) : Checked String :=
  Checked.under (.name name) (Checked.text (if text = "" then default else .text text))

/-- A project from a draft. -/
def draftProject (workshop : Workshop) (draft : Draft) (id : String)
    (createdAt updatedAt : Moment) : Checked Project := do
  let (name, userId) ← Checked.both
    (memberOr "name" (Text.trimText (draft.name.getD "")) workshop.defaultName)
    (memberOr "user_id" (draft.userId.getD "") workshop.defaultUser)
  return {
    id := id
    name := name
    description := draft.description
    flow := draft.flow
    userId := userId
    createdAt := createdAt
    updatedAt := updatedAt }

/-- Make a project. -/
def create (workshop : Workshop) (draft : Draft) : Action Project := do
  let id ← Action.nextId
  let createdAt ← Action.now
  let updatedAt ← Action.now
  let project ← Action.ofResult
    ((workshop.draftProject draft (idText id) createdAt updatedAt).mapError .invalid)
  Store.save project

/-- Change parts of a project. -/
def update (id : Value) (amendment : Amendment) : Action Project := do
  let project ← Store.load id
  if !amendment.isWritable then throw .tooDeep
  let time ← Action.now
  Store.save (project.amend amendment time)

/-- Add a stage to a project. -/
def addStage (workshop : Workshop) (id : Value) (placement : Placement) : Action Stage := do
  match workshop.catalog.lookup placement.type with
  | none => throw (.typeNotFound (.text placement.type))
  | some kind =>
    let project ← Store.load id
    let configuration ← Action.ofResult
      ((Gate.update kind [] placement.configuration).mapError Fault.ofGate)
    let stage := project.newStage kind configuration (← get).stamp
    let time ← Action.now
    discard (Store.save (project.place stage time))
    return stage

/-- Remove a stage from a project. -/
def removeStage (id stageId : Value) : Action Project := do
  let project ← Store.load id
  let time ← Action.now
  Store.save (project.withoutStage stageId time)

/-- The report on a project. -/
def report (workshop : Workshop) (id : Value) : Action Report := do
  let project ← Store.load id
  Action.ofResult ((Report.make workshop.catalog project.flow).mapError .obstacle)

/-- The script of a project. -/
def script (workshop : Workshop) (id : Value) : Action Script := do
  let project ← Store.load id
  Action.ofResult ((Script.make workshop.catalog project.flow).mapError .obstacle)

end Workshop

end StageGraph
