import StageGraph.Flow
import StageGraph.Time.Clock
import StageGraph.Time.Reader
import StageGraph.Time.Text

/-!
# Projects

A project is a named flow that belongs to a user, with the moments of its
creation and of its last change.  Beside it stand the data from which projects
are made: a draft, an amendment of some parts, and a placement of one stage.
-/

namespace StageGraph

/-- A stored flow. -/
structure Project where
  id : String
  name : String
  description : String := ""
  flow : Flow := {}
  userId : String
  createdAt : Moment
  updatedAt : Moment

/-- Why given data is no project. -/
inductive ProjectFault where
  | invalid (issues : List Issue)
  /-- A time's offset leads out of the calendar. -/
  | beyondCalendar

namespace Project

/-- The parts of a project that say nothing about time. -/
structure Content where
  name : String
  description : String
  flow : Flow
  id : String
  userId : String

/-- Name, description, flow, id and user among the members of a record, reported in this
order. -/
def readContent (origin : Origin) (entries : Config) : Checked Content := do
  let name := Checked.required entries "name" Checked.text
  let description := Checked.withDefault entries "description" "" Checked.text
  let id := Checked.required entries "id" Checked.text
  let userId := Checked.required entries "user_id" Checked.text
  let (name, description, flow, id, userId) ←
    Checked.both name (Checked.both description (Checked.both (Flow.readMembers origin entries)
      (Checked.both id userId)))
  return { name, description, flow, id, userId }

/-- A moment among the members of a record; one that is missing is read off the clock. -/
def readMoment (entries : Config) (name : String) (clock : Clock) :
    Checked (Option Moment) × Clock :=
  match Ledger.get? entries name with
  | some value =>
    (Checked.under (.name name) ((WrittenTime.read value).map WrittenTime.moment?), clock)
  | none =>
    let (moment, clock) := clock.read
    (.ok moment, clock)

private def assemble (content : Content) (createdAt updatedAt : Moment) : Project :=
  { id := content.id
    name := content.name
    description := content.description
    flow := content.flow
    userId := content.userId
    createdAt := createdAt
    updatedAt := updatedAt }

/-- A project from given data.  A time beyond the calendar ends the reading at once. -/
def read (origin : Origin) (value : Value) (clock : Clock) :
    Except ProjectFault Project × Clock :=
  match Checked.model origin "Project" value with
  | .error issues => (.error (.invalid issues), clock)
  | .ok entries =>
    match readMoment entries "created_at" clock with
    | (.ok none, clock) => (.error .beyondCalendar, clock)
    | (created, clock) =>
      match readMoment entries "updated_at" clock with
      | (.ok none, clock) => (.error .beyondCalendar, clock)
      | (updated, clock) =>
        match Checked.both (readContent origin entries) (Checked.both created updated) with
        | .ok (content, some createdAt, some updatedAt) =>
          (.ok (assemble content createdAt updatedAt), clock)
        | .ok _ => (.error .beyondCalendar, clock)
        | .error issues => (.error (.invalid issues), clock)

/-- Whether the project can be written. -/
def isWritable (project : Project) : Bool :=
  project.flow.isWritable

/-- A project as a document. -/
def toValue (project : Project) : Value :=
  .record [
    ("name", .text project.name), ("description", .text project.description),
    ("nodes", .list (project.flow.stages.map Stage.toValue)),
    ("edges", .list (project.flow.links.map Link.toValue)),
    ("id", .text project.id), ("user_id", .text project.userId),
    ("created_at", .text project.createdAt.text), ("updated_at", .text project.updatedAt.text)]

end Project

/-- What a new project is made from. -/
structure Draft where
  name : Option String := none
  description : String := ""
  flow : Flow := {}
  userId : Option String := none

/-- A draft from given data. -/
def Draft.read (origin : Origin) (value : Value) : Checked Draft := do
  let entries ← Checked.model origin "ProjectCreate" value
  let name := Checked.withDefault entries "name" none (Checked.optional Checked.text)
  let description := Checked.withDefault entries "description" "" Checked.text
  let userId := Checked.withDefault entries "user_id" none (Checked.optional Checked.text)
  let (name, description, flow, userId) ←
    Checked.both name (Checked.both description
      (Checked.both (Flow.readMembers origin entries) userId))
  return { name, description, flow, userId }

/-- The parts of a project that change; the others stay. -/
structure Amendment where
  name : Option String := none
  description : Option String := none
  stages : Option (List Stage) := none
  links : Option (List Link) := none

/-- Whether the amendment can be written. -/
def Amendment.isWritable (amendment : Amendment) : Bool :=
  (amendment.stages.getD []).all Stage.isWritable

/-- An amendment from given data. -/
def Amendment.read (origin : Origin) (value : Value) : Checked Amendment := do
  let entries ← Checked.model origin "ProjectUpdate" value
  let name := Checked.withDefault entries "name" none (Checked.optional Checked.text)
  let description :=
    Checked.withDefault entries "description" none (Checked.optional Checked.text)
  let stages := Checked.withDefault entries "nodes" none
    (Checked.optional (Checked.list (Stage.read origin)))
  let links := Checked.withDefault entries "edges" none
    (Checked.optional (Checked.list (Link.read origin)))
  let (name, description, stages, links) ←
    Checked.both name (Checked.both description (Checked.both stages links))
  return { name, description, stages, links }

/-- A stage to be placed: its type and what its configuration starts with. -/
structure Placement where
  type : String
  configuration : Config := []

/-- A placement from given data. -/
def Placement.read (origin : Origin) (value : Value) : Checked Placement := do
  let entries ← Checked.model origin "NodeCreate" value
  let type := Checked.required entries "type" Checked.text
  let configuration := Checked.withDefault entries "configuration" [] Checked.record
  let (type, configuration) ← Checked.both type configuration
  return { type, configuration }

end StageGraph
