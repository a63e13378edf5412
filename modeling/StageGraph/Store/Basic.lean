import StageGraph.Store.Files

/-!
# Project stores

A store keeps projects under their ids: in memory, or as documents in a
directory.  A store that only lists answers by its list whether it has a project,
and a store out of order fails at everything.  Projects are asked for by any
value, though only texts are ids of projects.  Actions run on a world of a store,
a clock and a supply of ids; a failed action leaves the world as far as it came.
-/

namespace StageGraph

/-- A place where projects are kept. -/
inductive Store where
  | memory (projects : Ledger Project)
  /-- In memory too, but with nothing to ask except for the list. -/
  | listing (projects : Ledger Project)
  | directory (files : Directory)
  | outOfOrder (fault : Fault)

/-- What actions work on. -/
structure World where
  store : Store
  clock : Clock
  /-- How many ids have been handed out. -/
  issued : Nat := 0
  /-- The time stamp for the ids of stages, in milliseconds. -/
  stamp : Int := 0

/-- Hand out the next number of the supply of ids. -/
def World.issue : StateM World Nat := do
  let world ← get
  set { world with issued := world.issued + 1 }
  return world.issued + 1

/-- Something that is done in a world and that may fail. -/
abbrev Action := ExceptT Fault (StateM World)

namespace Action

/-- Read the clock. -/
def now : Action Moment := do
  let world ← get
  let (moment, clock) := world.clock.read
  set { world with clock := clock }
  match moment with
  | some moment => return moment
  | none => throw .beyondCalendar

/-- The next number of the supply of ids. -/
def nextId : Action Nat :=
  ExceptT.lift World.issue

/-- A result that was found in advance. -/
def ofResult {α : Type} (result : Except Fault α) : Action α :=
  match result with
  | .ok value => pure value
  | .error fault => throw fault

end Action

namespace Store

/-- The projects of a user, or all where the user is null, the last changed first; of equals the
first stays first. -/
def newestFirst (projects : List Project) (user : Value) : List Project :=
  (projects.filter fun project =>
    match user with
    | .null => true
    | user => user.agrees (.text project.userId)).mergeSort
      fun left right => right.updatedAt.micros ≤ left.updatedAt.micros

/-- Insert or replace a project. -/
def save (project : Project) : Action Project := do
  let world ← get
  match world.store with
  | .memory projects =>
    set { world with store := .memory (Ledger.put projects project.id project) }
    return project
  | .listing projects =>
    set { world with store := .listing (Ledger.put projects project.id project) }
    return project
  | .directory files =>
    let (result, files) := Files.save files project
    set { world with store := .directory files }
    Action.ofResult result
    return project
  | .outOfOrder fault => throw fault

/-- The project in memory under an id. -/
def find (projects : Ledger Project) (id : Value) : Except Fault Project :=
  match id.asText?.bind (Ledger.get? projects) with
  | some project => .ok project
  | none => .error (if id.isKey then .projectNotFound id else .unusableId)

/-- The projects in memory without one of them. -/
def without (projects : Ledger Project) (id : Value) : Except Fault (Ledger Project) :=
  (find projects id).map fun project => Ledger.erase projects project.id

/-- The project under an id. -/
def load (id : Value) : Action Project := do
  let world ← get
  match world.store with
  | .memory projects | .listing projects => Action.ofResult (find projects id)
  | .directory files =>
    let (result, clock) := Files.load files id world.clock
    set { world with clock := clock }
    Action.ofResult result
  | .outOfOrder fault => throw fault

/-- The projects of a user, or all where the user is null, the last changed first. -/
def list (user : Value := .null) : Action (List Project) := do
  let world ← get
  match world.store with
  | .memory projects | .listing projects => return newestFirst (Ledger.values projects) user
  | .directory files =>
    let (result, clock) := Files.all files world.clock
    set { world with clock := clock }
    return newestFirst (← Action.ofResult result) user
  | .outOfOrder fault => throw fault

/-- Take the project under an id away. -/
def delete (id : Value) : Action Unit := do
  let world ← get
  match world.store with
  | .memory projects =>
    set { world with store := .memory (← Action.ofResult (without projects id)) }
  | .listing projects =>
    set { world with store := .listing (← Action.ofResult (without projects id)) }
  | .directory files =>
    let (result, files) := Files.delete files id
    set { world with store := .directory files }
    Action.ofResult result
  | .outOfOrder fault => throw fault

/-- Whether there is a project under an id. -/
def has (id : Value) : Action Bool := do
  let world ← get
  match world.store with
  | .memory projects =>
    if id.isKey then return id.asText?.any (Ledger.has projects) else throw .unusableId
  | .listing _ => return (← list).any fun project => id.agrees (.text project.id)
  | .directory files => Action.ofResult (Files.exists? files id)
  | .outOfOrder fault => throw fault

end Store

end StageGraph
