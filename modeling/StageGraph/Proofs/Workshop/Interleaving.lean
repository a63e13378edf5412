import StageGraph.Proofs.Workshop.Editing

/-!
# Additions that interleave

To add a stage a client loads the project, and later saves it with the stage.  The store
protects each of the two steps, and nothing protects what lies between them: a client
saves what it has loaded, with its own stage behind, whatever was saved meanwhile.  So it
is the order of the steps that settles which additions survive.  `Versions` tells them
from the order alone, for any number of clients, and the project that is kept has grown
by the stages of just these clients.  Of two clients that both return, the additions of
both survive exactly when one call is over before the other begins.
-/

namespace StageGraph

/-! ## Projects that grow -/

/-- A project that grows out of another one: stages are added to it one after the other,
each to what the store gives back, and under an id that is new there. -/
inductive Keeping.Grows (keeping : Keeping) (base : Project) : List Stage → Project → Prop where
  | start : Grows keeping base [] base
  | place {stages : List Stage} {earlier loaded : Project} {stage : Stage} {time : Moment}
      (grows : Grows keeping base stages earlier)
      (given : keeping.giveBack earlier = .ok loaded)
      (new : stage.id ∉ loaded.flow.stages.map Stage.id) :
      Grows keeping base (stages ++ [stage]) (loaded.place stage time)

namespace Keeping.Grows

variable {keeping : Keeping} {base current loaded : Project} {stages : List Stage}

theorem map_id (grows : keeping.Grows base stages current) :
    current.flow.stages.map Stage.id =
      base.flow.stages.map Stage.id ++ stages.map Stage.id := by
  induction grows with
  | start => simp
  | place _ given _ induction =>
      have recalled := (recalls_of_giveBack given).flow.map_id
      simp [Project.place, recalled, induction]

theorem map_id_loaded (grows : keeping.Grows base stages current)
    (given : keeping.giveBack current = .ok loaded) :
    loaded.flow.stages.map Stage.id =
      base.flow.stages.map Stage.id ++ stages.map Stage.id := by
  rw [(recalls_of_giveBack given).flow.map_id, grows.map_id]

/-- The stages that were added differ in their ids. -/
theorem nodup (grows : keeping.Grows base stages current) : (stages.map Stage.id).Nodup := by
  induction grows with
  | start => exact List.nodup_nil
  | place grows given new induction =>
      rw [grows.map_id_loaded given, List.mem_append, not_or] at new
      rw [List.map_append, List.map_singleton]
      refine List.nodup_append.mpr ⟨induction, List.nodup_singleton _, ?_⟩
      rintro id member _ last rfl
      exact new.2 (List.mem_singleton.mp last ▸ member)

end Keeping.Grows

theorem Keeping.Keeps.id_loaded {keeping : Keeping} {world : World} {id : String}
    {project loaded : Project} (keeps : keeping.Keeps world id project)
    (given : keeping.giveBack project = .ok loaded) : loaded.id = id := by
  obtain ⟨projects, _, sound, found⟩ := keeps
  exact (recalls_of_giveBack given).id.trans (sound.own found)

namespace Workshop

/-! ## A call in two parts -/

/-- A call that is to add a stage. -/
structure Addition where
  workshop : Workshop
  placement : Placement

namespace Addition

/-- The call up to its look at the store. -/
def opening (addition : Addition) (id : Value) : Action (Kind × Project) :=
  match addition.workshop.catalog.lookup addition.placement.type with
  | none => throw (.typeNotFound (.text addition.placement.type))
  | some kind => do return (kind, ← Store.load id)

/-- What is left of the call then is to place a stage in what was found. -/
theorem addStage_eq (addition : Addition) (id : Value) :
    addition.workshop.addStage id addition.placement =
      addition.opening id >>= fun found => placing addition.placement found.1 found.2 := by
  rw [Workshop.addStage, opening]
  cases addition.workshop.catalog.lookup addition.placement.type with
  | none => rfl
  | some kind =>
      simp only [bind_assoc, pure_bind]
      rfl

/-- How far a call has come. -/
inductive Stand where
  | waiting
  | holding (kind : Kind) (loaded : Project)
  | returned (stage : Stage)
  | failed (fault : Fault)

namespace Stand

/-- The next part of a call, and how far the call has come with it. -/
def next (addition : Addition) (id : Value) : Stand → Action Stand
  | .waiting => do
    let (kind, loaded) ← addition.opening id
    return .holding kind loaded
  | .holding kind loaded => do return .returned (← placing addition.placement kind loaded)
  | .returned stage => return .returned stage
  | .failed fault => throw fault

/-- A fault ends a call too. -/
def ofOutcome : Except Fault Stand → Stand
  | .ok stand => stand
  | .error fault => .failed fault

/-- The id of the stage that a call has returned. -/
def id? : Stand → Option String
  | .returned stage => some stage.id
  | _ => none

theorem of_id?_eq_some {stand : Stand} {id : String} (found : stand.id? = some id) :
    ∃ stage, stand = .returned stage ∧ stage.id = id := by
  cases stand with
  | returned stage => exact ⟨stage, rfl, Option.some.inj found⟩
  | waiting | holding | failed => cases found

/-- A call that is over. -/
def IsOver (stand : Stand) : Prop :=
  (∃ stage, stand = .returned stage) ∨ ∃ fault, stand = .failed fault

theorem perform_next_waiting (addition : Addition) (id : Value) (world : World) :
    (waiting.next addition id).perform world =
      (((addition.opening id).perform world).1.map fun found => holding found.1 found.2,
        ((addition.opening id).perform world).2) :=
  Action.perform_map world (addition.opening id) fun found => holding found.1 found.2

theorem perform_next_holding (addition : Addition) (id : Value) (kind : Kind)
    (loaded : Project) (world : World) :
    ((holding kind loaded).next addition id).perform world =
      (((placing addition.placement kind loaded).perform world).1.map returned,
        ((placing addition.placement kind loaded).perform world).2) :=
  Action.perform_map world (placing addition.placement kind loaded) returned

theorem IsOver.perform_next {stand : Stand} (ended : stand.IsOver) (addition : Addition)
    (id : Value) (world : World) :
    ofOutcome ((stand.next addition id).perform world).1 = stand ∧
      ((stand.next addition id).perform world).2 = world := by
  rcases ended with ⟨stage, rfl⟩ | ⟨fault, rfl⟩ <;> exact ⟨rfl, rfl⟩

end Stand

section

variable {keeping : Keeping} {world : World} {id : String} {current loaded : Project}
  (keeps : keeping.Keeps world id current) (addition : Addition)

include keeps

/-- A call that waits loads what the store gives back, if it does not fail. -/
theorem next_waiting_cases :
    (∃ fault, (Stand.waiting.next addition (.text id)).perform world = (.error fault, world)) ∨
      ∃ kind loaded, keeping.giveBack current = .ok loaded ∧
        (Stand.waiting.next addition (.text id)).perform world =
          (.ok (.holding kind loaded), world) := by
  rw [Stand.perform_next_waiting, opening]
  cases addition.workshop.catalog.lookup addition.placement.type with
  | none => exact .inl ⟨_, rfl⟩
  | some kind =>
      rw [Action.perform_map, keeps.perform_load]
      cases given : keeping.giveBack current with
      | error fault => exact .inl ⟨_, rfl⟩
      | ok loaded => exact .inr ⟨kind, loaded, rfl, rfl⟩

/-- A call that holds a project saves it with one stage more, if it does not fail, and
whatever the store keeps by then. -/
theorem next_holding_cases (own : loaded.id = id) (kind : Kind) :
    (∃ fault later, ((Stand.holding kind loaded).next addition (.text id)).perform world =
        (.error fault, later) ∧ later.store = world.store) ∨
      ∃ stage time later, ((Stand.holding kind loaded).next addition (.text id)).perform world =
          (.ok (.returned stage), later) ∧
        stage.id ∉ loaded.flow.stages.map Stage.id ∧
        keeping.Keeps later id (loaded.place stage time) := by
  rw [Stand.perform_next_holding, perform_placing]
  cases Gate.update kind [] addition.placement.configuration with
  | error fault => exact .inl ⟨_, _, rfl, rfl⟩
  | ok configuration =>
      obtain ⟨projects, holds, sound, found⟩ := keeps
      have new := loaded.newStage_id_not_mem kind configuration world.stamp
      dsimp only
      generalize loaded.newStage kind configuration world.stamp = stage at new ⊢
      rcases perform_now_save_cases holds (loaded.place stage) with
        ⟨time, shown, admits⟩ | ⟨fault, failed⟩
      · rw [perform_now_save holds shown admits]
        refine .inr ⟨stage, time, _, rfl, new, _, rfl, sound.put admits, ?_⟩
        rw [Ledger.get?_put, if_pos]
        exact own
      · rw [failed]
        exact .inl ⟨_, _, rfl, rfl⟩

end

end Addition

/-! ## Calls of several clients -/

/-- A turn of a client, with the time that it sees. -/
structure Turn (Client : Type) where
  client : Client
  clock : Clock
  stamp : Int

/-- A world at the time of a turn. -/
def Turn.at {Client : Type} (turn : Turn Client) (world : World) : World :=
  { world with clock := turn.clock, stamp := turn.stamp }

/-- The world that clients share, and how far the call of each has come. -/
structure Scene (Client : Type) where
  world : World
  stand : Client → Addition.Stand

variable {Client : Type} [DecidableEq Client]

namespace Scene

/-- A scene before all calls. -/
def start (world : World) : Scene Client :=
  { world := world, stand := fun _ => .waiting }

/-- A client's call goes on by its next part. -/
def play (additions : Client → Addition) (id : Value) (scene : Scene Client)
    (turn : Turn Client) : Scene Client :=
  let performed := ((scene.stand turn.client).next (additions turn.client) id).perform
    (turn.at scene.world)
  { world := performed.2
    stand := Function.update scene.stand turn.client (.ofOutcome performed.1) }

/-- The clients have their turns. -/
def run (additions : Client → Addition) (id : Value) (scene : Scene Client)
    (turns : List (Turn Client)) : Scene Client :=
  turns.foldl (play additions id) scene

variable {additions : Client → Addition} {id : Value} {scene : Scene Client} {client : Client}

theorem stand_play (scene : Scene Client) (turn : Turn Client) :
    (scene.play additions id turn).stand = Function.update scene.stand turn.client
      (.ofOutcome (((scene.stand turn.client).next (additions turn.client) id).perform
        (turn.at scene.world)).1) :=
  rfl

/-- What a turn leaves, once its part of the call was performed. -/
theorem play_of_performed {turn : Turn Client} {outcome : Except Fault Addition.Stand}
    {later : World}
    (performed : ((scene.stand turn.client).next (additions turn.client) id).perform
      (turn.at scene.world) = (outcome, later)) :
    (scene.play additions id turn).stand turn.client = .ofOutcome outcome ∧
      (scene.play additions id turn).world = later := by
  rw [stand_play, performed, Function.update_self, play, performed]
  exact ⟨rfl, rfl⟩

/-- A call that is over stays as it is. -/
theorem stand_play_of_isOver (ended : (scene.stand client).IsOver) (turn : Turn Client) :
    (scene.play additions id turn).stand client = scene.stand client := by
  rw [stand_play]
  by_cases same : client = turn.client
  · subst same
    rw [Function.update_self]
    exact (ended.perform_next _ _ _).1
  · exact Function.update_of_ne same _ _

theorem stand_run_of_isOver (ended : (scene.stand client).IsOver) (turns : List (Turn Client)) :
    (scene.run additions id turns).stand client = scene.stand client := by
  induction turns generalizing scene with
  | nil => rfl
  | cons turn turns induction =>
      have stays : (scene.play additions id turn).stand client = scene.stand client :=
        stand_play_of_isOver ended turn
      rw [run, List.foldl_cons, ← run, induction (stays.symm ▸ ended), stays]

/-- Two turns of a client that waits are a whole call, when no one comes between. -/
theorem play_play (turn : Turn Client) (waiting : scene.stand turn.client = .waiting) :
    let addition := additions turn.client
    let performed := (addition.workshop.addStage id addition.placement).perform
      (turn.at scene.world)
    let half := scene.play additions id turn
    half.play additions id { turn with clock := half.world.clock, stamp := half.world.stamp } =
      { world := performed.2
        stand := Function.update scene.stand turn.client
          (.ofOutcome (performed.1.map .returned)) } := by
  simp only [Addition.addStage_eq, Action.perform_bind]
  cases opened : ((additions turn.client).opening id).perform (turn.at scene.world) with
  | mk outcome later =>
      cases outcome with
      | error fault =>
          have half : scene.play additions id turn =
              { world := later
                stand := Function.update scene.stand turn.client (.failed fault) } := by
            rw [play, waiting, Addition.Stand.perform_next_waiting, opened]
            rfl
          rw [half, play]
          simp [Addition.Stand.next, Addition.Stand.ofOutcome, Turn.at, Except.map]
      | ok found =>
          have half : scene.play additions id turn =
              { world := later
                stand := Function.update scene.stand turn.client (.holding found.1 found.2) } := by
            rw [play, waiting, Addition.Stand.perform_next_waiting, opened]
            rfl
          rw [half, play]
          simp [Addition.Stand.perform_next_holding, Turn.at]

end Scene

/-! ## Versions of the project -/

/-- Where a client stands in a schedule: it waits, it holds the version with the stages of
some clients, or it is done. -/
inductive Place (Client : Type) where
  | waiting
  | holding (line : List Client)
  | done

/-- What a schedule comes to: whose stages are in the version that is kept, and where the
clients stand. -/
structure Versions (Client : Type) where
  kept : List Client
  place : Client → Place Client

namespace Versions

/-- Nothing is added yet. -/
def start : Versions Client :=
  { kept := [], place := fun _ => .waiting }

/-- A client takes the version that is kept, or puts the version that it took in place of it,
with its own stage behind. -/
def play (versions : Versions Client) (client : Client) : Versions Client :=
  match versions.place client with
  | .waiting =>
    { versions with place := Function.update versions.place client (.holding versions.kept) }
  | .holding line =>
    { kept := line ++ [client], place := Function.update versions.place client .done }
  | .done => versions

/-- The clients have their turns. -/
def run (versions : Versions Client) (order : List Client) : Versions Client :=
  order.foldl play versions

end Versions

namespace Scene

/-- The calls of some clients have returned these stages. -/
def Returned (scene : Scene Client) (line : List Client) (stages : List Stage) : Prop :=
  List.Forall₂ (fun client stage => scene.stand client = .returned stage) line stages

/-- A version of a project has the stages that some clients have returned. -/
def Shows (scene : Scene Client) (keeping : Keeping) (base : Project) (line : List Client)
    (version : Project) : Prop :=
  ∃ stages, scene.Returned line stages ∧ keeping.Grows base stages version

/-- How far a call has come is where its client stands in the schedule. -/
inductive Fits (scene : Scene Client) (keeping : Keeping) (id : String) (base : Project) :
    Addition.Stand → Place Client → Prop where
  | waiting : Fits scene keeping id base .waiting .waiting
  | holding {kind : Kind} {version loaded : Project} {line : List Client}
      (own : loaded.id = id) (given : keeping.giveBack version = .ok loaded)
      (shows : scene.Shows keeping base line version) :
      Fits scene keeping id base (.holding kind loaded) (.holding line)
  | returned {stage : Stage} (new : stage.id ∉ base.flow.stages.map Stage.id) :
      Fits scene keeping id base (.returned stage) .done

/-- A scene is at what a schedule comes to. -/
structure IsAt (scene : Scene Client) (keeping : Keeping) (id : String) (base : Project)
    (versions : Versions Client) : Prop where
  kept : ∃ current, keeping.Keeps scene.world id current ∧
    scene.Shows keeping base versions.kept current
  fits : ∀ client, scene.Fits keeping id base (scene.stand client) (versions.place client)

variable {additions : Client → Addition} {scene : Scene Client} {keeping : Keeping}
  {id : String} {base : Project} {versions : Versions Client} {turn : Turn Client}

theorem Shows.play {line : List Client} {version : Project}
    (shows : scene.Shows keeping base line version) :
    (scene.play additions (.text id) turn).Shows keeping base line version := by
  obtain ⟨stages, returned, grows⟩ := shows
  refine ⟨stages, returned.imp ?_, grows⟩
  intro client stage stand
  rw [stand_play_of_isOver (.inl ⟨stage, stand⟩), stand]

theorem Fits.play {stand : Addition.Stand} {place : Place Client}
    (fits : scene.Fits keeping id base stand place) :
    (scene.play additions (.text id) turn).Fits keeping id base stand place := by
  cases fits with
  | waiting => exact .waiting
  | holding own given shows => exact .holding own given shows.play
  | returned new => exact .returned new

/-- Nothing changes for the clients that do not have the turn. -/
theorem IsAt.fits_play (isAt : scene.IsAt keeping id base versions) {stand : Addition.Stand}
    {place : Place Client}
    (played : (scene.play additions (.text id) turn).stand turn.client = stand)
    (fits : (scene.play additions (.text id) turn).Fits keeping id base stand place)
    (client : Client) :
    (scene.play additions (.text id) turn).Fits keeping id base
      ((scene.play additions (.text id) turn).stand client)
      (Function.update versions.place turn.client place client) := by
  by_cases same : client = turn.client
  · subst same
    rw [Function.update_self, played]
    exact fits
  · rw [Function.update_of_ne same, stand_play, Function.update_of_ne same]
    exact (isAt.fits client).play

/-- A client that waits takes the version that is kept. -/
theorem IsAt.play_waiting (isAt : scene.IsAt keeping id base versions)
    (standing : scene.stand turn.client = .waiting)
    (placed : versions.place turn.client = .waiting)
    (unfailed : ∀ fault,
      (scene.play additions (.text id) turn).stand turn.client ≠ .failed fault) :
    (scene.play additions (.text id) turn).IsAt keeping id base
      (versions.play turn.client) := by
  obtain ⟨current, keeps, shows⟩ := isAt.kept
  have stamped : keeping.Keeps (turn.at scene.world) id current := keeps.of_same_store rfl
  rcases Addition.next_waiting_cases stamped (additions turn.client) with
    ⟨fault, performed⟩ | ⟨kind, loaded, given, performed⟩
  · rw [← standing] at performed
    exact absurd (play_of_performed performed).1 (unfailed fault)
  · rw [← standing] at performed
    obtain ⟨played, left⟩ := play_of_performed performed
    rw [Versions.play, placed]
    constructor
    · exact ⟨current, left ▸ stamped, shows.play⟩
    · exact isAt.fits_play played (.holding (keeps.id_loaded given) given shows.play)

/-- A client that holds a version saves it with its own stage, whatever is kept by then. -/
theorem IsAt.play_holding (isAt : scene.IsAt keeping id base versions) {kind : Kind}
    {version loaded : Project} {line : List Client}
    (standing : scene.stand turn.client = .holding kind loaded)
    (placed : versions.place turn.client = .holding line) (own : loaded.id = id)
    (given : keeping.giveBack version = .ok loaded)
    (shows : scene.Shows keeping base line version)
    (unfailed : ∀ fault,
      (scene.play additions (.text id) turn).stand turn.client ≠ .failed fault) :
    (scene.play additions (.text id) turn).IsAt keeping id base
      (versions.play turn.client) := by
  obtain ⟨current, keeps, _⟩ := isAt.kept
  have stamped : keeping.Keeps (turn.at scene.world) id current := keeps.of_same_store rfl
  rcases Addition.next_holding_cases stamped (additions turn.client) own kind with
    ⟨fault, later, performed, _⟩ | ⟨stage, time, later, performed, new, saved⟩
  · rw [← standing] at performed
    exact absurd (play_of_performed performed).1 (unfailed fault)
  · rw [← standing] at performed
    obtain ⟨played, left⟩ := play_of_performed performed
    have shown : (scene.play additions (.text id) turn).Shows keeping base line version :=
      shows.play
    obtain ⟨stages, returned, grows⟩ := shown
    have newer : stage.id ∉ base.flow.stages.map Stage.id := by
      rw [grows.map_id_loaded given, List.mem_append, not_or] at new
      exact new.1
    rw [Versions.play, placed]
    constructor
    · exact ⟨loaded.place stage time, left ▸ saved, stages ++ [stage],
        List.rel_append returned (.cons played .nil), grows.place given new⟩
    · exact isAt.fits_play played (.returned newer)

/-- A client that is done changes nothing. -/
theorem IsAt.play_done (isAt : scene.IsAt keeping id base versions) {stage : Stage}
    (standing : scene.stand turn.client = .returned stage)
    (placed : versions.place turn.client = .done)
    (new : stage.id ∉ base.flow.stages.map Stage.id) :
    (scene.play additions (.text id) turn).IsAt keeping id base
      (versions.play turn.client) := by
  obtain ⟨current, keeps, shows⟩ := isAt.kept
  have performed : ((scene.stand turn.client).next (additions turn.client) (.text id)).perform
      (turn.at scene.world) = (.ok (.returned stage), turn.at scene.world) := by
    rw [standing]
    rfl
  obtain ⟨played, left⟩ := play_of_performed performed
  have same : versions.play turn.client = versions := by
    rw [Versions.play, placed]
  rw [same]
  constructor
  · exact ⟨current, left ▸ keeps.of_same_store rfl, shows.play⟩
  · intro client
    have fits := isAt.fits_play played (.returned new) client
    rwa [← placed, Function.update_eq_self] at fits

/-- One turn keeps the scene at what the schedule comes to, unless the call fails. -/
theorem IsAt.play (isAt : scene.IsAt keeping id base versions)
    (unfailed : ∀ fault,
      (scene.play additions (.text id) turn).stand turn.client ≠ .failed fault) :
    (scene.play additions (.text id) turn).IsAt keeping id base
      (versions.play turn.client) := by
  have fits := isAt.fits turn.client
  generalize standing : scene.stand turn.client = stand at fits
  generalize placed : versions.place turn.client = place at fits
  cases fits with
  | waiting => exact isAt.play_waiting standing placed unfailed
  | holding own given shows => exact isAt.play_holding standing placed own given shows unfailed
  | returned new => exact isAt.play_done standing placed new

omit [DecidableEq Client] in
theorem Returned.eq_map {line : List Client} {stages : List Stage} {pick : Client → Stage}
    (returned : scene.Returned line stages)
    (all : ∀ client, scene.stand client = .returned (pick client)) : stages = line.map pick := by
  induction returned with
  | nil => rfl
  | cons head _ induction =>
      rw [List.map_cons, induction, Addition.Stand.returned.inj ((all _).symm.trans head)]

omit [DecidableEq Client] in
/-- The stage that a call returns is new in the project from which all calls started. -/
theorem IsAt.new_of_returned (isAt : scene.IsAt keeping id base versions) {client : Client}
    {stage : Stage} (returned : scene.stand client = .returned stage) :
    stage.id ∉ base.flow.stages.map Stage.id := by
  have fits := isAt.fits client
  rw [returned] at fits
  generalize versions.place client = place at fits
  cases fits with
  | returned new => exact new

omit [DecidableEq Client] in
theorem IsAt.start {world : World} (keeps : keeping.Keeps world id base) :
    (start world : Scene Client).IsAt keeping id base .start where
  kept := ⟨base, keeps, [], .nil, .start⟩
  fits _ := .waiting

/-- Whatever turns the clients have, the scene is at what their order comes to, unless a
call fails. -/
theorem IsAt.run (isAt : scene.IsAt keeping id base versions) {turns : List (Turn Client)}
    (unfailed : ∀ client fault,
      (scene.run additions (.text id) turns).stand client ≠ .failed fault) :
    (scene.run additions (.text id) turns).IsAt keeping id base
      (versions.run (turns.map Turn.client)) := by
  induction turns generalizing scene versions with
  | nil => exact isAt
  | cons turn turns induction =>
      refine induction (isAt.play ?_) unfailed
      intro fault failed
      apply unfailed turn.client fault
      rw [Scene.run, List.foldl_cons, ← Scene.run,
        stand_run_of_isOver (.inr ⟨fault, failed⟩), failed]

end Scene

/-! ## Two clients -/

/-- Who calls. -/
inductive Party where
  | first
  | second
  deriving DecidableEq, Repr

namespace Party

/-- One call is over before the other one begins. -/
def OneByOne (order : List Party) : Prop :=
  order = [first, first, second, second] ∨ order = [second, second, first, first]

instance (order : List Party) : Decidable (OneByOne order) :=
  inferInstanceAs (Decidable (_ ∨ _))

/-- Both stages are kept when the calls come one by one; otherwise the last to save has taken
its version before the other one saved. -/
theorem kept_run {order : List Party} (perm : order.Perm [first, first, second, second]) :
    order = [first, first, second, second] ∧ (Versions.start.run order).kept = [first, second] ∨
      order = [second, second, first, first] ∧
        (Versions.start.run order).kept = [second, first] ∨
      ¬ OneByOne order ∧ ∃ last ∈ order.getLast?, (Versions.start.run order).kept = [last] := by
  match order, perm.length_eq with
  | [a, b, c, d], _ =>
    revert perm
    cases a <;> cases b <;> cases c <;> cases d <;> decide

end Party

/-- Two stages are in a project, and are told apart by their ids. -/
def HasBoth (project : Project) (one two : Stage) : Prop :=
  one.id ∈ project.flow.stages.map Stage.id ∧ two.id ∈ project.flow.stages.map Stage.id ∧
    one.id ≠ two.id

section

variable {keeping : Keeping} {base current : Project} {one two : Stage}

theorem hasBoth_of_grows (grows : keeping.Grows base [one, two] current) :
    HasBoth current one two := by
  have differ := grows.nodup
  simp only [List.map_cons, List.map_nil, List.nodup_cons, List.mem_singleton] at differ
  simp [HasBoth, grows.map_id, differ.1]

/-- A stage that only joined another version is missed. -/
theorem not_hasBoth_of_grows (grows : keeping.Grows base [one] current)
    (new : two.id ∉ base.flow.stages.map Stage.id) : ¬ HasBoth current one two := by
  rintro ⟨_, has, differ⟩
  rw [grows.map_id, List.mem_append, List.map_singleton, List.mem_singleton] at has
  rcases has with has | same
  · exact new has
  · exact differ same.symm

theorem HasBoth.swap (both : HasBoth current one two) : HasBoth current two one :=
  ⟨both.2.1, both.1, both.2.2.symm⟩

end

/-- Of two calls that both return, the project that is kept in the end has the stages of
both, under ids of their own, exactly when one call was over before the other one began.
Otherwise it is what the last to save had loaded, with the stage of this call behind. -/
theorem both_kept_iff_oneByOne {keeping : Keeping} {world : World} {id : String}
    {base : Project} (keeps : keeping.Keeps world id base) (additions : Party → Addition)
    {turns : List (Turn Party)}
    (interleaved : (turns.map Turn.client).Perm [.first, .first, .second, .second])
    {one two : Stage}
    (first : ((Scene.start world).run additions (.text id) turns).stand .first = .returned one)
    (second : ((Scene.start world).run additions (.text id) turns).stand .second =
      .returned two) :
    let later := (Scene.start world).run additions (.text id) turns
    let order := turns.map Turn.client
    ∃ current, keeping.Keeps later.world id current ∧
      (HasBoth current one two ↔ Party.OneByOne order) ∧
      (order = [.first, .first, .second, .second] → keeping.Grows base [one, two] current) ∧
      (order = [.second, .second, .first, .first] → keeping.Grows base [two, one] current) ∧
      (¬ Party.OneByOne order → ∀ last stage, order.getLast? = some last →
        later.stand last = .returned stage → keeping.Grows base [stage] current) := by
  intro later order
  let pick : Party → Stage := fun party => party.rec one two
  have all : ∀ party, later.stand party = .returned (pick party) := fun party =>
    party.rec first second
  have unfailed : ∀ party fault, later.stand party ≠ .failed fault := by
    intro party fault failed
    cases (all party).symm.trans failed
  have isAt := (Scene.IsAt.start keeps).run unfailed
  obtain ⟨current, kept, stages, returned, grows⟩ := isAt.kept
  rw [returned.eq_map all] at grows
  refine ⟨current, kept, ?_⟩
  rcases Party.kept_run interleaved with
    ⟨same, line⟩ | ⟨same, line⟩ | ⟨overlap, last, ends, line⟩
  · rw [line] at grows
    have both : HasBoth current one two := hasBoth_of_grows grows
    refine ⟨iff_of_true both (.inl same), fun _ => grows, fun other => ?_,
      fun overlap => absurd (.inl same) overlap⟩
    exact absurd (same.symm.trans other) (by decide)
  · rw [line] at grows
    have both : HasBoth current two one := hasBoth_of_grows grows
    refine ⟨iff_of_true both.swap (.inr same), fun other => ?_, fun _ => grows,
      fun overlap => absurd (.inr same) overlap⟩
    exact absurd (same.symm.trans other) (by decide)
  · rw [line] at grows
    refine ⟨iff_of_false ?_ overlap, fun same => absurd (.inl same) overlap,
      fun same => absurd (.inr same) overlap, ?_⟩
    · cases last with
      | first => exact not_hasBoth_of_grows grows (isAt.new_of_returned second)
      | second =>
          exact fun both => not_hasBoth_of_grows grows (isAt.new_of_returned first) both.swap
    · intro _ saver stage atEnd stand
      obtain rfl := Option.some.inj (ends.symm.trans atEnd)
      obtain rfl := Addition.Stand.returned.inj ((all last).symm.trans stand)
      exact grows

/-- A project in memory. -/
def sharedWorld : World :=
  { store := Keeping.memory.store (Ledger.put [] "a-1" (Files.sample "a-1"))
    clock := Clock.steady 63882000000000000 1 }

theorem keeps_sharedWorld : Keeping.memory.Keeps sharedWorld "a-1" (Files.sample "a-1") := by
  have admits : Keeping.memory.Admits (Files.sample "a-1") := trivial
  exact ⟨_, rfl, (Keeping.Sound.nil .memory).put admits, rfl⟩

/-- The first client adds a stage that loads data, the second one a stage that trains. -/
def samplePair : Party → Addition
  | .first => { workshop := {}, placement := { type := TypeName.ingest } }
  | .second => { workshop := {}, placement := { type := TypeName.training } }

/-- Turns at one and the same time. -/
def sampleTurns (order : List Party) : List (Turn Party) :=
  order.map fun party => { client := party, clock := sharedWorld.clock, stamp := 0 }

theorem oneByOne_hasBoth :
    let later := (Scene.start sharedWorld).run samplePair (.text "a-1")
      (sampleTurns [.first, .first, .second, .second])
    Keeping.memory.Keeps sharedWorld "a-1" (Files.sample "a-1") ∧
      ∃ one two, later.stand .first = .returned one ∧ later.stand .second = .returned two ∧
        ∃ current, Keeping.memory.Keeps later.world "a-1" current ∧ HasBoth current one two := by
  intro later
  obtain ⟨one, first, _⟩ := Addition.Stand.of_id?_eq_some
    (by decide +kernel : (later.stand .first).id? = some "ingestNode-0")
  obtain ⟨two, second, _⟩ := Addition.Stand.of_id?_eq_some
    (by decide +kernel : (later.stand .second).id? = some "trainingNode-0")
  obtain ⟨current, kept, both, _⟩ := both_kept_iff_oneByOne keeps_sharedWorld samplePair
    (List.Perm.refl _) first second
  exact ⟨keeps_sharedWorld, one, two, first, second, current, kept, both.mpr (by decide)⟩

/-- Both calls return, the stages have different ids, and what the first one added is
gone. -/
theorem overlapping_not_hasBoth :
    let turns := sampleTurns [.first, .second, .first, .second]
    let later := (Scene.start sharedWorld).run samplePair (.text "a-1") turns
    Keeping.memory.Keeps sharedWorld "a-1" (Files.sample "a-1") ∧
      (turns.map Turn.client).Perm [.first, .first, .second, .second] ∧
      ∃ one two, later.stand .first = .returned one ∧ later.stand .second = .returned two ∧
        one.id ≠ two.id ∧
        ¬ ∃ current, Keeping.memory.Keeps later.world "a-1" current ∧
          HasBoth current one two := by
  intro turns later
  obtain ⟨one, first, oneId⟩ := Addition.Stand.of_id?_eq_some
    (by decide +kernel : (later.stand .first).id? = some "ingestNode-0")
  obtain ⟨two, second, twoId⟩ := Addition.Stand.of_id?_eq_some
    (by decide +kernel : (later.stand .second).id? = some "trainingNode-0")
  refine ⟨keeps_sharedWorld, by decide, one, two, first, second, by simp [oneId, twoId], ?_⟩
  rintro ⟨current, kept, has, _⟩
  have shown : (((Store.load (.text "a-1")).perform later.world).1.toOption.map
      fun project => project.flow.stages.map Stage.id) = some ["load", "trainingNode-0"] := by
    decide +kernel
  rw [kept.perform_load] at shown
  have ids : current.flow.stages.map Stage.id = ["load", "trainingNode-0"] :=
    Option.some.inj shown
  rw [oneId, ids] at has
  exact absurd has (by decide)

end Workshop

end StageGraph
