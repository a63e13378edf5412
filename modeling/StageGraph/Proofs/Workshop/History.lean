import StageGraph.Proofs.Text.Trimming
import StageGraph.Proofs.Workshop.Course

/-!
# The history of projects

The projects that a workshop makes are written down beside its work, and nothing that is
done later changes what they have from their making: the id, the user and the moment.
On a clock that never goes back no project is older than its making, and no change makes
one older; the name of a project never is blank.  A change takes the time that the clock
shows, and leaves alone what the data for it do not give.
-/

namespace StageGraph

/-- The clock never goes back. -/
def Clock.IsForward (clock : Clock) : Prop :=
  ∀ early late first second, early ≤ late → clock.course early = some first →
    clock.course late = some second → first.micros ≤ second.micros

theorem World.Precedes.isForward {world later : World} (precedes : world.Precedes later)
    (forward : world.clock.IsForward) : later.clock.IsForward := by
  rw [Clock.IsForward, precedes.course]
  exact forward

theorem World.Precedes.inCalendar {world later : World} (precedes : world.Precedes later)
    (inCalendar : world.clock.InCalendar) : later.clock.InCalendar := by
  rw [Clock.InCalendar, precedes.course]
  exact inCalendar

theorem Project.isTight_nameOr {name fallback : String} (tight : Text.IsTight fallback) :
    Text.IsTight (nameOr name fallback) := by
  simp only [nameOr]
  split
  · exact tight
  · rename_i inhabited
    exact Text.isTight_trimText inhabited

namespace Workshop

/-- The projects that were made last under their ids. -/
abbrev Births := String → Option Project

/-- Write down the project that a request has made. -/
def Request.record (born : Births) (request : Request) (outcome : Except Fault Reply) : Births :=
  match request, outcome with
  | .create _, .ok (.project project) => Function.update born project.id (some project)
  | _, _ => born

theorem Request.record_error (born : Births) (request : Request) (fault : Fault) :
    request.record born (.error fault) = born := by
  cases request <;> rfl

theorem Request.record_of_ne_create {request : Request} (other : ∀ draft, request ≠ .create draft)
    (born : Births) (outcome : Except Fault Reply) : request.record born outcome = born := by
  cases request with
  | create draft => exact absurd rfl (other draft)
  | _ => rfl

/-- The projects that were made in some requests, each at its own time stamp. -/
def births (workshop : Workshop) : List (Int × Request) → World → Births → Births
  | [], _, born => born
  | step :: steps, world, born =>
    let performed := (step.2.action workshop).perform { world with stamp := step.1 }
    births workshop steps performed.2 (step.2.record born performed.1)

/-- The default name of a workshop is no text, or one that is not empty and neither begins nor
ends with a blank. -/
def HasTightDefault (workshop : Workshop) : Prop :=
  ∀ name, workshop.defaultName.asText? = some name → Text.IsTight name

theorem isTight_of_memberOr {workshop : Workshop} (default : workshop.HasTightDefault)
    {given name : String}
    (done : memberOr "name" (Text.trimText given) workshop.defaultName = .ok name) :
    Text.IsTight name := by
  rcases of_memberOr_eq_ok done with ⟨inhabited, rfl⟩ | ⟨_, found⟩
  · exact Text.isTight_trimText inhabited
  · exact default name found

theorem Revision.isTight_name {workshop : Workshop} {stamp : Int} {id : Value}
    {loaded saved : Project} {time : Moment} {request : Request} {reply : Reply}
    (revision : Revision workshop stamp id loaded time request saved reply)
    (tight : Text.IsTight loaded.name) : Text.IsTight saved.name := by
  cases revision with
  | @update amendment =>
      simp only [Project.amend]
      cases amendment.name with
      | none => exact tight
      | some name => exact Project.isTight_nameOr tight
  | addStage => exact tight
  | removeStage => exact tight

/-! ## A single project -/

/-- A project under an id has the id, the user and the first moment of the project that was
made there, was not changed before it was made nor later than the clock has come, and has a
name without outer blanks. -/
structure Lived (born : Births) (world : World) (id : String) (project : Project) : Prop where
  own : project.id = id
  made : ∃ first, born id = some first ∧ first.id = project.id ∧
    first.userId = project.userId ∧ first.createdAt = project.createdAt
  ordered : project.createdAt.micros ≤ project.updatedAt.micros
  shown : ∃ reading < world.clock.readings, world.clock.course reading = some project.updatedAt
  tight : Text.IsTight project.name

namespace Lived

variable {born : Births} {world : World} {id : String} {project read saved : Project}

theorem of_precedes (lived : Lived born world id project) {later : World}
    (precedes : world.Precedes later) : Lived born later id project := by
  obtain ⟨reading, past, shown⟩ := lived.shown
  exact { lived with
    shown := ⟨reading, past.trans_le precedes.readings, by rw [precedes.course, shown]⟩ }

theorem of_birth_eq (lived : Lived born world id project) {others : Births}
    (same : others id = born id) : Lived others world id project :=
  { lived with made := by rw [same]; exact lived.made }

/-- The moments of a project are in the calendar, and so its document tells them. -/
theorem recalled (lived : Lived born world id project) (inCalendar : world.clock.InCalendar)
    (recalls : project.Recalls read) : Lived born world id read := by
  obtain ⟨reading, past, shown⟩ := lived.shown
  obtain ⟨first, found, sameId, sameUser, sameMoment⟩ := lived.made
  have within := inCalendar reading _ shown
  have updated := recalls.updatedAt within
  have created := recalls.createdAt (lived.ordered.trans_lt within)
  constructor
  · exact recalls.id.trans lived.own
  · exact ⟨first, found, sameId.trans recalls.id.symm, sameUser.trans recalls.userId.symm,
      sameMoment.trans created.symm⟩
  · rw [created, updated]
    exact lived.ordered
  · exact ⟨reading, past, by rw [updated, shown]⟩
  · rw [recalls.name]
    exact lived.tight

theorem updatedAt_le (lived : Lived born world id project) (forward : world.clock.IsForward)
    {reading : Nat} (future : world.clock.readings ≤ reading) {time : Moment}
    (shown : world.clock.course reading = some time) :
    project.updatedAt.micros ≤ time.micros := by
  obtain ⟨before, past, found⟩ := lived.shown
  exact forward before reading _ _ (past.le.trans future) found shown

theorem revised (lived : Lived born world id project) (forward : world.clock.IsForward)
    {workshop : Workshop} {value : Value} {time : Moment} {request : Request} {reply : Reply}
    (shown : world.time? = some time)
    (revision : Revision workshop world.stamp value project time request saved reply) :
    Lived born world.tick id saved := by
  constructor
  · exact revision.id_eq.trans lived.own
  · rw [revision.id_eq, revision.userId_eq, revision.createdAt_eq]
    exact lived.made
  · rw [revision.createdAt_eq, revision.updatedAt_eq]
    exact lived.ordered.trans (lived.updatedAt_le forward (Nat.le_refl _) shown)
  · rw [revision.updatedAt_eq]
    exact ⟨world.clock.readings, Nat.lt_succ_self _, shown⟩
  · exact revision.isTight_name lived.tight

theorem of_draftProject {workshop : Workshop} (default : workshop.HasTightDefault)
    (forward : world.clock.IsForward) {draft : Draft} {created updated : Moment}
    (first : world.time? = some created) (second : world.tick.time? = some updated)
    (drafted : workshop.draftProject draft id created updated = .ok project) :
    Lived (Function.update born project.id (some project)) world.tick.tick project.id project := by
  obtain ⟨name, userId, named, _, rfl⟩ := exists_of_draftProject drafted
  constructor
  · rfl
  · exact ⟨_, Function.update_self _ _ _, rfl, rfl, rfl⟩
  · exact forward _ _ _ _ (Nat.le_succ _) first second
  · exact ⟨world.clock.readings + 1, Nat.lt_succ_self _, second⟩
  · exact isTight_of_memberOr default named

end Lived

/-! ## All projects of a store -/

/-- A store keeps projects that have lived through what is written down. -/
structure Consistent (keeping : Keeping) (born : Births) (world : World)
    (projects : Ledger Project) : Prop where
  holds : world.store = keeping.store projects
  sound : keeping.Sound projects
  lived : ∀ {id project}, Ledger.get? projects id = some project → Lived born world id project

/-- Whatever is kept anew has its last change from a later reading of the clock.  An id may be
free in between, and so ages are compared with the clock and not from step to step. -/
def Renews (projects : Ledger Project) (world : World) (newer : Ledger Project) : Prop :=
  ∀ id project, Ledger.get? newer id = some project →
    Ledger.get? projects id = some project ∨
      ∃ reading ≥ world.clock.readings, world.clock.course reading = some project.updatedAt

theorem Renews.trans {projects between newer : Ledger Project} {world later : World}
    (one : Renews projects world between) (two : Renews between later newer)
    (precedes : world.Precedes later) : Renews projects world newer := by
  intro id project found
  rcases two id project found with kept | ⟨reading, future, shown⟩
  · exact one id project kept
  · rw [precedes.course] at shown
    exact .inr ⟨reading, precedes.readings.trans future, shown⟩

namespace Course

variable {workshop : Workshop} {keeping : Keeping} {projects newer : Ledger Project}
  {world later : World} {request : Request} {outcome : Except Fault Reply}
  (course : Course workshop keeping projects world request outcome newer later)

include course

theorem renews : Renews projects world newer := by
  intro id project found
  cases course with
  | failed => exact .inl found
  | looked => exact .inl found
  | created _ second drafted =>
      obtain ⟨_, _, _, _, made⟩ := exists_of_draftProject drafted
      rcases Ledger.of_get?_put found with ⟨_, rfl⟩ | ⟨_, found⟩
      · rw [made]
        exact .inr ⟨world.clock.readings + 1, Nat.le_succ _, second⟩
      · exact .inl found
  | revised _ shown revision =>
      rcases Ledger.of_get?_put found with ⟨_, rfl⟩ | ⟨_, found⟩
      · rw [revision.updatedAt_eq]
        exact .inr ⟨world.clock.readings, Nat.le_refl _, shown⟩
      · exact .inl found
  | deleted => exact .inl (Ledger.of_get?_erase found)

theorem consistent {born : Births} (before : Consistent keeping born world projects)
    (forward : world.clock.IsForward) (inCalendar : world.clock.InCalendar)
    (default : workshop.HasTightDefault) :
    Consistent keeping (request.record born outcome) later newer := by
  refine ⟨course.holds before.holds, course.sound before.sound, ?_⟩
  have precedes := course.precedes
  intro id project found
  cases course with
  | failed =>
      rw [Request.record_error]
      exact (before.lived found).of_precedes precedes
  | looked reading =>
      have other : ∀ draft, request ≠ .create draft := by
        rintro draft rfl
        cases reading
      rw [Request.record_of_ne_create other]
      exact before.lived found
  | created first second drafted _ _ onward =>
      rcases Ledger.of_get?_put found with ⟨rfl, rfl⟩ | ⟨different, found⟩
      · exact (Lived.of_draftProject default forward first second drafted).of_precedes onward
      · exact ((before.lived found).of_precedes precedes).of_birth_eq
          (Function.update_of_ne (Ne.symm different) _ _)
  | revised answered shown revision =>
      have other : ∀ draft, request ≠ .create draft := by
        rintro draft rfl
        cases revision
      rw [Request.record_of_ne_create other]
      rcases Ledger.of_get?_put found with ⟨same, rfl⟩ | ⟨_, found⟩
      · -- What is changed is the project as it was loaded, which may differ from the stored one.
        obtain ⟨stored, _, kept, recalls⟩ := Keeping.of_answer_eq_ok before.sound answered
        rw [← revision.id_eq, same] at kept
        have lived := (before.lived kept).recalled inCalendar recalls
        exact (lived.revised forward shown revision).of_precedes
          ⟨rfl, Nat.le_refl _, Nat.le_refl _⟩
      · exact (before.lived found).of_precedes precedes
  | deleted => exact (before.lived (Ledger.of_get?_erase found)).of_precedes precedes

end Course

/-! ## What an update leaves alone -/

/-- A part is given, and not as null. -/
def Gives (payload : Config) (part : String) : Prop :=
  ∃ value, Ledger.get? payload part = some value ∧ value ≠ .null

/-- A name is given, and not a blank one. -/
def GivesName (payload : Config) : Prop :=
  ∃ value name, Ledger.get? payload "name" = some value ∧ value.asText? = some name ∧
    Text.trimText name ≠ ""

/-- A project that was saved differs from the one that was loaded in the time of its last
change, and else only in parts that are given. -/
structure ChangesOnly (payload : Config) (loaded saved : Project) : Prop where
  id : saved.id = loaded.id
  userId : saved.userId = loaded.userId
  createdAt : saved.createdAt = loaded.createdAt
  name : ¬ GivesName payload → saved.name = loaded.name
  description : ¬ Gives payload "description" → saved.description = loaded.description
  stages : ¬ Gives payload "nodes" → saved.flow.stages = loaded.flow.stages
  links : ¬ Gives payload "edges" → saved.flow.links = loaded.flow.links

theorem eq_none_of_not_gives {α : Type} {payload : Config} {name : String} {part : Option α}
    {read : Value → Checked α}
    (done : Checked.withDefault payload name none (Checked.optional read) = .ok part)
    (absent : ¬ Gives payload name) : part = none := by
  rcases Checked.optional_eq_ok done with none | ⟨value, _, found, notNull, _⟩
  · exact none
  · exact absurd ⟨value, found, notNull⟩ absent

theorem changesOnly_amend {origin : Origin} {payload : Config} {amendment : Amendment}
    (done : Amendment.read origin (.record payload) = .ok amendment) (loaded : Project)
    (time : Moment) : ChangesOnly payload loaded (loaded.amend amendment time) := by
  obtain ⟨entries, same, done⟩ := Checked.bind_eq_ok done
  cases same
  obtain ⟨⟨name, description, stages, links⟩, parts, made⟩ := Checked.bind_eq_ok done
  cases made
  obtain ⟨nameRead, parts⟩ := Checked.both_eq_ok_iff.mp parts
  obtain ⟨descriptionRead, parts⟩ := Checked.both_eq_ok_iff.mp parts
  obtain ⟨stagesRead, linksRead⟩ := Checked.both_eq_ok_iff.mp parts
  constructor
  · rfl
  · rfl
  · rfl
  · intro absent
    rcases Checked.optional_eq_ok nameRead with none | ⟨value, given, found, _, textRead, some⟩
    · obtain rfl : name = .none := none
      rfl
    · obtain rfl : name = .some given := some
      have blank : Text.trimText given = "" := by
        by_contra inhabited
        exact absent ⟨value, given, found, Checked.text_eq_ok_iff.mp textRead, inhabited⟩
      simp only [Project.amend, Project.nameOr, if_pos blank]
  · intro absent
    obtain rfl : description = none := eq_none_of_not_gives descriptionRead absent
    rfl
  · intro absent
    obtain rfl : stages = none := eq_none_of_not_gives stagesRead absent
    rfl
  · intro absent
    obtain rfl : links = none := eq_none_of_not_gives linksRead absent
    rfl

/-! ## Changes -/

/-- The id of the project that a request changes. -/
def Request.subject? : Request → Option Value
  | .update id _ | .addStage id _ | .removeStage id _ => some id
  | _ => none

/-- A project was loaded, and what was saved in its place has the time that the clock shows,
as has whatever the store shows of it then. -/
structure Replaces (keeping : Keeping) (projects : Ledger Project) (id : Value)
    (world later : World) (loaded saved : Project) : Prop where
  given : ((Store.load id).perform world).1 = .ok loaded
  kept : later.store = keeping.store (Ledger.put projects saved.id saved)
  sameId : saved.id = loaded.id
  read : later.clock = world.tick.clock
  shown : world.time? = some saved.updatedAt
  seen : ∀ {project}, keeping.Shows (Ledger.put projects saved.id saved) later saved.id project →
    project.updatedAt = saved.updatedAt

/-- A request that succeeds on a project replaces it; an update replies with what it saved, and
has changed only what is given. -/
def Changes (keeping : Keeping) (projects : Ledger Project) (request : Request) (id : Value)
    (world : World) (reply : Reply) (later : World) : Prop :=
  ∃ loaded saved, Replaces keeping projects id world later loaded saved ∧
    ∀ origin payload amendment, request = .update id amendment →
      Amendment.read origin (.record payload) = .ok amendment →
      reply = .project saved ∧ ChangesOnly payload loaded saved

theorem Revision.subject?_eq {workshop : Workshop} {stamp : Int} {id : Value}
    {loaded saved : Project} {time : Moment} {request : Request} {reply : Reply}
    (revision : Revision workshop stamp id loaded time request saved reply) :
    request.subject? = some id := by
  cases revision <;> rfl

section

variable {workshop : Workshop} {keeping : Keeping} {projects : Ledger Project} {world : World}
  {born : Births} (consistent : Consistent keeping born world projects)
  (inCalendar : world.clock.InCalendar)

include consistent

theorem Consistent.of_same {later : World} (store : later.store = world.store)
    (clock : later.clock = world.clock) (issued : later.issued = world.issued) :
    Consistent keeping born later projects :=
  ⟨store.trans consistent.holds, consistent.sound, fun found =>
    (consistent.lived found).of_precedes ⟨by rw [clock], by rw [clock], issued.ge⟩⟩

include inCalendar

theorem Consistent.lived_of_shows {id : String} {project : Project}
    (shows : keeping.Shows projects world id project) : Lived born world id project := by
  obtain ⟨stored, found, recalls⟩ := shows.exists_recalls consistent.holds consistent.sound
  exact (consistent.lived found).recalled inCalendar recalls

theorem Consistent.changes {request : Request} {id : Value} (subject : request.subject? = some id)
    {reply : Reply} {later : World}
    (performed : (request.action workshop).perform world = (.ok reply, later)) :
    Changes keeping projects request id world reply later := by
  obtain ⟨outcome, newer, after, same, course⟩ :=
    hasCourse workshop consistent.holds consistent.sound request
  obtain ⟨rfl, rfl⟩ := Prod.mk.inj (same.symm.trans performed)
  have sound := course.sound consistent.sound
  cases course with
  | looked reading =>
      cases request <;> cases reading <;> cases subject
  | created => cases subject
  | deleted => cases subject
  | @revised _ other loaded saved time reply answered shown revision =>
      obtain rfl := Option.some.inj (subject.symm.trans revision.subject?_eq)
      refine ⟨loaded, saved, ⟨?_, rfl, revision.id_eq, rfl, ?_, ?_⟩, ?_⟩
      · rw [Keeping.perform_load consistent.holds consistent.sound, answered]
      · rw [shown, revision.updatedAt_eq]
      · intro project shows
        obtain ⟨stored, found, recalls⟩ := shows.exists_recalls rfl sound
        rw [Ledger.get?_put, if_pos rfl] at found
        obtain rfl := Option.some.inj found
        refine recalls.updatedAt ?_
        rw [revision.updatedAt_eq]
        exact inCalendar _ _ shown
      · rintro origin payload amendment rfl done
        cases revision
        exact ⟨rfl, changesOnly_amend done loaded _⟩

end

/-! ## Runs -/

theorem Consistent.exists_after {workshop : Workshop} {keeping : Keeping}
    {projects : Ledger Project} {world : World} {born : Births}
    (before : Consistent keeping born world projects) (forward : world.clock.IsForward)
    (inCalendar : world.clock.InCalendar) (default : workshop.HasTightDefault)
    (steps : List (Int × Request)) :
    ∃ newer, Consistent keeping (births workshop steps world born) (workshop.after steps world)
        newer ∧
      Renews projects world newer ∧ world.Precedes (workshop.after steps world) := by
  -- What is new since the first world is new since each later one, as clocks only go on.
  induction steps generalizing world projects born with
  | nil => exact ⟨projects, before, fun _ _ found => .inl found, .refl world⟩
  | cons step steps induction =>
      have stamped : Consistent keeping born { world with stamp := step.1 } projects :=
        before.of_same rfl rfl rfl
      obtain ⟨outcome, between, later, performed, course⟩ :=
        hasCourse workshop stamped.holds stamped.sound step.2
      have renews : Renews projects world between := course.renews
      have precedes : world.Precedes later :=
        ⟨course.precedes.course, course.precedes.readings, course.precedes.issued⟩
      obtain ⟨newer, consistent, later, onward⟩ := induction
        (course.consistent stamped forward inCalendar default)
        (precedes.isForward forward) (precedes.inCalendar inCalendar)
      rw [births, after, List.foldl_cons, ← after, performed]
      exact ⟨newer, consistent, renews.trans later precedes, precedes.trans onward⟩

/-- The projects of a store have lived through what is written down, each request that changes
one does so at its time, and whatever comes later makes none of them older. -/
structure KeepsHistory (workshop : Workshop) (keeping : Keeping) (born : Births) (world : World)
    (projects : Ledger Project) : Prop where
  holds : world.store = keeping.store projects
  lived : ∀ id project, keeping.Shows projects world id project → Lived born world id project
  changes : ∀ (stamp : Int) (request : Request) (id : Value) (reply : Reply) (later : World),
    request.subject? = some id →
    (request.action workshop).perform { world with stamp := stamp } = (.ok reply, later) →
    Changes keeping projects request id { world with stamp := stamp } reply later
  ages : ∀ more : List (Int × Request), ∃ newer,
    (workshop.after more world).store = keeping.store newer ∧
    ∀ id project latest, keeping.Shows projects world id project →
      keeping.Shows newer (workshop.after more world) id latest →
      project.updatedAt.micros ≤ latest.updatedAt.micros

/-- Whatever was asked of a workshop whose store was empty, the projects that the store keeps
have their history. -/
theorem exists_keepsHistory {keeping : Keeping} {start : World}
    (empty : start.store = keeping.store []) (forward : start.clock.IsForward)
    (inCalendar : start.clock.InCalendar) {workshop : Workshop}
    (default : workshop.HasTightDefault) (steps : List (Int × Request)) :
    ∃ projects, KeepsHistory workshop keeping (births workshop steps start fun _ => none)
      (workshop.after steps start) projects := by
  have fresh : Consistent keeping (fun _ => none) start [] :=
    ⟨empty, .nil keeping, fun found => by cases found⟩
  obtain ⟨projects, consistent, _, precedes⟩ :=
    fresh.exists_after forward inCalendar default steps
  have forward := precedes.isForward forward
  have inCalendar := precedes.inCalendar inCalendar
  refine ⟨projects, consistent.holds, ?_, ?_, ?_⟩
  · exact fun _ _ shows => consistent.lived_of_shows inCalendar shows
  · intro stamp request id reply later subject performed
    have stamped : Consistent keeping _ { workshop.after steps start with stamp := stamp }
        projects := consistent.of_same rfl rfl rfl
    exact stamped.changes inCalendar subject performed
  · intro more
    obtain ⟨newer, latest, renews, onward⟩ :=
      consistent.exists_after forward inCalendar default more
    refine ⟨newer, latest.holds, ?_⟩
    intro id project last shows lastShows
    obtain ⟨stored, found, recalls⟩ := lastShows.exists_recalls latest.holds latest.sound
    obtain ⟨reading, _, shown⟩ := (latest.lived found).shown
    have same : last.updatedAt = stored.updatedAt :=
      recalls.updatedAt (onward.inCalendar inCalendar _ _ shown)
    rw [same]
    rcases renews id stored found with kept | ⟨reading, future, shown⟩
    · obtain ⟨before, past, beforeRecalls⟩ :=
        shows.exists_recalls consistent.holds consistent.sound
      obtain rfl := Option.some.inj (past.symm.trans kept)
      obtain ⟨reading, _, shown⟩ := (consistent.lived kept).shown
      rw [beforeRecalls.updatedAt (inCalendar _ _ shown)]
    · exact (consistent.lived_of_shows inCalendar shows).updatedAt_le forward future shown

theorem isForward_steady {start step : Int} (positive : 0 ≤ step) :
    (Clock.steady start step).IsForward := by
  intro early late first second order firstShown secondShown
  have further : (early : Int) * step ≤ late * step :=
    Int.mul_le_mul_of_nonneg_right (Int.ofNat_le.mpr order) positive
  simp only [Clock.steady, Moment.ofMicros?, Option.ite_none_right_eq_some,
    Option.some.injEq] at firstShown secondShown
  obtain ⟨firstWithin, rfl⟩ := firstShown
  obtain ⟨secondWithin, rfl⟩ := secondShown
  exact Int.toNat_le_toNat (by omega)

theorem hasTightDefault_plain : ({} : Workshop).HasTightDefault := by
  intro name found
  obtain rfl := Option.some.inj found
  exact ⟨⟨'M', rfl, rfl⟩, 'e', rfl, rfl⟩

/-- An empty memory and a clock. -/
def sampleStart : World :=
  { store := .memory [], clock := Clock.steady 63882000000000000 1 }

/-- A project is made, gets a blank name and a description, and then a stage. -/
def sampleHistory : List (Int × Request) :=
  [(0, .create { name := some " Flow " }),
    (0, .update (.text (idText 1)) { name := some "  ", description := some "d" }),
    (0, .addStage (.text (idText 1)) { type := TypeName.ingest })]

theorem exists_keepsHistory_sampleHistory :
    sampleStart.store = Keeping.memory.store [] ∧ sampleStart.clock.IsForward ∧
      sampleStart.clock.InCalendar ∧ ({} : Workshop).HasTightDefault ∧
      ((Store.load (.text (idText 1))).perform (after {} sampleHistory sampleStart)).1.toOption.map
        (fun project => (project.name, project.description, project.createdAt.micros,
          project.updatedAt.micros)) =
        some ("Flow", "d", 63882000000000000, 63882000000000003) ∧
      ∃ projects, KeepsHistory {} .memory (births {} sampleHistory sampleStart fun _ => none)
        (after {} sampleHistory sampleStart) projects := by
  have fresh : sampleStart.store = Keeping.memory.store [] := rfl
  have forward : sampleStart.clock.IsForward := isForward_steady (by decide)
  have inCalendar : sampleStart.clock.InCalendar := Clock.inCalendar_steady _ _
  exact ⟨fresh, forward, inCalendar, hasTightDefault_plain, by decide +kernel,
    exists_keepsHistory fresh forward inCalendar hasTightDefault_plain sampleHistory⟩

end Workshop

end StageGraph
