import StageGraph.Proofs.Store.Keeping

/-!
# Stores answer as one map does

A map from ids to projects says what any store should answer: saving changes the map,
deleting empties a place in it, and everything else only looks at it.  A store that
keeps projects in memory, one with nothing to ask but its list, and a directory all
answer as the map does, whatever was asked of them before.
-/

namespace StageGraph.Store

/-- Whether there is a project under an id, told by the list alone. -/
def hasByList (id : Value) : Action Bool := do
  return (← list).any fun project => id.agrees (.text project.id)

/-- What can be asked of a store. -/
inductive Step where
  | save (project : Project)
  | load (id : String)
  | delete (id : String)
  | has (id : String)
  | hasByList (id : String)
  | list (user : Option String)

/-- What a store replies. -/
inductive Reply where
  | project (project : Project)
  | done
  | truth (found : Bool)
  | projects (listed : List Project)

/-- A map from ids to projects. -/
abbrev Known := String → Option Project

/-- A list of the projects of a user, or of all. -/
structure Lists (known : Known) (user : Option String) (listed : List Project) : Prop where
  mem_iff : ∀ project, project ∈ listed ↔
    known project.id = some project ∧ ∀ name ∈ user, project.userId = name
  once : (listed.map Project.id).Nodup
  newestFirst : listed.Pairwise fun first second =>
    second.updatedAt.micros ≤ first.updatedAt.micros

namespace Step

/-- Ask a store. -/
def action : Step → Action Reply
  | .save project => do return .project (← Store.save project)
  | .load id => do return .project (← Store.load (.text id))
  | .delete id => do
    Store.delete (.text id)
    return .done
  | .has id => do return .truth (← Store.has (.text id))
  | .hasByList id => do return .truth (← Store.hasByList (.text id))
  | .list user => do return .projects (← Store.list ((user.map Value.text).getD .null))

/-- The map after a step. -/
def effect (known : Known) : Step → Known
  | .save project => Function.update known project.id (some project)
  | .delete id => Function.update known id none
  | .load _ | .has _ | .hasByList _ | .list _ => known

/-- Whether a step is answered as by a map. -/
def IsAnswered (known : Known) (outcome : Except Fault Reply) : Step → Prop
  | .save project => outcome = .ok (.project project)
  | .load id =>
    outcome = match known id with
      | some project => .ok (.project project)
      | none => .error (.projectNotFound (.text id))
  | .delete id =>
    outcome = match known id with
      | some _ => .ok .done
      | none => .error (.projectNotFound (.text id))
  | .has id | .hasByList id => outcome = .ok (.truth (known id).isSome)
  | .list user => ∃ listed, outcome = .ok (.projects listed) ∧ Lists known user listed

/-- The world after some steps. -/
def after (steps : List Step) (world : World) : World :=
  steps.foldl (fun world step => (step.action.perform world).2) world

/-- The map after some steps on nothing. -/
def knownAfter (steps : List Step) : Known :=
  steps.foldl effect fun _ => none

end Step

/-- A project whose id consists of letters, digits, underscores and hyphens, whose file name is
not too long, and whose document can be written and is read back as the project. -/
structure Storable (project : Project) : Prop where
  inhabited : project.id ≠ ""
  letters : ∀ c ∈ project.id.toList, Files.isSafe c = true
  short : (project.id ++ Files.ending).utf8ByteSize ≤ Directory.nameLimit
  writable : project.isWritable = true
  restored : Files.reread project = .ok project

namespace Storable

variable {project : Project} (storable : Storable project)

include storable

theorem isSafeId : Files.isSafeId project.id.toList = true :=
  Files.isSafeId_iff.mpr (.inl ⟨storable.inhabited, storable.letters⟩)

theorem admits (keeping : Keeping) : keeping.Admits project := by
  cases keeping with
  | memory => exact trivial
  | listing => exact trivial
  | directory => exact ⟨storable.isSafeId, storable.short, storable.writable⟩

theorem giveBack (keeping : Keeping) : keeping.giveBack project = .ok project := by
  cases keeping with
  | memory => rfl
  | listing => rfl
  | directory => exact storable.restored

end Storable

theorem pairwise_newestFirst (listed : List Project) (user : Value) :
    (newestFirst listed user).Pairwise fun first second =>
      second.updatedAt.micros ≤ first.updatedAt.micros :=
  Keeping.pairwise_mergeSort_comesFirst (fun project => project.updatedAt.micros)
    (listed.filter (Keeping.isFor user))

theorem Lists.agree {known : Known} {user : Option String} {left right : List Project}
    (leftLists : Lists known user left) (rightLists : Lists known user right) :
    left.Perm right ∧ left.map Project.updatedAt = right.map Project.updatedAt := by
  have same : left.Perm right := by
    apply (List.perm_ext_iff_of_nodup leftLists.once.of_map rightLists.once.of_map).mpr
    intro project
    rw [leftLists.mem_iff, rightLists.mem_iff]
  refine ⟨same, ?_⟩
  have antisymmetric : ∀ first second : Moment, first ∈ left.map Project.updatedAt →
      second ∈ right.map Project.updatedAt → second.micros ≤ first.micros →
      first.micros ≤ second.micros → first = second := by
    rintro ⟨first⟩ ⟨second⟩ _ _ later earlier
    exact congrArg Moment.mk (Nat.le_antisymm earlier later)
  exact (same.map Project.updatedAt).eq_of_pairwise antisymmetric
    (List.pairwise_map.mpr leftLists.newestFirst) (List.pairwise_map.mpr rightLists.newestFirst)

/-- Answers that differ at most in the order of projects that were changed at the same time. -/
def Reply.AgreeButTies : Except Fault Reply → Except Fault Reply → Prop
  | .ok (.projects left), .ok (.projects right) =>
    left.Perm right ∧ left.map Project.updatedAt = right.map Project.updatedAt
  | left, right => left = right

theorem Step.IsAnswered.agreeButTies {step : Step} {known : Known}
    {left right : Except Fault Reply} (leftAnswered : step.IsAnswered known left)
    (rightAnswered : step.IsAnswered known right) : Reply.AgreeButTies left right := by
  cases step with
  | save project =>
      cases leftAnswered
      cases rightAnswered
      rfl
  | load id =>
      rw [Step.IsAnswered] at leftAnswered rightAnswered
      rw [leftAnswered, rightAnswered]
      cases known id <;> rfl
  | delete id =>
      rw [Step.IsAnswered] at leftAnswered rightAnswered
      rw [leftAnswered, rightAnswered]
      cases known id <;> rfl
  | has id =>
      cases leftAnswered
      cases rightAnswered
      rfl
  | hasByList id =>
      cases leftAnswered
      cases rightAnswered
      rfl
  | list user =>
      obtain ⟨_, rfl, leftLists⟩ := leftAnswered
      obtain ⟨_, rfl, rightLists⟩ := rightAnswered
      exact leftLists.agree rightLists

/-- The store of a world keeps what a map knows, and gives it back as it is. -/
structure Tracks (keeping : Keeping) (projects : Ledger Project) (known : Known)
    (world : World) : Prop where
  holds : world.store = keeping.store projects
  sound : keeping.Sound projects
  same : Ledger.get? projects = known
  restored : ∀ {id project}, known id = some project → keeping.giveBack project = .ok project

namespace Tracks

variable {keeping : Keeping} {projects : Ledger Project} {known : Known} {world : World}
  (tracks : Tracks keeping projects known world)

include tracks

theorem kept?_eq (id : String) : Keeping.kept? projects (.text id) = known id := by
  rw [← tracks.same]
  rfl

theorem absence_eq (id : String) : keeping.absence (.text id) = .projectNotFound (.text id) := by
  cases keeping <;> rfl

theorem answer_eq (id : String) :
    keeping.answer projects (.text id) =
      match known id with
      | some project => .ok project
      | none => .error (.projectNotFound (.text id)) := by
  rw [Keeping.answer, tracks.kept?_eq, tracks.absence_eq]
  cases found : known id with
  | none => rfl
  | some project => exact tracks.restored found

theorem exists_gathered :
    ∃ listed, keeping.gathered projects = .ok listed ∧
      listed.Perm (Ledger.values projects) := by
  cases keeping with
  | memory => exact ⟨Ledger.values projects, rfl, List.Perm.refl _⟩
  | listing => exact ⟨Ledger.values projects, rfl, List.Perm.refl _⟩
  | directory =>
      have restored : ∀ entry ∈ Files.shelf projects, Files.reread entry.2 = .ok entry.2 := by
        intro entry member
        have among := (Files.shelf_perm projects).mem_iff.mp member
        have found := Ledger.get?_eq_some_of_mem tracks.sound.nodup among
        rw [tracks.same] at found
        have restored := tracks.restored found
        exact restored
      have back : (Files.shelf projects).map (fun entry => Files.reread entry.2) =
          (Ledger.values (Files.shelf projects)).map .ok := by
        rw [Ledger.values, List.map_map]
        exact List.map_congr_left restored
      refine ⟨Ledger.values (Files.shelf projects), ?_, (Files.shelf_perm projects).map _⟩
      rw [Keeping.gathered, back, Files.gather_map_ok]

theorem lists {listed : List Project} (all : listed.Perm (Ledger.values projects))
    (user : Option String) :
    Lists known user (newestFirst listed ((user.map Value.text).getD .null)) := by
  constructor
  · intro project
    rw [Keeping.mem_newestFirst_iff, all.mem_iff, Keeping.mem_values_iff tracks.sound,
      tracks.same, Keeping.isFor_user_iff]
  · have ids : (listed.map Project.id).Perm (Ledger.keys projects) := by
      rw [← tracks.sound.map_id_values]
      exact all.map _
    have once : (listed.map Project.id).Nodup := ids.nodup_iff.mpr tracks.sound.nodup
    have part := (Keeping.newestFirst_perm listed ((user.map Value.text).getD .null)).map
      Project.id
    exact part.nodup_iff.mpr (once.sublist (List.filter_sublist.map _))
  · exact pairwise_newestFirst _ _

theorem save {project : Project} (storable : Storable project) (later : World)
    (holds : later.store = keeping.store (Ledger.put projects project.id project)) :
    Tracks keeping (Ledger.put projects project.id project)
      (Function.update known project.id (some project)) later where
  holds := holds
  sound := tracks.sound.put (storable.admits keeping)
  same := by
    funext id
    rw [Ledger.get?_put, tracks.same, Function.update_apply]
    simp only [eq_comm]
  restored := by
    intro id read found
    rw [Function.update_apply] at found
    split at found
    · cases found
      exact storable.giveBack keeping
    · exact tracks.restored found

theorem delete (id : String) (later : World)
    (holds : later.store = keeping.store (Ledger.erase projects id)) :
    Tracks keeping (Ledger.erase projects id) (Function.update known id none) later where
  holds := holds
  sound := tracks.sound.erase id
  same := by
    funext other
    rw [Ledger.get?_erase, tracks.same, Function.update_apply]
    simp only [eq_comm]
  restored := by
    intro other read found
    rw [Function.update_apply] at found
    split at found
    · cases found
    · exact tracks.restored found

/-- One step is answered as by the map, and a step that fails leaves the world as it is. -/
theorem step (step : Step) (storable : ∀ project, step = .save project → Storable project) :
    step.IsAnswered known (step.action.perform world).1 ∧
      (∀ fault, (step.action.perform world).1 = .error fault →
        (step.action.perform world).2 = world) ∧
      ∃ later, Tracks keeping later (step.effect known) (step.action.perform world).2 := by
  cases step with
  | save project =>
      have admitted := storable project rfl
      have done := Keeping.perform_save tracks.holds (admitted.admits keeping)
      rw [Step.action, Action.perform_map, done]
      refine ⟨rfl, ?_, _, tracks.save admitted _ rfl⟩
      intro fault failed
      cases failed
  | load id =>
      have done := Keeping.perform_load tracks.holds tracks.sound (.text id)
      rw [tracks.answer_eq] at done
      rw [Step.action, Action.perform_map, done]
      refine ⟨?_, fun _ _ => rfl, _, tracks⟩
      rw [Step.IsAnswered]
      cases known id <;> rfl
  | delete id =>
      have done := Keeping.perform_delete tracks.holds tracks.sound (.text id)
      rw [tracks.kept?_eq, tracks.absence_eq] at done
      have performed : (Step.delete id).action.perform world =
          (((Store.delete (.text id)).perform world).1.map fun _ => Reply.done,
            ((Store.delete (.text id)).perform world).2) :=
        Action.perform_map world (Store.delete (.text id)) fun _ => Reply.done
      rw [performed, done, Step.IsAnswered]
      cases found : known id with
      | none =>
          refine ⟨rfl, fun _ _ => rfl, projects, ?_⟩
          have unchanged : Step.effect known (.delete id) = known :=
            Function.update_eq_self_iff.mpr found.symm
          rw [unchanged]
          exact tracks
      | some project =>
          obtain rfl : project.id = id := tracks.sound.own (by rw [tracks.same, found])
          refine ⟨rfl, ?_, _, tracks.delete project.id _ rfl⟩
          intro fault failed
          cases failed
  | has id =>
      have done := Keeping.perform_has tracks.holds tracks.sound id
      rw [Step.action, Action.perform_map, done]
      refine ⟨?_, fun _ _ => rfl, _, tracks⟩
      rw [Step.IsAnswered, tracks.same]
      rfl
  | hasByList id =>
      obtain ⟨listed, gathered, all⟩ := tracks.exists_gathered
      have done := Keeping.perform_list tracks.holds tracks.sound .null
      rw [gathered] at done
      have found := Keeping.any_newestFirst tracks.sound all id
      rw [Step.action, Action.perform_map, hasByList, Action.perform_map, done]
      refine ⟨?_, fun _ _ => rfl, _, tracks⟩
      simp only [Step.IsAnswered, Except.map, found, tracks.same]
  | list user =>
      obtain ⟨listed, gathered, all⟩ := tracks.exists_gathered
      have done := Keeping.perform_list tracks.holds tracks.sound
        ((user.map Value.text).getD .null)
      rw [gathered] at done
      rw [Step.action, Action.perform_map, done]
      exact ⟨⟨_, rfl, tracks.lists all user⟩, fun _ _ => rfl, _, tracks⟩

end Tracks

/-- The map says after any steps what the store keeps. -/
theorem exists_tracks {keeping : Keeping} {start : World} (fresh : start.store = keeping.store [])
    (steps : List Step) (storable : ∀ project, .save project ∈ steps → Storable project) :
    ∃ projects, Tracks keeping projects (Step.knownAfter steps) (Step.after steps start) := by
  induction steps using List.reverseRecOn with
  | nil =>
      exact ⟨[], fresh, .nil keeping, rfl, by intro id project found; cases found⟩
  | append_singleton steps step induction =>
      obtain ⟨projects, tracks⟩ := induction fun project member =>
        storable project (List.mem_append_left _ member)
      have admitted : ∀ project, step = .save project → Storable project := by
        rintro project rfl
        exact storable project (List.mem_append_right _ List.mem_cons_self)
      have later := (tracks.step step admitted).2.2
      simpa [Step.knownAfter, Step.after, List.foldl_append] using later

/-- After any steps, each store answers the next one as the map does, a failure changes
nothing, and no two stores differ but in the order of projects that were changed at the
same time. -/
theorem answers_as_map {steps : List Step} {next : Step}
    (storable : ∀ project, .save project ∈ next :: steps → Storable project)
    {keeping : Keeping} {start : World} (fresh : start.store = keeping.store []) :
    next.IsAnswered (Step.knownAfter steps) (next.action.perform (Step.after steps start)).1 ∧
      (∀ fault, (next.action.perform (Step.after steps start)).1 = .error fault →
        (next.action.perform (Step.after steps start)).2 = Step.after steps start) ∧
      ∀ (other : Keeping) (elsewhere : World), elsewhere.store = other.store [] →
        Reply.AgreeButTies (next.action.perform (Step.after steps start)).1
          (next.action.perform (Step.after steps elsewhere)).1 := by
  have before : ∀ project, .save project ∈ steps → Storable project :=
    fun project member => storable project (List.mem_cons_of_mem _ member)
  have admitted : ∀ project, next = .save project → Storable project := by
    rintro project rfl
    exact storable project List.mem_cons_self
  obtain ⟨projects, tracks⟩ := exists_tracks fresh steps before
  obtain ⟨answered, unchanged, _⟩ := tracks.step next admitted
  refine ⟨answered, unchanged, ?_⟩
  intro other elsewhere otherFresh
  obtain ⟨others, otherTracks⟩ := exists_tracks otherFresh steps before
  exact answered.agreeButTies (otherTracks.step next admitted).1

theorem storable_sample {id : String} (inhabited : id ≠ "")
    (letters : ∀ c ∈ id.toList, Files.isSafe c = true)
    (short : (id ++ Files.ending).utf8ByteSize ≤ Directory.nameLimit) :
    Storable (Files.sample id) where
  inhabited := inhabited
  letters := letters
  short := short
  writable := rfl
  restored := Files.reread_sample id

/-- Two projects of the same time in a directory, one of them saved again and one deleted. -/
def sampleSteps : List Step :=
  [.save (Files.sample "b"), .save (Files.sample "a-1"), .delete "c",
    .save (Files.sample "b"), .delete "a-1"]

theorem storable_sampleSteps :
    ∀ project, .save project ∈ .list (some "u") :: sampleSteps → Storable project := by
  intro project member
  simp only [sampleSteps, List.mem_cons, reduceCtorEq, Step.save.injEq, List.not_mem_nil,
    or_false, false_or] at member
  rcases member with rfl | rfl | rfl
  · exact storable_sample (by decide) (by simp [Files.isSafe]) (by decide)
  · exact storable_sample (by decide) (by simp [Files.isSafe]) (by decide)
  · exact storable_sample (by decide) (by simp [Files.isSafe]) (by decide)

theorem sampleSteps_answered :
    (∀ project, .save project ∈ .list (some "u") :: sampleSteps → Storable project) ∧
      Keeping.sampleWorld.store = Keeping.directory.store [] ∧
      (Step.list (some "u")).IsAnswered (Step.knownAfter sampleSteps)
        ((Step.list (some "u")).action.perform (Step.after sampleSteps Keeping.sampleWorld)).1 :=
  have fresh : Keeping.sampleWorld.store = Keeping.directory.store [] := rfl
  ⟨storable_sampleSteps, fresh, (answers_as_map storable_sampleSteps fresh).1⟩

/-- The empty id has only admitted characters, and names no file. -/
theorem save_unnamed_not_answered :
    (∀ c ∈ (Files.sample "").id.toList, Files.isSafe c = true) ∧
      ((Files.sample "").id ++ Files.ending).utf8ByteSize ≤ Directory.nameLimit ∧
      (Files.sample "").isWritable = true ∧ Files.reread (Files.sample "") = .ok (Files.sample "") ∧
      ¬ (Step.save (Files.sample "")).IsAnswered (Step.knownAfter [])
        ((Step.save (Files.sample "")).action.perform (Step.after [] Keeping.sampleWorld)).1 := by
  refine ⟨by simp [Files.sample], by decide, rfl, Files.reread_sample "", ?_⟩
  intro answered
  have refused : ¬ Keeping.directory.Admits (Files.sample "") := by
    intro admits
    cases admits.safe
  have fresh : (Step.after [] Keeping.sampleWorld).store = Keeping.directory.store [] := rfl
  obtain ⟨fault, failed⟩ := Keeping.perform_save_of_not_admits fresh refused
  rw [Step.IsAnswered, Step.action, Action.perform_map, failed] at answered
  cases answered

end StageGraph.Store
