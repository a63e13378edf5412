import StageGraph.Proofs.Categories
import StageGraph.Proofs.Workshop.Course

/-!
# Stored flows and flows on request

A flow may be compiled on request, with categories filled in, or be stored as a project
and compiled from there, as it is.  Both ways lead to the same report and the same
script, and the notebook on request is the notebook of the flow as it is.
-/

namespace StageGraph.Workshop

/-- A project can be made in a world: its clock shows two moments, and the defaults are
texts. -/
structure Ready (workshop : Workshop) (world : World) : Prop where
  created : world.time?.isSome
  updated : world.tick.time?.isSome
  name : workshop.defaultName.asText?.isSome
  user : workshop.defaultUser.asText?.isSome

/-- What is compiled of a flow on request is what is compiled of it as it is, and of a
stored project that holds it. -/
structure CompilesAlike (workshop : Workshop) (flow : Flow) (project : Project)
    (world : World) : Prop where
  holds : project.flow = flow
  report : (workshop.report (.text project.id)).perform world =
    (Compiler.report workshop.catalog flow, world)
  script : (workshop.script (.text project.id)).perform world =
    (Compiler.script workshop.catalog flow, world)
  labels : ∀ labels, Compiler.script workshop.catalog flow labels =
    (Script.make workshop.catalog flow labels).mapError .obstacle
  notebook : ∀ name time, Compiler.notebook workshop.catalog flow name time =
    (Notebook.make workshop.catalog flow name time).mapError .obstacle

theorem exists_memberOr (name text : String) {default : Value}
    (isText : default.asText?.isSome) : ∃ member, memberOr name text default = .ok member := by
  obtain ⟨content, read⟩ := Option.isSome_iff_exists.mp isText
  by_cases empty : text = ""
  · exact ⟨content, Checked.under_eq_ok_iff.mpr (by
      rw [if_pos empty]
      exact Checked.text_eq_ok_iff.mpr read)⟩
  · exact ⟨text, Checked.under_eq_ok_iff.mpr (by
      rw [if_neg empty]
      exact Checked.text_eq_ok_iff.mpr rfl)⟩

variable {workshop : Workshop} {world : World} {projects : Ledger Project}

/-- A draft becomes a project in memory that holds its flow. -/
theorem exists_created (held : world.store = .memory projects) (ready : workshop.Ready world)
    (draft : Draft) :
    ∃ project later, (workshop.create draft).perform world = (.ok project, later) ∧
      project.flow = draft.flow ∧
      later.store = .memory (Ledger.put projects project.id project) := by
  obtain ⟨createdAt, first⟩ := Option.isSome_iff_exists.mp ready.created
  obtain ⟨updatedAt, second⟩ := Option.isSome_iff_exists.mp ready.updated
  obtain ⟨name, nameRead⟩ :=
    exists_memberOr "name" (Text.trimText (draft.name.getD "")) ready.name
  obtain ⟨userId, userRead⟩ := exists_memberOr "user_id" (draft.userId.getD "") ready.user
  let project : Project := {
    id := idText (world.issued + 1)
    name := name
    description := draft.description
    flow := draft.flow
    userId := userId
    createdAt := createdAt
    updatedAt := updatedAt }
  have drafted : workshop.draftProject draft (idText (world.issued + 1)) createdAt updatedAt =
      .ok project := by
    have bothRead : Checked.both
        (memberOr "name" (Text.trimText (draft.name.getD "")) workshop.defaultName)
        (memberOr "user_id" (draft.userId.getD "") workshop.defaultUser) = .ok (name, userId) :=
      Checked.both_eq_ok_iff.mpr ⟨nameRead, userRead⟩
    rw [draftProject, bothRead]
    rfl
  let numbered : World := { world with issued := world.issued + 1 }
  have kept : numbered.tick.tick.store = Keeping.memory.store projects := held
  refine ⟨project, { numbered.tick.tick with
    store := .memory (Ledger.put projects project.id project) }, ?_, rfl, rfl⟩
  rw [perform_create]
  simp only [first, second, drafted]
  exact Keeping.perform_save kept trivial

/-- In memory a project is found again under its id. -/
theorem perform_load_of_memory {project : Project}
    (held : world.store = .memory (Ledger.put projects project.id project)) :
    (Store.load (.text project.id)).perform world = (.ok project, world) := by
  have found : Store.find (Ledger.put projects project.id project) (.text project.id) =
      .ok project := by
    simp [Store.find, Value.asText?, Ledger.get?_put]
  obtain ⟨store, clock, issued, stamp⟩ := world
  obtain rfl : store = _ := held
  rw [← found]
  exact Action.perform_ofResult _ _

/-- A flow that is stored as a project compiles like the flow on request, under the
built-in catalog and under every other whose rules look at types and configurations. -/
theorem create_compilesAlike
    (covered : workshop.catalog = Catalog.builtin ∨ workshop.catalog.LooksAtContents)
    (held : world.store = .memory projects) (ready : workshop.Ready world) (draft : Draft) :
    ∃ project later, (workshop.create draft).perform world = (.ok project, later) ∧
      workshop.CompilesAlike draft.flow project later := by
  have looks : workshop.catalog.LooksAtContents := by
    rcases covered with builtin | looks
    · exact builtin ▸ Catalog.looksAtContents_builtin
    · exact looks
  obtain ⟨project, later, performed, same, kept⟩ := exists_created held ready draft
  have loaded := perform_load_of_memory kept
  refine ⟨project, later, performed, same, ?_, ?_, ?_, ?_⟩
  · rw [report, Action.perform_bind, loaded, Compiler.report,
      Compiler.makeReport_withCategories looks, ← same]
    exact Action.perform_ofResult _ _
  · rw [script, Action.perform_bind, loaded, Compiler.script,
      Compiler.makeScript_withCategories, ← same]
    exact Action.perform_ofResult _ _
  · intro labels
    rw [Compiler.script, Compiler.makeScript_withCategories]
  · intro name time
    rw [Compiler.notebook, Compiler.makeNotebook_withCategories]

/-- A stage of the data phase that does not say so, before one of another phase. -/
def sampleDraft : Draft :=
  { flow := {
      stages := [
        { id := "load", type := TypeName.ingest },
        { id := "serve", type := TypeName.deployment, category := "data" }]
      links := [Link.make "" "load" "serve"] } }

/-- An empty memory and a clock. -/
def emptyMemory : World :=
  { store := .memory [], clock := Clock.steady 63882000000000000 1 }

theorem ready_emptyMemory : Ready {} emptyMemory where
  created := by decide
  updated := by decide
  name := rfl
  user := rfl

theorem sampleDraft_compilesAlike :
    (({} : Workshop).catalog = Catalog.builtin ∨ ({} : Workshop).catalog.LooksAtContents) ∧
      emptyMemory.store = .memory [] ∧ Ready {} emptyMemory ∧
      ∃ project later, (({} : Workshop).create sampleDraft).perform emptyMemory =
          (.ok project, later) ∧
        CompilesAlike {} sampleDraft.flow project later :=
  ⟨.inl rfl, rfl, ready_emptyMemory,
    create_compilesAlike (.inl rfl) rfl ready_emptyMemory sampleDraft⟩

end StageGraph.Workshop
