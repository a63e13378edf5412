import Mathlib
import StageGraph.Project
import StageGraph.Proofs.Json.Documents
import StageGraph.Proofs.Reading
import StageGraph.Proofs.Text.LowerCase
import StageGraph.Proofs.Time.Written
import StageGraph.Store.Files

/-!
# Documents are read back

What is read of given data is normal: types are spelled out, categories are in
lower case, links have ids, moments lie within the calendar.  Normal data is read
back from its own record as it is, so a project that was read once is read from
its document without change.
-/

namespace StageGraph

namespace Checked

variable {α : Type} {read : Value → Checked α}

theorem list_map_eq_ok {items : List α} {form : α → Value}
    (back : ∀ item ∈ items, read (form item) = .ok item) :
    list read (.list (items.map form)) = .ok items := by
  have general : ∀ place, each read place (items.map form) = .ok items := by
    induction items with
    | nil => intro place; rfl
    | cons item rest induction =>
        intro place
        obtain ⟨itemBack, restBack⟩ := List.forall_mem_cons.mp back
        rw [List.map_cons, each, itemBack, induction restBack]
        rfl
  exact general 0

end Checked

/-! ## Stages -/

namespace Stage

/-- The type is spelled out and the category is in lower case. -/
structure Normal (stage : Stage) : Prop where
  type : TypeName.canonical stage.type = stage.type
  category : Text.lower stage.category = stage.category

theorem lower_readCategory (value : Value) :
    Text.lower (readCategory value) = readCategory value := by
  unfold readCategory
  split
  · exact Text.lower_lower _
  · split
    · exact Text.lower_lower _
    · rfl

theorem normal_of_read {origin : Origin} {value : Value} {stage : Stage}
    (done : read origin value = .ok stage) : stage.Normal := by
  refine ⟨canonical_type_of_read done, ?_⟩
  obtain ⟨entries, _, done⟩ := Checked.bind_eq_ok done
  obtain ⟨⟨id, type, category, configuration⟩, parts, rest⟩ := Checked.bind_eq_ok done
  cases rest
  have later := (Checked.both_eq_ok_iff.mp parts).2
  have latest := (Checked.both_eq_ok_iff.mp later).2
  have categoryDone := (Checked.both_eq_ok_iff.mp latest).1
  rcases Checked.withDefault_eq_ok categoryDone with default | ⟨given, spelled⟩
  · have empty : category = "" := default
    rw [empty]
    rfl
  · have lower := lower_readCategory given
    rw [Except.ok.inj spelled] at lower
    exact lower

theorem ofValue_text {name : String} (full : TypeName.canonical name = name) :
    TypeName.ofValue (.text name) = name := by
  by_cases empty : name = "" <;> simp [TypeName.ofValue, Value.truthy, Value.display, full, empty]

theorem readCategory_text {category : String} (lower : Text.lower category = category) :
    readCategory (.text category) = category := by
  by_cases empty : category = "" <;>
    simp [readCategory, Value.truthy, Value.display, lower, empty]

theorem Normal.read_toValue {stage : Stage} (normal : stage.Normal) (origin : Origin) :
    read origin stage.toValue = .ok stage := by
  have type := ofValue_text normal.type
  have category := readCategory_text normal.category
  simp [read, toValue, Checked.model, Checked.required, Checked.withDefault, Ledger.get?,
    readConfiguration, configurationNames, Ledger.has, Checked.under, Checked.both,
    Checked.text, Checked.record, Value.asText?, type, category, bind, Except.bind, pure,
    Except.pure]

end Stage

/-! ## Links and flows -/

namespace Link

theorem make_id_ne_empty (id source target : String) : (make id source target).id ≠ "" := by
  by_cases empty : id = ""
  · simp [make, empty, defaultId]
  · simp [make, empty]

theorem id_ne_empty_of_read {origin : Origin} {value : Value} {link : Link}
    (done : read origin value = .ok link) : link.id ≠ "" := by
  obtain ⟨entries, _, done⟩ := Checked.bind_eq_ok done
  obtain ⟨⟨id, source, target⟩, _, made⟩ := Checked.bind_eq_ok done
  rw [← Except.ok.inj made]
  exact make_id_ne_empty id source target

theorem read_toValue {link : Link} (named : link.id ≠ "") (origin : Origin) :
    read origin link.toValue = .ok link := by
  simp [read, toValue, Checked.model, Checked.required, Checked.withDefault, Ledger.get?,
    Checked.under, Checked.both, Checked.text, Value.asText?, make, named, bind, Except.bind,
    pure, Except.pure]

end Link

namespace Flow

/-- All stages are normal and all links have ids. -/
structure Normal (flow : Flow) : Prop where
  stages : ∀ stage ∈ flow.stages, stage.Normal
  links : ∀ link ∈ flow.links, link.id ≠ ""

theorem normal_of_readMembers {origin : Origin} {entries : Config} {flow : Flow}
    (done : readMembers origin entries = .ok flow) : flow.Normal := by
  obtain ⟨⟨stages, links⟩, parts, rest⟩ := Checked.bind_eq_ok done
  cases rest
  obtain ⟨stagesDone, linksDone⟩ := Checked.both_eq_ok_iff.mp parts
  constructor
  · intro stage member
    rcases Checked.withDefault_eq_ok stagesDone with default | ⟨given, listed⟩
    · have none : stages = [] := default
      rw [none] at member
      cases member
    · obtain ⟨part, read⟩ := Checked.of_mem_list listed member
      exact Stage.normal_of_read read
  · intro link member
    rcases Checked.withDefault_eq_ok linksDone with default | ⟨given, listed⟩
    · have none : links = [] := default
      rw [none] at member
      cases member
    · obtain ⟨part, read⟩ := Checked.of_mem_list listed member
      exact Link.id_ne_empty_of_read read

theorem Normal.readMembers_eq {flow : Flow} (normal : flow.Normal) {origin : Origin}
    {entries : Config}
    (nodes : Ledger.get? entries "nodes" = some (.list (flow.stages.map Stage.toValue)))
    (edges : Ledger.get? entries "edges" = some (.list (flow.links.map Link.toValue))) :
    readMembers origin entries = .ok flow := by
  have stages : readStages origin entries = .ok flow.stages := by
    rw [readStages, Checked.withDefault, nodes]
    apply Checked.under_eq_ok_iff.mpr
    apply Checked.list_map_eq_ok
    intro stage member
    exact (normal.stages stage member).read_toValue origin
  have links : readLinks origin entries = .ok flow.links := by
    rw [readLinks, Checked.withDefault, edges]
    apply Checked.under_eq_ok_iff.mpr
    apply Checked.list_map_eq_ok
    intro link member
    exact Link.read_toValue (normal.links link member) origin
  rw [readMembers, stages, links]
  rfl

end Flow

/-! ## Projects -/

/-- The moments that a clock gives lie within the calendar. -/
def Clock.InCalendar (clock : Clock) : Prop :=
  ∀ reading moment, clock.course reading = some moment → moment.micros < Moment.limit

theorem Clock.inCalendar_steady (start step : Int) : (steady start step).InCalendar :=
  fun _ _ found => Moment.micros_lt_limit_of_ofMicros? found

namespace Project

/-- The flow is normal, and the moments lie within the calendar. -/
structure Normal (project : Project) : Prop where
  flow : project.flow.Normal
  createdAt : project.createdAt.micros < Moment.limit
  updatedAt : project.updatedAt.micros < Moment.limit

/-- A moment that is read or taken off the clock lies within the calendar, and the
clock keeps its course. -/
theorem readMoment_inCalendar {entries : Config} {name : String} {clock later : Clock}
    {moment : Moment} (inCalendar : clock.InCalendar)
    (done : readMoment entries name clock = (.ok (some moment), later)) :
    moment.micros < Moment.limit ∧ later.InCalendar := by
  unfold readMoment at done
  split at done
  · rename_i value _
    obtain ⟨read, rfl⟩ := Prod.mk.inj done
    obtain ⟨time, _, within⟩ := Checked.map_eq_ok (Checked.under_eq_ok_iff.mp read)
    exact ⟨Moment.micros_lt_limit_of_ofMicros? within, inCalendar⟩
  · obtain ⟨taken, rfl⟩ := Prod.mk.inj done
    exact ⟨inCalendar clock.readings moment (Except.ok.inj taken), inCalendar⟩

theorem flow_normal_of_readContent {origin : Origin} {entries : Config} {content : Content}
    (done : readContent origin entries = .ok content) : content.flow.Normal := by
  obtain ⟨⟨name, description, flow, id, userId⟩, parts, rest⟩ := Checked.bind_eq_ok done
  cases rest
  have later := (Checked.both_eq_ok_iff.mp parts).2
  have latest := (Checked.both_eq_ok_iff.mp later).2
  exact Flow.normal_of_readMembers (Checked.both_eq_ok_iff.mp latest).1

theorem normal_of_read {origin : Origin} {value : Value} {clock later : Clock}
    {project : Project} (inCalendar : clock.InCalendar)
    (done : read origin value clock = (.ok project, later)) : project.Normal := by
  unfold read at done
  split at done
  · cases done
  · split at done
    · cases done
    · rename_i created between _ createdRead
      split at done
      · cases done
      · rename_i updated final _ updatedRead
        split at done
        · rename_i content createdAt updatedAt parts
          obtain ⟨contentRead, moments⟩ := Checked.both_eq_ok_iff.mp parts
          obtain ⟨rfl, rfl⟩ := Checked.both_eq_ok_iff.mp moments
          have first := readMoment_inCalendar inCalendar createdRead
          have second := readMoment_inCalendar first.2 updatedRead
          cases done
          exact ⟨flow_normal_of_readContent contentRead, first.1, second.1⟩
        · cases done
        · cases done

theorem readMoment_text {entries : Config} {name : String} {moment : Moment}
    (within : moment.micros < Moment.limit)
    (found : Ledger.get? entries name = some (.text moment.text)) (clock : Clock) :
    readMoment entries name clock = (.ok (some moment), clock) := by
  rw [readMoment, found]
  simp only [Moment.read_text within, Checked.under]

/-- A normal project is read back from its record, and the clock is left alone. -/
theorem Normal.read_toValue {project : Project} (normal : project.Normal) (origin : Origin)
    (clock : Clock) : read origin project.toValue clock = (.ok project, clock) := by
  -- The entries stay folded, so that each lookup is settled by itself.
  obtain ⟨entries, record⟩ : ∃ entries, project.toValue = .record entries := ⟨_, rfl⟩
  have created : readMoment entries "created_at" clock =
      (.ok (some project.createdAt), clock) :=
    readMoment_text normal.createdAt (by cases record; rfl) clock
  have updated : readMoment entries "updated_at" clock =
      (.ok (some project.updatedAt), clock) :=
    readMoment_text normal.updatedAt (by cases record; rfl) clock
  have flow : Flow.readMembers origin entries = .ok project.flow :=
    normal.flow.readMembers_eq (by cases record; rfl) (by cases record; rfl)
  have content : readContent origin entries =
      .ok {
        name := project.name
        description := project.description
        flow := project.flow
        id := project.id
        userId := project.userId } := by
    rw [readContent, flow]
    cases record
    rfl
  simp only [read, record, Checked.model, created, updated, content]
  rfl

end Project

/-! ## Documents -/

namespace Files

/-- A project that was read from given data is read from its document without
change, provided that the document keeps the values in it. -/
theorem ofDocument_document {origin : Origin} {value : Value} {clock later : Clock}
    {project : Project} (inCalendar : clock.InCalendar)
    (done : Project.read origin value clock = (.ok project, later))
    (kept : Json.IsKept project.toValue) (again : Clock) :
    ofDocument (document project) again = (.ok project, again) := by
  have normal := Project.normal_of_read inCalendar done
  rw [ofDocument, document, kept]
  exact normal.read_toValue .given again

/-- A project that came with short names of types and of the configuration, a
category in capitals, a link without an id and one moment with an offset. -/
def received : Value :=
  .record [
    ("id", "p-1"), ("name", "Flow"), ("user_id", "u"),
    ("nodes", .list [
      .record [("id", "load"), ("type", "dataIngest"), ("category", "DATA"),
        ("data", .record [("path", "a.csv"), ("rows", .list [.int 3, .null, .bool true])])],
      .record [("id", "clean"), ("type", TypeName.preprocess)]]),
    ("edges", .list [.record [("source", "load"), ("target", "clean")]]),
    ("created_at", "2024-05-01T12:00:00.5+02:00")]

/-- The clock at which it came. -/
def arrival : Clock :=
  Clock.steady 63882000000000000 1

/-- The project that is read of it. -/
def stored : Project :=
  { id := "p-1"
    name := "Flow"
    userId := "u"
    flow :=
      { stages := [
          { id := "load"
            type := TypeName.ingest
            category := "data"
            configuration := [("path", "a.csv"), ("rows", .list [.int 3, .null, .bool true])] },
          { id := "clean", type := TypeName.preprocess }]
        links := [Link.make "" "load" "clean"] }
    createdAt := { micros := 63850154400500000 }
    updatedAt := { micros := 63882000000000000 } }

theorem ofDocument_document_stored :
    arrival.InCalendar ∧
      Project.read .given received arrival = (.ok stored, { arrival with readings := 1 }) ∧
      Json.IsKept stored.toValue ∧
      ofDocument (document stored) arrival = (.ok stored, arrival) := by
  have inCalendar : arrival.InCalendar := Clock.inCalendar_steady _ _
  have done :
      Project.read .given received arrival = (.ok stored, { arrival with readings := 1 }) := by
    cbv
  have three : Json.NumberKept (.integer 3) := Json.numberKept_integer (by decide)
  have kept : Json.IsKept stored.toValue := by
    apply Json.isKept_of_plain
    simp [Json.Plain, Json.PlainEntries, Json.PlainItems, Project.toValue, stored, Stage.toValue,
      Link.toValue, Ledger.keys, Json.Tolerance.stored, Value.int, three]
  exact ⟨inCalendar, done, kept, ofDocument_document inCalendar done kept arrival⟩

end Files

end StageGraph
