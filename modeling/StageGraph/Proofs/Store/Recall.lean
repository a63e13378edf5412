import StageGraph.Proofs.Json.Echoes
import StageGraph.Proofs.Project

/-!
# Projects as their documents give them back

A document of a project tells its own times, so it is read alike at any time.  If
it can be read at all, the project that is read of it has the same id, name,
description and user, the same moments, stages with the same ids and links with the
same ends, whatever the configurations hold.
-/

namespace StageGraph

/-- Items that are read of what was written of other items correspond to these one by
one, when each of them does. -/
theorem Checked.forall₂_of_echoes {α β : Type} {form : α → Value} {read : Value → Checked β}
    {Recalls : α → β → Prop}
    (single : ∀ {saved value item}, Json.Echoes (form saved) value → read value = .ok item →
      Recalls saved item)
    {place : Nat} {saved : List α} {values : List Value} {items : List β}
    (echoes : Json.EchoesItems (saved.map form) values)
    (done : each read place values = .ok items) : List.Forall₂ Recalls saved items := by
  induction saved generalizing place values items with
  | nil =>
      rw [List.map_nil, Json.EchoesItems] at echoes
      subst echoes
      cases done
      exact .nil
  | cons first saved induction =>
      rw [List.map_cons, Json.EchoesItems] at echoes
      obtain ⟨value, rest, rfl, firstEcho, restEcho⟩ := echoes
      obtain ⟨pair, parts, rfl⟩ := map_eq_ok done
      obtain ⟨head, later⟩ := both_eq_ok_iff.mp parts
      exact .cons (single firstEcho (under_eq_ok_iff.mp head)) (induction restEcho later)

theorem map_eq_map_of_forall₂ {α β γ : Type} {left : β → γ} {right : α → γ}
    {saved : List α} {items : List β}
    (same : List.Forall₂ (fun first second => left second = right first) saved items) :
    items.map left = saved.map right := by
  induction same with
  | nil => rfl
  | cons head _ induction => rw [List.map_cons, List.map_cons, head, induction]

namespace Stage

/-- What is read of a stage's record is the stage as far as its texts go. -/
structure Recalls (saved read : Stage) : Prop where
  id : read.id = saved.id
  writable : saved.isWritable = true → read.isWritable = true

theorem isWritable_iff (stage : Stage) :
    stage.isWritable = true ↔ Value.entriesDepth stage.configuration ≤ Config.depthLimit := by
  rw [isWritable, Config.isWritable]
  induction stage.configuration with
  | nil => simp [Value.entriesDepth]
  | cons entry rest induction =>
      simp only [List.all_cons, Bool.and_eq_true, decide_eq_true_eq, induction,
        Value.entriesDepth]
      omega

theorem recalls_of_echoes {saved read : Stage} {origin : Origin} {value : Value}
    (echoes : Json.Echoes saved.toValue value) (done : Stage.read origin value = .ok read) :
    Recalls saved read := by
  simp only [toValue, Json.Echoes, Json.EchoesEntries] at echoes
  obtain ⟨_, rfl, _, _, rfl, rfl, _, _, rfl, rfl, _, _, rfl, rfl, _, _, rfl,
    ⟨configuration, rfl, inner⟩, rfl⟩ := echoes
  have shape : read =
      { id := saved.id
        type := TypeName.ofValue (.text saved.type)
        category := readCategory (.text saved.category)
        configuration := Ledger.putAll [] configuration } := by
    simp [Stage.read, Checked.model, Checked.required, Checked.withDefault, Ledger.putAll,
      Ledger.put, Ledger.get?, readConfiguration, configurationNames, Ledger.has,
      Checked.under, Checked.both, Checked.text, Checked.record, Value.asText?, bind,
      Except.bind, pure, Except.pure] at done
    exact done.symm
  rw [shape]
  refine ⟨rfl, ?_⟩
  rw [isWritable_iff, isWritable_iff]
  intro writable
  have merged := Json.entriesDepth_putAll_le [] configuration
  have written := Json.entriesDepth_le_of_echoes inner
  simp only [Value.entriesDepth] at merged ⊢
  omega

end Stage

namespace Link

theorem eq_toValue_of_echoes {link : Link} {value : Value}
    (echoes : Json.Echoes link.toValue value) : value = link.toValue := by
  simp only [toValue, Json.Echoes, Json.EchoesEntries] at echoes
  obtain ⟨_, rfl, _, _, rfl, rfl, _, _, rfl, rfl, _, _, rfl, rfl, rfl⟩ := echoes
  rfl

theorem read_toValue_eq (link : Link) (origin : Origin) :
    read origin link.toValue = .ok (make link.id link.source link.target) := by
  simp [read, toValue, Checked.model, Checked.required, Checked.withDefault, Ledger.get?,
    Checked.under, Checked.both, Checked.text, Value.asText?, bind, Except.bind, pure,
    Except.pure]

/-- What is read of a link's record is the link as far as its ends go. -/
structure Recalls (saved read : Link) : Prop where
  source : read.source = saved.source
  target : read.target = saved.target

theorem recalls_of_echoes {saved read : Link} {origin : Origin} {value : Value}
    (echoes : Json.Echoes saved.toValue value) (done : Link.read origin value = .ok read) :
    Recalls saved read := by
  rw [eq_toValue_of_echoes echoes, read_toValue_eq] at done
  rw [← Except.ok.inj done]
  exact ⟨rfl, rfl⟩

end Link

namespace Flow

/-- What is read of a flow's records is the flow as far as its texts go. -/
structure Recalls (saved read : Flow) : Prop where
  stages : List.Forall₂ Stage.Recalls saved.stages read.stages
  links : List.Forall₂ Link.Recalls saved.links read.links

theorem recalls_of_echoes {saved read : Flow} {origin : Origin} {entries : Config}
    {stageValues linkValues : List Value}
    (stagesEcho : Json.EchoesItems (saved.stages.map Stage.toValue) stageValues)
    (linksEcho : Json.EchoesItems (saved.links.map Link.toValue) linkValues)
    (nodes : Ledger.get? entries "nodes" = some (.list stageValues))
    (edges : Ledger.get? entries "edges" = some (.list linkValues))
    (done : readMembers origin entries = .ok read) : Recalls saved read := by
  obtain ⟨⟨stages, links⟩, parts, same⟩ := Checked.bind_eq_ok done
  cases same
  obtain ⟨stagesDone, linksDone⟩ := Checked.both_eq_ok_iff.mp parts
  rw [readStages, Checked.withDefault, nodes] at stagesDone
  rw [readLinks, Checked.withDefault, edges] at linksDone
  have stagesRecalled := Checked.forall₂_of_echoes Stage.recalls_of_echoes stagesEcho
    (Checked.under_eq_ok_iff.mp stagesDone)
  have linksRecalled := Checked.forall₂_of_echoes Link.recalls_of_echoes linksEcho
    (Checked.under_eq_ok_iff.mp linksDone)
  exact ⟨stagesRecalled, linksRecalled⟩

namespace Recalls

variable {saved read : Flow}

theorem refl (flow : Flow) : Recalls flow flow :=
  ⟨List.forall₂_same.mpr fun _ _ => ⟨rfl, id⟩, List.forall₂_same.mpr fun _ _ => ⟨rfl, rfl⟩⟩

theorem map_id (recalls : Recalls saved read) :
    read.stages.map Stage.id = saved.stages.map Stage.id :=
  map_eq_map_of_forall₂ (recalls.stages.imp fun _ _ stage => stage.id)

theorem map_source (recalls : Recalls saved read) :
    read.links.map Link.source = saved.links.map Link.source :=
  map_eq_map_of_forall₂ (recalls.links.imp fun _ _ link => link.source)

theorem map_target (recalls : Recalls saved read) :
    read.links.map Link.target = saved.links.map Link.target :=
  map_eq_map_of_forall₂ (recalls.links.imp fun _ _ link => link.target)

theorem isWritable (recalls : Recalls saved read) (writable : saved.isWritable = true) :
    read.isWritable = true := by
  rw [Flow.isWritable, List.all_eq_true] at writable ⊢
  have stages := recalls.stages
  generalize saved.stages = before, read.stages = after at stages writable ⊢
  induction stages with
  | nil => simp
  | cons head _ induction =>
      obtain ⟨first, rest⟩ := List.forall_mem_cons.mp writable
      exact List.forall_mem_cons.mpr ⟨head.writable first, induction rest⟩

end Recalls

end Flow

namespace Project

/-- What is read of a project's document is the project as far as its texts go. -/
structure Recalls (saved read : Project) : Prop where
  id : read.id = saved.id
  name : read.name = saved.name
  description : read.description = saved.description
  userId : read.userId = saved.userId
  flow : saved.flow.Recalls read.flow
  createdAt : saved.createdAt.micros < Moment.limit → read.createdAt = saved.createdAt
  updatedAt : saved.updatedAt.micros < Moment.limit → read.updatedAt = saved.updatedAt

theorem Recalls.refl (project : Project) : Recalls project project :=
  ⟨rfl, rfl, rfl, rfl, .refl _, fun _ => rfl, fun _ => rfl⟩

theorem readMoment_of_get? {entries : Config} {name : String} {value : Value}
    (found : Ledger.get? entries name = some value) (clock : Clock) :
    readMoment entries name clock =
      (Checked.under (.name name) ((WrittenTime.read value).map WrittenTime.moment?), clock) := by
  rw [readMoment, found]

/-- The project of a content and of two moments, once all of them were read. -/
def compose (content : Checked Content) (created updated : Checked (Option Moment)) :
    Except ProjectFault Project :=
  match created, updated with
  | .ok none, _ | _, .ok none => .error .beyondCalendar
  | created, updated =>
    match Checked.both content (Checked.both created updated) with
    | .ok (content, some createdAt, some updatedAt) =>
      .ok {
        id := content.id
        name := content.name
        description := content.description
        flow := content.flow
        userId := content.userId
        createdAt := createdAt
        updatedAt := updatedAt }
    | .ok _ => .error .beyondCalendar
    | .error issues => .error (.invalid issues)

/-- A record is read to the project of its content and of its moments, and the clock is left
after the first of these or after both. -/
theorem read_outcome {entries : Config} {clock between later : Clock}
    {created updated : Checked (Option Moment)} (origin : Origin)
    (first : readMoment entries "created_at" clock = (created, between))
    (second : readMoment entries "updated_at" between = (updated, later)) :
    (read origin (.record entries) clock).1 =
        compose (readContent origin entries) created updated ∧
      ((read origin (.record entries) clock).2 = between ∨
        (read origin (.record entries) clock).2 = later) := by
  simp only [read, Checked.model, first]
  generalize readContent origin entries = content
  rcases created with issues | (_ | createdAt)
  case ok.none => exact ⟨by cases updated <;> rfl, .inl rfl⟩
  all_goals
    refine ⟨?_, .inr ?_⟩ <;> simp only [second] <;>
      rcases updated with more | (_ | updatedAt) <;> rcases content with most | content <;> rfl

/-- A record with both moments is read alike at any time. -/
theorem read_eq_compose {origin : Origin} {entries : Config} {created updated : Value}
    (createdFound : Ledger.get? entries "created_at" = some created)
    (updatedFound : Ledger.get? entries "updated_at" = some updated) (clock : Clock) :
    read origin (.record entries) clock =
      (compose (readContent origin entries)
        (Checked.under (.name "created_at")
          ((WrittenTime.read created).map WrittenTime.moment?))
        (Checked.under (.name "updated_at")
          ((WrittenTime.read updated).map WrittenTime.moment?)), clock) := by
  obtain ⟨outcome, kept⟩ := read_outcome origin (readMoment_of_get? createdFound clock)
    (readMoment_of_get? updatedFound clock)
  exact Prod.ext outcome (or_self_iff.mp kept)

theorem of_compose_eq_ok {content : Checked Content} {created updated : Checked (Option Moment)}
    {project : Project} (done : compose content created updated = .ok project) :
    content = .ok {
        id := project.id
        name := project.name
        description := project.description
        flow := project.flow
        userId := project.userId } ∧
      created = .ok (some project.createdAt) ∧ updated = .ok (some project.updatedAt) := by
  rcases created with issues | (_ | createdAt) <;> rcases updated with more | (_ | updatedAt) <;>
    rcases content with most | content <;> cases done
  exact ⟨rfl, rfl, rfl⟩

/-- What is read of the record of a project is read alike at any time, and is the project
as far as its texts go. -/
theorem exists_read_of_echoes {saved : Project} {value : Value}
    (echoes : Json.Echoes saved.toValue value) (origin : Origin) :
    ∃ outcome, (∀ clock, read origin value clock = (outcome, clock)) ∧
      ∀ project, outcome = .ok project → Recalls saved project := by
  simp only [toValue, Json.Echoes, Json.EchoesEntries] at echoes
  obtain ⟨_, rfl, _, _, rfl, rfl, _, _, rfl, rfl, _, _, rfl, ⟨stageValues, rfl, stagesEcho⟩,
    _, _, rfl, ⟨linkValues, rfl, linksEcho⟩, _, _, rfl, rfl, _, _, rfl, rfl, _, _, rfl, rfl,
    _, _, rfl, rfl, rfl⟩ := echoes
  refine ⟨_, read_eq_compose rfl rfl, ?_⟩
  intro project done
  obtain ⟨contentDone, createdDone, updatedDone⟩ := of_compose_eq_ok done
  obtain ⟨⟨name, description, flow, id, userId⟩, parts, same⟩ := Checked.bind_eq_ok contentDone
  obtain ⟨nameRead, parts⟩ := Checked.both_eq_ok_iff.mp parts
  obtain ⟨descriptionRead, parts⟩ := Checked.both_eq_ok_iff.mp parts
  obtain ⟨flowRead, parts⟩ := Checked.both_eq_ok_iff.mp parts
  obtain ⟨idRead, userRead⟩ := Checked.both_eq_ok_iff.mp parts
  cases project
  cases same
  cases nameRead
  cases descriptionRead
  cases idRead
  cases userRead
  constructor
  · rfl
  · rfl
  · rfl
  · rfl
  · exact Flow.recalls_of_echoes stagesEcho linksEcho rfl rfl flowRead
  · intro within
    rw [Moment.read_text within] at createdDone
    cases createdDone
    rfl
  · intro within
    rw [Moment.read_text within] at updatedDone
    cases updatedDone
    rfl

end Project

namespace Files

-- Kept folded: opening it in a goal would read a whole document.
/-- What the document of a project is read as. -/
@[irreducible] def echo (project : Project) : Except ProjectFault Project :=
  (ofDocument (document project) { course := fun _ => none }).1

theorem exists_echo (project : Project) :
    ∃ outcome, (∀ clock, ofDocument (document project) clock = (outcome, clock)) ∧
      ∀ read, outcome = .ok read → Project.Recalls project read := by
  simp only [ofDocument]
  split
  · rename_i value done
    exact Project.exists_read_of_echoes (Json.echoes_of_read done) .given
  · refine ⟨_, fun clock => rfl, ?_⟩
    intro read done
    cases done

/-- A document is read alike at any time, and the clock is left alone. -/
theorem ofDocument_eq_echo (project : Project) (clock : Clock) :
    ofDocument (document project) clock = (echo project, clock) := by
  obtain ⟨outcome, settled, _⟩ := exists_echo project
  rw [echo, settled, settled]

theorem recalls_of_echo {project read : Project} (done : echo project = .ok read) :
    project.Recalls read := by
  obtain ⟨outcome, settled, recalls⟩ := exists_echo project
  rw [echo, settled] at done
  exact recalls read done

end Files

end StageGraph
