import StageGraph.Proofs.Script.Parts

/-!
# Scripts are composed of the scripts of their stages

With ids that do not repeat, the script of a flow holds for every stage what the
stage's own script holds, in the order of the flow, and nothing else.  Nothing of
what the templates give is lost either: a line that is not blank stands among the
imports or in the body of its stage.
-/

namespace StageGraph.Script

variable {catalog : Catalog} {flow : Flow} {labels : Bool} {stage : Stage}

/-- Every line that is not blank of a text stands, without trailing blanks, among
some imports or in some body. -/
def Keeps (imports : List String) (body? : Option String) (text : String) : Prop :=
  ∀ line ∈ Text.lines text.toList, Text.trimEnd line ≠ [] →
    String.ofList (Text.trimEnd line) ∈ imports ∨
      ∃ body, body? = some body ∧ Text.trimEnd line ∈ Text.lines body.toList

/-- A script is put together from the scripts of the stages of a flow. -/
structure ComposedOf (catalog : Catalog) (flow : Flow) (labels : Bool)
    (script : Script) : Prop where
  /-- Every stage has a script of its own. -/
  made : ∀ stage ∈ flow.stages,
    make catalog (Flow.single stage) labels = .ok (alone catalog labels stage)
  /-- A stage has a body exactly when it has one by itself, and the same one. -/
  bodies : ∀ stage ∈ flow.stages, Ledger.get? script.bodies stage.id =
    Ledger.get? (alone catalog labels stage).bodies stage.id
  /-- The bodies stand in execution order. -/
  keys : (Ledger.keys script.bodies).Sublist (flow.order.map Stage.id)
  importsOnce : script.imports.Nodup
  /-- The imports are those of the stages in execution order, without repeats. -/
  imports : script.imports =
    distinct (flow.order.flatMap fun stage => (alone catalog labels stage).imports)
  /-- Nothing that a template gives is lost. -/
  lossless : ∀ stage ∈ flow.stages, ∀ kind text,
    catalog.lookup stage.type = some kind →
    kind.render stage.configuration = .ok text →
    Keeps script.imports (Ledger.get? script.bodies stage.id) text
  /-- No import stays in a body. -/
  bodiesFree : ∀ entry ∈ script.bodies, ∀ line ∈ Text.lines entry.2.toList,
    Line.isImport line = false
  /-- The body of a stage is the same in every other flow of the stage: other
  configurations, stages and links do not reach it. -/
  independent : ∀ other otherScript, (other.stages.map Stage.id).Nodup →
    make catalog other labels = .ok otherScript →
    ∀ stage ∈ flow.stages, stage ∈ other.stages →
      Ledger.get? otherScript.bodies stage.id = Ledger.get? script.bodies stage.id

theorem imports_eq_distinct_alone : (ofFlow catalog flow labels).imports =
    distinct (flow.order.flatMap fun stage => (alone catalog labels stage).imports) := by
  simp only [imports_ofFlow, imports_alone]
  exact (distinct_flatMap_distinct (importsIn catalog) flow.order).symm

theorem mem_imports_ofFlow {line : String} (member : stage ∈ flow.stages)
    (brought : line ∈ importsIn catalog stage) :
    line ∈ (ofFlow catalog flow labels).imports := by
  rw [imports_ofFlow, mem_distinct]
  have inOrder := flow.order_perm_stages.mem_iff.mpr member
  exact List.mem_flatMap.mpr ⟨stage, inOrder, brought⟩

/-- What a template gives for a stage of the flow is kept. -/
theorem keeps_ofFlow {kind : Kind} {text : String} (member : stage ∈ flow.stages)
    (found : catalog.lookup stage.type = some kind)
    (rendered : kind.render stage.configuration = .ok text) :
    Keeps (ofFlow catalog flow labels).imports (bodyOf? catalog stage) text := by
  intro line lineMember inhabited
  have block : block? catalog stage = some (Block.ofText text) :=
    block?_eq_some_iff.mpr ⟨kind, text, found, rendered, rfl⟩
  have trimmed : Text.trimEnd line ∈ Block.trimmedLines text :=
    Block.mem_trimmedLines.mpr ⟨line, lineMember, rfl⟩
  rcases Block.mem_imports_or_body trimmed inhabited with imported | kept
  · left
    apply mem_imports_ofFlow member
    simpa [importsIn, block, Block.importTexts] using ⟨_, imported, rfl⟩
  · right
    refine ⟨_, bodyOf?_eq_some_iff.mpr ⟨_, block, List.ne_nil_of_mem kept, rfl⟩, ?_⟩
    rwa [Block.lines_bodyText]

theorem composedOf_ofFlow (nodup : (flow.stages.map Stage.id).Nodup)
    (free : obstacle? catalog flow = none) :
    ComposedOf catalog flow labels (ofFlow catalog flow labels) where
  made := by
    intro stage member
    exact make_single (make_eq_ok_iff.mpr ⟨free, rfl⟩) member
  bodies := by
    intro stage member
    rw [get?_bodies_ofFlow nodup member, get?_bodies_alone]
  keys := by
    rw [bodies_ofFlow nodup]
    exact keys_placedBodies_sublist flow.order
  importsOnce := by
    rw [imports_ofFlow]
    exact nodup_distinct _
  imports := imports_eq_distinct_alone
  lossless := by
    intro stage member kind text found rendered
    rw [get?_bodies_ofFlow nodup member]
    exact keeps_ofFlow member found rendered
  bodiesFree := by
    intro entry entryMember line lineMember
    rw [bodies_ofFlow nodup] at entryMember
    obtain ⟨stage, _, brings⟩ := List.mem_filterMap.mp entryMember
    obtain ⟨body, bodyFound, rfl⟩ := Option.map_eq_some_iff.mp brings
    exact not_isImport_of_mem_body bodyFound lineMember
  independent := by
    intro other otherScript otherNodup otherMade stage member otherMember
    obtain ⟨_, rfl⟩ := make_eq_ok_iff.mp otherMade
    rw [get?_bodies_ofFlow otherNodup otherMember, get?_bodies_ofFlow nodup member]

/-- Data that are loaded and then cleaned. -/
def loadThenClean : Flow :=
  { stages := [
      { id := "clean", type := TypeName.preprocess },
      { id := "load", type := TypeName.ingest }]
    links := [Link.make "" "load" "clean"] }

end StageGraph.Script
