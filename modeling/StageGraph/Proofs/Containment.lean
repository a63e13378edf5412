import StageGraph.Kind.Declared
import StageGraph.Notebook
import StageGraph.Proofs.Graph.Lookups
import StageGraph.Proofs.Report
import StageGraph.Proofs.Script.Parts

/-!
# Compiling never stops

For every flow, whatever its ids, types, links and configurations are, a
well-formed catalog has an order, a script and a notebook, and it has a report unless
a condition of a field looks up a list or a record in a set.  Rules and templates may
raise wherever they like: a rule that raises loses its own finding, a template that
raises loses the block of its own stage, and all the rest stays.
-/

namespace StageGraph

/-! ## Rules and templates that raise -/

/-- Where the rules and the templates of kinds raise. -/
structure Raises where
  rule : Kind → Rule → Config → Flow → Bool
  template : Kind → Config → Bool

/-- A rule that raises where it is said to. -/
def Rule.raising (raises : Config → Flow → Bool) (rule : Rule) : Rule :=
  { rule with
    violated := fun config flow =>
      if raises config flow then .error .failed else rule.violated config flow }

/-- A kind whose rules and template raise where they are said to. -/
def Kind.raising (raises : Raises) (kind : Kind) : Kind :=
  { kind with
    rules := kind.rules.map fun rule => rule.raising (raises.rule kind rule)
    template := fun config =>
      if raises.template kind config then .error .failed else kind.template config }

/-- A catalog whose rules and templates raise where they are said to. -/
def Catalog.raising (raises : Raises) (catalog : Catalog) : Catalog :=
  { kinds := catalog.kinds.map fun entry => (entry.1, entry.2.raising raises) }

variable {raises : Raises} {catalog : Catalog} {flow : Flow}

namespace Catalog

theorem lookup_raising (type : String) :
    (catalog.raising raises).lookup type = (catalog.lookup type).map (Kind.raising raises) := by
  unfold lookup raising
  induction catalog.kinds with
  | nil => rfl
  | cons entry rest induction =>
      by_cases same : entry.1 = TypeName.canonical type <;>
        simp [Ledger.get?, same, induction]

theorem knows_raising (type : String) :
    (catalog.raising raises).knows type = catalog.knows type := by
  simp [knows_eq_isSome, lookup_raising]

theorem categoryOfType_raising (type : String) :
    (catalog.raising raises).categoryOfType type = catalog.categoryOfType type := by
  unfold categoryOfType
  rw [lookup_raising]
  cases catalog.lookup type <;> rfl

theorem categoryOf_raising (stage : Stage) :
    (catalog.raising raises).categoryOf stage = catalog.categoryOf stage := by
  rw [categoryOf, categoryOfType_raising, categoryOf]

theorem labelOf_raising (stage : Stage) :
    (catalog.raising raises).labelOf stage = catalog.labelOf stage := by
  unfold labelOf
  rw [lookup_raising]
  cases catalog.lookup stage.type <;> rfl

theorem WellFormed.raising (wellFormed : catalog.WellFormed) (raises : Raises) :
    (catalog.raising raises).WellFormed := by
  intro kind member
  simp only [Ledger.values, Catalog.raising, List.map_map, List.mem_map,
    Function.comp_apply] at member
  obtain ⟨entry, entryMember, rfl⟩ := member
  have sound := wellFormed entry.2 (List.mem_map.mpr ⟨entry, entryMember, rfl⟩)
  constructor
  · exact sound.limit
  · intro rule ruleMember
    obtain ⟨original, originalMember, rfl⟩ := List.mem_map.mp ruleMember
    exact sound.texts original originalMember
  · intro rule ruleMember config flow value answered
    obtain ⟨original, originalMember, rfl⟩ := List.mem_map.mp ruleMember
    simp only [Rule.raising] at answered
    split at answered
    · cases answered
    · exact sound.answers original originalMember config flow value answered
  · intro config value given
    simp only [Kind.raising] at given
    split at given
    · cases given
    · exact sound.code config value given

end Catalog

/-! ## Findings -/

namespace Kind

theorem complete_raising (kind : Kind) (given : Config) :
    (kind.raising raises).complete given = kind.complete given :=
  rfl

/-- Code that is lost to a configuration that cannot be completed is not lost twice. -/
theorem render_raising (kind : Kind) (given : Config) :
    (kind.raising raises).render given =
      if raises.template kind (kind.effective given) then .error .failed
      else kind.render given := by
  rw [render, complete_raising, render]
  split
  · exact (ite_self _).symm
  · rename_i config completed
    rw [eq_effective_of_complete completed]
    rfl

theorem finding?_raising (rule : Rule) (raises : Config → Flow → Bool) (config : Config) :
    finding? config flow (rule.raising raises) =
      if raises config flow then none else finding? config flow rule := by
  unfold finding? Rule.raising
  cases raised : raises config flow <;> simp [raised]

/-- Whether a rule raises for a stage. -/
def ruleRaises (raises : Raises) (kind : Kind) (given : Config) (flow : Flow)
    (rule : Rule) : Bool :=
  raises.rule kind rule (kind.effective given) flow

/-- The findings that are left are those of the rules that do not raise. -/
theorem findings_raising (kind : Kind) (given : Config) :
    (kind.raising raises).findings given flow =
      (kind.rules.filter fun rule => !ruleRaises raises kind given flow rule).filterMap
        (finding? (kind.effective given) flow) := by
  have same : (kind.raising raises).effective given = kind.effective given := rfl
  rw [findings, same, raising, List.filterMap_map, List.filterMap_filter]
  apply List.filterMap_congr
  intro rule _
  rw [Function.comp_apply, finding?_raising, ruleRaises]
  cases raises.rule kind rule (kind.effective given) flow <;> rfl

end Kind

namespace Report

/-- The findings about a stage by those rules of its kind that raise, or by those
that do not. -/
def findingsOf (raised : Bool) (raises : Raises) (catalog : Catalog) (flow : Flow)
    (stage : Stage) : List Finding :=
  match catalog.lookup stage.type with
  | some kind =>
    (kind.rules.filter fun rule =>
        Kind.ruleRaises raises kind stage.configuration flow rule == raised).filterMap
      (Kind.finding? (kind.effective stage.configuration) flow)
  | none => []

theorem stageFindings_raising (stage : Stage) :
    stageFindings (catalog.raising raises) flow stage =
      findingsOf false raises catalog flow stage := by
  unfold stageFindings findingsOf
  rw [Catalog.lookup_raising]
  cases catalog.lookup stage.type with
  | none => rfl
  | some kind => simpa using kind.findings_raising stage.configuration

theorem stageFindings_perm (stage : Stage) :
    (stageFindings catalog flow stage).Perm
      (findingsOf false raises catalog flow stage ++
        findingsOf true raises catalog flow stage) := by
  unfold stageFindings findingsOf
  cases catalog.lookup stage.type with
  | none => exact .nil
  | some kind =>
      have parts := List.filter_append_perm (fun rule =>
        Kind.ruleRaises raises kind stage.configuration flow rule == false) kind.rules
      rw [← List.filterMap_append]
      refine (parts.symm.filterMap _).trans (.of_eq ?_)
      simp

/-- What raising rules would have found about the stages of a flow. -/
def lostFindings (raises : Raises) (catalog : Catalog) (flow : Flow) : List Finding :=
  flow.stages.flatMap (findingsOf true raises catalog flow)

theorem linkFinding_raising (link : Link) :
    linkFinding (catalog.raising raises) flow link = linkFinding catalog flow link := by
  simp [linkFinding, Connection.judge, Connection.phase?, Connection.judgeTypes,
    Catalog.categoryOf_raising, Catalog.categoryOfType_raising, Catalog.knows_raising]

theorem linkFindings_raising :
    linkFindings (catalog.raising raises) flow = linkFindings catalog flow := by
  simp [linkFindings, linkFinding_raising]

end Report

theorem Structure.findings_raising :
    findings (catalog.raising raises) flow = findings catalog flow := by
  have phases : ∀ phase, hasPhase (catalog.raising raises) flow phase =
      hasPhase catalog flow phase := by
    intro phase
    simp [hasPhase, Catalog.categoryOf_raising]
  have counts : cardinality (catalog.raising raises) flow = cardinality catalog flow := by
    unfold cardinality
    apply List.filterMap_congr
    intro type _
    rw [Catalog.lookup_raising]
    cases catalog.lookup type <;> rfl
  rw [findings, phases, phases, counts, findings]

namespace Report

theorem allFindings_perm (raises : Raises) (catalog : Catalog) (flow : Flow) :
    (allFindings catalog flow).Perm
      (allFindings (catalog.raising raises) flow ++ lostFindings raises catalog flow) := by
  have rules : (Ledger.values (ruleFindings catalog flow)).flatten.Perm
      ((Ledger.values (ruleFindings (catalog.raising raises) flow)).flatten ++
        lostFindings raises catalog flow) := by
    refine (ruleFindings_perm catalog flow).trans ?_
    refine .trans ?_ ((ruleFindings_perm (catalog.raising raises) flow).symm.append_right _)
    refine .trans ?_ (List.flatMap_append_perm flow.stages _ _).symm
    apply List.Perm.flatMap_left
    intro stage _
    rw [stageFindings_raising]
    exact stageFindings_perm stage
  have links : flow.links.map (linkFinding (catalog.raising raises) flow) =
      flow.links.map (linkFinding catalog flow) := by
    simp [linkFinding_raising]
  unfold allFindings
  rw [Structure.findings_raising, links]
  refine ((rules.append_left _).append_right _).trans ?_
  simp only [List.append_assoc]
  exact (List.perm_append_comm.append_left _).append_left _

/-- What stands under an id, where ids with nothing under them are left out. -/
def nonEmpty? {α : Type} (items : List α) : Option (List α) :=
  if items.isEmpty then none else some items

theorem getD_nonEmpty? {α : Type} (items : List α) :
    (nonEmpty? items).getD [] = items := by
  cases items <;> rfl

/-- Under an id stand the findings about all stages that bear it. -/
theorem get?_ruleFindings (catalog : Catalog) (flow : Flow) (id : String) :
    Ledger.get? (ruleFindings catalog flow) id =
      nonEmpty? ((flow.stages.filter fun stage => stage.id = id).flatMap
        (stageFindings catalog flow)) := by
  unfold ruleFindings
  -- The stages are a variable here, as the findings are about the whole flow.
  generalize flow.stages = stages
  induction stages using List.reverseRecOn with
  | nil => rfl
  | append_singleton stages stage induction =>
      rw [List.foldl_append, List.foldl_cons, List.foldl_nil, addFindings,
        List.filter_append, List.flatMap_append]
      split
      · rename_i none
        by_cases same : stage.id = id <;> simp [same, none, induction]
      · rename_i more found
        rw [Ledger.get?_put]
        by_cases same : stage.id = id
        · subst same
          rw [if_pos rfl, induction, getD_nonEmpty?]
          have inhabited : stageFindings catalog flow stage ≠ [] := found
          simp [nonEmpty?, inhabited]
        · simp [same, induction]

theorem get?_ruleFindings_raising (id : String) :
    Ledger.get? (ruleFindings (catalog.raising raises) flow) id =
      nonEmpty? ((flow.stages.filter fun stage => stage.id = id).flatMap
        (findingsOf false raises catalog flow)) := by
  rw [get?_ruleFindings]
  congr 2
  funext stage
  exact stageFindings_raising stage

end Report

/-! ## Scripts and notebooks -/

namespace Script

/-- Whether the template of its kind raises for a stage. -/
def templateRaises (raises : Raises) (catalog : Catalog) (stage : Stage) : Bool :=
  match catalog.lookup stage.type with
  | some kind => raises.template kind (kind.effective stage.configuration)
  | none => false

/-- The script of a flow from the blocks of some of its stages. -/
def ofBlocks (catalog : Catalog) (flow : Flow) (labels : Bool)
    (blocks : List (Stage × Block)) : Script :=
  if flow.stages.isEmpty then
    { source := placeholder }
  else
    { source := assemble (importsOf blocks)
        ((bodied blocks).map (sectionText catalog labels))
      imports := importsOf blocks
      bodies := bodiesOf blocks }

theorem ofFlow_eq_ofBlocks (catalog : Catalog) (flow : Flow) (labels : Bool) :
    ofFlow catalog flow labels = ofBlocks catalog flow labels (blocks catalog flow) :=
  rfl

theorem block?_raising (stage : Stage) :
    block? (catalog.raising raises) stage =
      if templateRaises raises catalog stage then none else block? catalog stage := by
  unfold block? templateRaises
  rw [Catalog.lookup_raising]
  cases catalog.lookup stage.type with
  | none => rfl
  | some kind =>
      simp only [Option.map_some, Kind.render_raising]
      by_cases raised : raises.template kind (kind.effective stage.configuration) = true
      · rw [if_pos raised, if_pos raised]
      · rw [if_neg raised, if_neg raised]

/-- The blocks of the stages whose templates do not raise. -/
def remaining (raises : Raises) (catalog : Catalog) (flow : Flow) : List (Stage × Block) :=
  (blocks catalog flow).filter fun entry => !templateRaises raises catalog entry.1

theorem blocks_raising :
    blocks (catalog.raising raises) flow = remaining raises catalog flow := by
  unfold remaining blocks
  induction flow.order with
  | nil => rfl
  | cons stage rest induction =>
      cases raised : templateRaises raises catalog stage <;>
        cases found : block? catalog stage <;>
        simpa [block?_raising, raised, found] using induction

theorem ofFlow_raising (labels : Bool) :
    ofFlow (catalog.raising raises) flow labels =
      ofBlocks catalog flow labels (remaining raises catalog flow) := by
  have sections : sectionText (catalog.raising raises) labels =
      sectionText catalog labels := by
    funext entry
    simp [sectionText, Catalog.labelOf_raising]
  rw [ofFlow_eq_ofBlocks, blocks_raising, ofBlocks, sections, ofBlocks]

end Script

namespace Notebook

/-- The notebook of a flow with the imports and the bodies of some script. -/
def ofScript (catalog : Catalog) (flow : Flow) (script : Script) (name : Option String)
    (time : Civil) : Notebook :=
  { cells := titleCell name time :: importsCell script.imports ::
      stageCells catalog script.bodies 1 flow.order }

theorem stageCells_raising (bodies : Ledger String) (number : Nat) (stages : List Stage) :
    stageCells (catalog.raising raises) bodies number stages =
      stageCells catalog bodies number stages := by
  induction stages generalizing number with
  | nil => rfl
  | cons stage rest induction =>
      simp [stageCells, induction, headingCell, Catalog.categoryOf_raising,
        Catalog.labelOf_raising]

theorem ofFlow_raising (name : Option String) (time : Civil) :
    ofFlow (catalog.raising raises) flow name time =
      ofScript catalog flow
        (Script.ofBlocks catalog flow true (Script.remaining raises catalog flow))
        name time := by
  rw [ofFlow, Script.ofFlow_raising, stageCells_raising, ofScript]

end Notebook

/-! ## Compiling -/

/-- Everything that is made of a flow without looking at its rules is made. -/
structure Compiles (catalog : Catalog) (flow : Flow) : Prop where
  order : flow.orderByTables = some flow.order
  cycles : flow.hasCycleByTables = some flow.hasCycle
  overall : Structure.obstacle? catalog flow = none
  script : ∀ labels,
    Script.make catalog flow labels = .ok (Script.ofFlow catalog flow labels)
  notebook : ∀ name time,
    Notebook.make catalog flow name time = .ok (Notebook.ofFlow catalog flow name time)

/-- The stages of a flow are judged by their rules, and the flow has a report. -/
structure Judged (catalog : Catalog) (flow : Flow) : Prop where
  rules : flow.stages.findSome? (Report.ruleObstacle? catalog flow) = none
  report : Report.make catalog flow = .ok (Report.ofFlow catalog flow)

/-- Rules and templates that raise take their own findings and blocks away, and
nothing else. -/
structure Contained (raises : Raises) (catalog : Catalog) (flow : Flow) : Prop where
  overall : Structure.findings (catalog.raising raises) flow =
    Structure.findings catalog flow
  links : (Report.ofFlow (catalog.raising raises) flow).byLink =
    (Report.ofFlow catalog flow).byLink
  stages : ∀ id, Ledger.get? (Report.ofFlow (catalog.raising raises) flow).byStage id =
    Report.nonEmpty? ((flow.stages.filter fun stage => stage.id = id).flatMap
      (Report.findingsOf false raises catalog flow))
  errors : (Report.ofFlow catalog flow).errors.Perm
    ((Report.ofFlow (catalog.raising raises) flow).errors ++
      (Report.lostFindings raises catalog flow).filter Finding.isError)
  warnings : (Report.ofFlow catalog flow).warnings.Perm
    ((Report.ofFlow (catalog.raising raises) flow).warnings ++
      (Report.lostFindings raises catalog flow).filter Finding.isWarning)
  script : ∀ labels, Script.ofFlow (catalog.raising raises) flow labels =
    Script.ofBlocks catalog flow labels (Script.remaining raises catalog flow)
  notebook : ∀ name time, Notebook.ofFlow (catalog.raising raises) flow name time =
    Notebook.ofScript catalog flow
      (Script.ofBlocks catalog flow true (Script.remaining raises catalog flow)) name time

theorem compiles_of_wellFormed (wellFormed : catalog.WellFormed) (flow : Flow) :
    Compiles catalog flow where
  order := flow.orderByTables_eq
  cycles := flow.hasCycleByTables_eq
  overall := Report.limits_free wellFormed flow
  script := by
    intro labels
    rw [Script.make, Script.obstacle?_eq_none wellFormed.givesCode]
    rfl
  notebook := by
    intro name time
    rw [Notebook.make, Script.obstacle?_eq_none wellFormed.givesCode]
    rfl

theorem judged_of_wellFormed (wellFormed : catalog.WellFormed) {flow : Flow}
    (steady : flow.IsSteady catalog) : Judged catalog flow where
  rules := Report.rules_free wellFormed steady
  report := by
    rw [Report.make, Report.obstacle?_eq_none wellFormed steady]
    rfl

/-- What is stumbled over is a matter of fields alone. -/
theorem Flow.IsSteady.raising (steady : flow.IsSteady catalog) (raises : Raises) :
    flow.IsSteady (catalog.raising raises) := by
  intro stage member kind found
  rw [Catalog.lookup_raising] at found
  obtain ⟨original, isOriginal, rfl⟩ := Option.map_eq_some_iff.mp found
  have completed := Kind.complete_of_steady (steady stage member original isOriginal)
  exact Kind.steady_of_complete ((Kind.complete_raising original _).trans completed)

theorem contained_raising (raises : Raises) (catalog : Catalog) (flow : Flow) :
    Contained raises catalog flow where
  overall := Structure.findings_raising
  links := Report.linkFindings_raising
  stages := Report.get?_ruleFindings_raising
  errors := by
    have perm := Report.allFindings_perm raises catalog flow
    simpa [Report.ofFlow, Report.ofFindings] using perm.filter Finding.isError
  warnings := by
    have perm := Report.allFindings_perm raises catalog flow
    simpa [Report.ofFlow, Report.ofFindings] using perm.filter Finding.isWarning
  script := Script.ofFlow_raising
  notebook := Notebook.ofFlow_raising

namespace Catalog

/-- A flow with a repeated id, an unknown type, a link to itself, a link to nowhere
and two links with the same ends. -/
def tangled : Flow :=
  { stages := [
      { id := "load", type := TypeName.ingest },
      { id := "load", type := TypeName.training },
      { id := "other", type := "unknown", configuration := [("label", .list [.null])] }]
    links := [
      Link.make "" "load" "other", Link.make "again" "load" "other",
      Link.make "" "other" "other", Link.make "" "other" "nowhere"] }

/-- A declaration of one type, with a rule that has no message. -/
def speechless : Value :=
  .record [("custom", .list [.record [
    ("type", "t"), ("label", "T"),
    ("rules", .list [.record [
      ("severity", "error"), ("message", .null),
      ("when", .record [("has_type", "t")])]])]])]

/-- A kind of one field that depends on a mode, and of one rule. -/
def moody (modes : Expected) (answer : Except Failure Bool) : Kind :=
  { type := "t", label := "T", phase := .data
    fields := [{ key := "x", label := "X", kind := .text
                 condition := some { key := "mode", expected := modes } }]
    rules := [{ severity := .warning, message := "m", violated := fun _ _ => answer }]
    template := fun _ => .ok "" }

/-- A flow of one stage. -/
def loneStage (config : Config) : Flow :=
  { stages := [{ id := "a", type := "t", configuration := config }] }

end Catalog

end StageGraph
