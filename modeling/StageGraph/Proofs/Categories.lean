import Mathlib.Data.List.Basic
import Mathlib.Data.List.Find
import StageGraph.Compiler
import StageGraph.Proofs.Catalog

/-!
# Categories that are filled in

Stages may be given the categories of their types before a flow is compiled.  Ids,
types, labels and configurations stay, and so does the graph; and whoever asks for
the category of a stage gets the same answer as before.  So reports, scripts and
notebooks stay too, as long as no rule looks at more than types and configurations.
-/

namespace StageGraph

/-- The types and the configurations of the stages. -/
def Flow.contents (flow : Flow) : List (String × Config) :=
  flow.stages.map fun stage => (stage.type, stage.configuration)

/-- A rule looks at nothing in a flow but the types and the configurations of its stages. -/
def Rule.LooksAtContents (rule : Rule) : Prop :=
  ∀ config flow other, flow.contents = other.contents →
    rule.violated config flow = rule.violated config other

/-- No rule looks at more than types and configurations. -/
def Catalog.LooksAtContents (catalog : Catalog) : Prop :=
  ∀ kind ∈ Ledger.values catalog.kinds, ∀ rule ∈ kind.rules, rule.LooksAtContents

/-! ## The rules of the built-in kinds -/

theorem Flow.hasType_eq_any_contents (flow : Flow) (type : String) :
    flow.hasType type = flow.contents.any fun content => content.1 = TypeName.canonical type := by
  simp [Flow.hasType, Flow.contents, List.any_map, Function.comp_def]

theorem Catalog.Demands.looksAtContents {rule : Rule} {needed : String}
    (demands : Catalog.Demands rule needed) : rule.LooksAtContents := by
  intro config flow other same
  rw [demands.2, demands.2, Flow.hasType_eq_any_contents, Flow.hasType_eq_any_contents, same]

/-- Whether scaling is doubted is settled by the types and the configurations. -/
theorem Kind.Preprocess.scalesForTrees_congr (config : Config) {flow other : Flow}
    (same : flow.contents = other.contents) :
    scalesForTrees config flow = scalesForTrees config other := by
  have trees : ∀ flow : Flow, (flow.ofType TypeName.modelSelection).any usesTrees =
      flow.contents.any fun content =>
        decide (content.1 = TypeName.canonical TypeName.modelSelection) &&
          (Config.value (modelSelection.effective content.2) "modelType").isAmong
            [.text "Tree", .text "Ensemble"] := by
    intro flow
    simp [Flow.ofType, Flow.contents, usesTrees, List.any_map, List.any_filter, Function.comp_def]
  rw [scalesForTrees, scalesForTrees, trees, trees, same]

theorem Catalog.looksAtContents_builtin : builtin.LooksAtContents := by
  intro kind member rule ruleMember
  have kindMember : kind ∈ builtinKinds := by
    simpa [Ledger.values, builtin] using member
  by_cases grave : rule.severity = .error
  · obtain ⟨needed, _, demands⟩ := builtin_error_rules kind kindMember rule ruleMember grave
    exact demands.looksAtContents
  -- All other rules but the one on scaling look at the configuration of their own stage.
  simp only [builtinKinds, List.mem_cons, List.not_mem_nil, or_false] at kindMember
  rcases kindMember with rfl | rfl | rfl | rfl | rfl | rfl | rfl | rfl | rfl
  · cases ruleMember
  · obtain rfl := List.mem_singleton.mp ruleMember
    intro config flow other same
    exact congrArg Except.ok (Kind.Preprocess.scalesForTrees_congr config same)
  · cases ruleMember
  · obtain rfl := List.mem_singleton.mp ruleMember
    exact fun _ _ _ _ => rfl
  · obtain rfl := List.mem_singleton.mp ruleMember
    exact fun _ _ _ _ => rfl
  · rcases List.mem_cons.mp ruleMember with rfl | second
    · exact fun _ _ _ _ => rfl
    · obtain rfl := List.mem_singleton.mp second
      exact fun _ _ _ _ => rfl
  · obtain rfl := List.mem_singleton.mp ruleMember
    exact absurd rfl grave
  · obtain rfl := List.mem_singleton.mp ruleMember
    exact absurd rfl grave
  · cases ruleMember

namespace Catalog.LooksAtContents

variable {catalog : Catalog} {flow other : Flow}

theorem finding?_eq (looks : catalog.LooksAtContents) {type : String} {kind : Kind}
    (found : catalog.lookup type = some kind) {rule : Rule} (member : rule ∈ kind.rules)
    (config : Config) (same : flow.contents = other.contents) :
    Kind.finding? config flow rule = Kind.finding? config other rule := by
  have unchanged := looks kind (mem_values_of_lookup found) rule member config flow other same
  rw [Kind.finding?, unchanged, Kind.finding?]

/-- What is found about a stage is the same in every flow with these contents. -/
theorem stageFindings_eq (looks : catalog.LooksAtContents)
    (same : flow.contents = other.contents) (stage : Stage) :
    Report.stageFindings catalog flow stage = Report.stageFindings catalog other stage := by
  unfold Report.stageFindings
  cases found : catalog.lookup stage.type with
  | none => rfl
  | some kind =>
      apply List.filterMap_congr
      intro rule member
      exact looks.finding?_eq found member _ same

end Catalog.LooksAtContents

/-! ## Stages and graphs -/

namespace Compiler

variable {catalog : Catalog} {flow : Flow}

/-- A stage with the category that the catalog gives it. -/
def withCategory (catalog : Catalog) (stage : Stage) : Stage :=
  { stage with category := catalog.categoryOf stage }

@[simp] theorem id_withCategory (stage : Stage) : (withCategory catalog stage).id = stage.id :=
  rfl

@[simp] theorem type_withCategory (stage : Stage) :
    (withCategory catalog stage).type = stage.type :=
  rfl

@[simp] theorem configuration_withCategory (stage : Stage) :
    (withCategory catalog stage).configuration = stage.configuration :=
  rfl

@[simp] theorem stages_withCategories :
    (withCategories catalog flow).stages = flow.stages.map (withCategory catalog) :=
  rfl

@[simp] theorem links_withCategories : (withCategories catalog flow).links = flow.links :=
  rfl

/-- What was filled in is what the catalog says afterwards, too. -/
@[simp] theorem categoryOf_withCategory (stage : Stage) :
    catalog.categoryOf (withCategory catalog stage) = catalog.categoryOf stage := by
  by_cases unknown : catalog.categoryOf stage = ""
  · have unregistered : catalog.categoryOfType stage.type = "" := by
      by_cases own : stage.category = ""
      · simpa [Catalog.categoryOf, own] using unknown
      · simp [Catalog.categoryOf, own] at unknown
    exact (if_pos unknown).trans (unregistered.trans unknown.symm)
  · exact if_neg unknown

@[simp] theorem labelOf_withCategory (stage : Stage) :
    catalog.labelOf (withCategory catalog stage) = catalog.labelOf stage :=
  rfl

theorem contents_withCategories : (withCategories catalog flow).contents = flow.contents := by
  simp [Flow.contents, Function.comp_def]

@[simp] theorem ids_withCategories : (withCategories catalog flow).ids = flow.ids := by
  simp [Flow.ids, Function.comp_def]

@[simp] theorem innerLinks_withCategories :
    (withCategories catalog flow).innerLinks = flow.innerLinks := by
  simp [Flow.innerLinks]

theorem hasCycle_withCategories : (withCategories catalog flow).hasCycle = flow.hasCycle := by
  simp [Flow.hasCycle]

theorem stage?_withCategories (id : String) :
    (withCategories catalog flow).stage? id = (flow.stage? id).map (withCategory catalog) :=
  List.find?_map

/-- The order of execution is the same, with categories filled in. -/
theorem order_withCategories :
    (withCategories catalog flow).order = flow.order.map (withCategory catalog) := by
  have emitted : (withCategories catalog flow).emitted = flow.emitted := by
    simp [Flow.emitted, Flow.sources]
  rw [Flow.order, emitted, Flow.order, Flow.arranged, Flow.arranged]
  by_cases all : flow.emitted.length = flow.stages.length
  · have looked : (withCategories catalog flow).stage? =
        fun id => (flow.stage? id).map (withCategory catalog) :=
      funext stage?_withCategories
    simp [all, looked, List.map_filterMap]
  · simp [all]

/-! ## Reports -/

@[simp] theorem usedTypes_withCategories :
    Structure.usedTypes (withCategories catalog flow) = Structure.usedTypes flow := by
  simp [Structure.usedTypes, Function.comp_def]

theorem findings_withCategories :
    Structure.findings catalog (withCategories catalog flow) =
      Structure.findings catalog flow := by
  have phases : ∀ phase, Structure.hasPhase catalog (withCategories catalog flow) phase =
      Structure.hasPhase catalog flow phase := by
    intro phase
    simp [Structure.hasPhase, List.any_map, Function.comp_def]
  have loose : Structure.loose (withCategories catalog flow) =
      (Structure.loose flow).map (withCategory catalog) := by
    simp [Structure.loose, List.filter_map, Function.comp_def]
  have counts : ∀ type, Structure.countOf (withCategories catalog flow) type =
      Structure.countOf flow type := by
    intro type
    rw [Structure.countOf, stages_withCategories, List.filter_map, List.length_map]
    rfl
  simp [Structure.findings, Structure.cardinality, phases, loose, counts,
    hasCycle_withCategories]

theorem linkFinding_withCategories (link : Link) :
    Report.linkFinding catalog (withCategories catalog flow) link =
      Report.linkFinding catalog flow link := by
  unfold Report.linkFinding
  rw [stage?_withCategories, stage?_withCategories]
  cases flow.stage? link.source with
  | none => rfl
  | some source =>
      cases flow.stage? link.target with
      | none => rfl
      | some target => simp

section

variable (looks : catalog.LooksAtContents)

include looks

theorem stageFindings_withCategories (stage : Stage) :
    Report.stageFindings catalog (withCategories catalog flow) (withCategory catalog stage) =
      Report.stageFindings catalog flow stage :=
  looks.stageFindings_eq contents_withCategories stage

theorem ruleFindings_withCategories :
    Report.ruleFindings catalog (withCategories catalog flow) =
      Report.ruleFindings catalog flow := by
  unfold Report.ruleFindings
  rw [stages_withCategories, List.foldl_map]
  congr 1
  funext found stage
  simp only [Report.addFindings, stageFindings_withCategories looks, id_withCategory]

theorem ruleObstacle?_withCategories (stage : Stage) :
    Report.ruleObstacle? catalog (withCategories catalog flow) (withCategory catalog stage) =
      Report.ruleObstacle? catalog flow stage := by
  unfold Report.ruleObstacle?
  rw [type_withCategory, configuration_withCategory]
  cases found : catalog.lookup stage.type with
  | none => rfl
  | some kind =>
      simp only [Option.bind_some, Kind.obstacle?]
      split
      · rfl
      · rw [← List.head?_filterMap, ← List.head?_filterMap]
        congr 1
        apply List.filterMap_congr
        intro rule member
        rw [Kind.ruleObstacle?, looks kind (Catalog.mem_values_of_lookup found) rule member _ _ _
          contents_withCategories, Kind.ruleObstacle?]

/-- The report on a flow is the report on it with categories filled in. -/
theorem makeReport_withCategories :
    Report.make catalog (withCategories catalog flow) = Report.make catalog flow := by
  have obstacle : Report.obstacle? catalog (withCategories catalog flow) =
      Report.obstacle? catalog flow := by
    simp [Report.obstacle?, Structure.obstacle?, List.findSome?_map, Function.comp_def,
      ruleObstacle?_withCategories looks]
  have links : Report.linkFinding catalog (withCategories catalog flow) =
      Report.linkFinding catalog flow := funext linkFinding_withCategories
  have report : Report.ofFlow catalog (withCategories catalog flow) =
      Report.ofFlow catalog flow := by
    simp [Report.ofFlow, Report.allFindings, Report.linkFindings, findings_withCategories,
      ruleFindings_withCategories looks, links]
  rw [Report.make, obstacle, report, Report.make]

end

/-! ## Scripts and notebooks -/

theorem blocks_withCategories :
    Script.blocks catalog (withCategories catalog flow) =
      (Script.blocks catalog flow).map fun entry => (withCategory catalog entry.1, entry.2) := by
  have sameBlock : ∀ stage, Script.block? catalog (withCategory catalog stage) =
      Script.block? catalog stage := fun _ => rfl
  simp [Script.blocks, order_withCategories, sameBlock, List.map_filterMap, List.filterMap_map,
    Function.comp_def, Option.map_map]

theorem ofFlow_withCategories (labels : Bool) :
    Script.ofFlow catalog (withCategories catalog flow) labels =
      Script.ofFlow catalog flow labels := by
  have bodied : Script.bodied (Script.blocks catalog (withCategories catalog flow)) =
      (Script.bodied (Script.blocks catalog flow)).map
        fun entry => (withCategory catalog entry.1, entry.2) := by
    simp [Script.bodied, blocks_withCategories, List.filter_map, Function.comp_def]
  have imports : Script.importsOf (Script.blocks catalog (withCategories catalog flow)) =
      Script.importsOf (Script.blocks catalog flow) := by
    simp [Script.importsOf, blocks_withCategories, List.flatMap_map]
  have sections : ∀ entry : Stage × Block,
      Script.sectionText catalog labels (withCategory catalog entry.1, entry.2) =
        Script.sectionText catalog labels entry := fun _ => rfl
  simp [Script.ofFlow, Script.bodiesOf, bodied, imports, sections, Function.comp_def]

theorem scriptObstacle?_withCategories :
    Script.obstacle? catalog (withCategories catalog flow) = Script.obstacle? catalog flow := by
  have gives : ∀ stage, Script.obstacle?.givesNoCode catalog (withCategory catalog stage) =
      Script.obstacle?.givesNoCode catalog stage := fun _ => rfl
  simp [Script.obstacle?, order_withCategories, List.any_map, Function.comp_def, gives]

/-- The script of a flow is the script of it with categories filled in. -/
theorem makeScript_withCategories (labels : Bool) :
    Script.make catalog (withCategories catalog flow) labels =
      Script.make catalog flow labels := by
  rw [Script.make, scriptObstacle?_withCategories, ofFlow_withCategories, Script.make]

theorem stageCells_withCategories (bodies : Ledger String) (number : Nat)
    (stages : List Stage) :
    Notebook.stageCells catalog bodies number (stages.map (withCategory catalog)) =
      Notebook.stageCells catalog bodies number stages := by
  induction stages generalizing number with
  | nil => rfl
  | cons stage rest induction =>
      simp [Notebook.stageCells, Notebook.headingCell, induction]

/-- The notebook of a flow is the notebook of it with categories filled in. -/
theorem makeNotebook_withCategories (name : Option String) (time : Civil) :
    Notebook.make catalog (withCategories catalog flow) name time =
      Notebook.make catalog flow name time := by
  have notebook : Notebook.ofFlow catalog (withCategories catalog flow) name time =
      Notebook.ofFlow catalog flow name time := by
    simp only [Notebook.ofFlow, ofFlow_withCategories, order_withCategories,
      stageCells_withCategories]
  rw [Notebook.make, scriptObstacle?_withCategories, notebook, Notebook.make]

end Compiler

end StageGraph
