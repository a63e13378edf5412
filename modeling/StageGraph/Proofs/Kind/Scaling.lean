import Mathlib.Algebra.Order.BigOperators.Group.List
import Mathlib.Algebra.Order.Ring.Nat
import StageGraph.Proofs.Containment
import StageGraph.Proofs.Gate.Passing

/-!
# The finding about scaling and the scaler that is written

A preprocessing scales unless its configuration says otherwise.  The rule that doubts
scaling for models that are built of trees and the template that writes the scaler both ask
for this by themselves.  They agree on every value that counts as true.  What counts as
false, null and the empty text among it, the template takes for no scaling; the rule knows
the word for none only.
-/

namespace StageGraph

namespace Report

/-- Something is found about a stage by the rules of its kind, and the report on the flow
holds it under the id of the stage. -/
structure Reports (flow : Flow) (stage : Stage) (finding : Finding) : Prop where
  found : finding ∈ stageFindings Catalog.builtin flow stage
  held : ∃ report, make Catalog.builtin flow = .ok report ∧
    ∃ listed, Ledger.get? report.byStage stage.id = some listed ∧ finding ∈ listed

variable {flow : Flow} {stage : Stage} {finding : Finding}

/-- The report holds all that is found about the stages of the flow. -/
theorem reports_iff (member : stage ∈ flow.stages) :
    Reports flow stage finding ↔ finding ∈ stageFindings Catalog.builtin flow stage := by
  refine ⟨Reports.found, fun found => ⟨found, ofFlow Catalog.builtin flow, ?_, ?_⟩⟩
  · rw [make, obstacle?_builtin]
    rfl
  · let listed := (flow.stages.filter fun other => other.id = stage.id).flatMap
      (stageFindings Catalog.builtin flow)
    have isListed : finding ∈ listed :=
      List.mem_flatMap.mpr ⟨stage, List.mem_filter.mpr ⟨member, by simp⟩, found⟩
    refine ⟨listed, ?_, isListed⟩
    have inhabited : listed ≠ [] := List.ne_nil_of_mem isListed
    have under : Ledger.get? (ofFlow Catalog.builtin flow).byStage stage.id = nonEmpty? listed :=
      get?_ruleFindings Catalog.builtin flow stage.id
    rw [under, nonEmpty?, if_neg (mt List.isEmpty_iff.mp inhabited)]

end Report

/-- Some model of the flow is built of trees. -/
def Flow.HasTreeModel (flow : Flow) : Prop :=
  ∃ model ∈ flow.stages, model.type = TypeName.modelSelection ∧
    ∃ name ∈ ["Tree", "Ensemble"],
      Config.holds (Kind.modelSelection.effective model.configuration) "modelType" name = true

namespace Kind

/-- Lines that are not all empty make code longer. -/
theorem length_code_lt {above fragment below : List String} {line : String}
    (member : line ∈ fragment) (inhabited : line ≠ "") :
    (code (above ++ below)).length < (code (above ++ fragment ++ below)).length := by
  have atLeast : line.length ≤ (fragment.map String.length).sum :=
    List.single_le_sum (fun _ _ => Nat.zero_le _) _ (List.mem_map_of_mem member)
  have positive : 0 < line.length :=
    Nat.pos_of_ne_zero (mt String.length_eq_zero_iff.mp inhabited)
  simp only [code, Text.length_join, List.map_append, List.sum_append, List.length_append]
  have separated : "\n".length = 1 := rfl
  rw [separated]
  omega

namespace Preprocess

/-- The finding about scaling for models that are built of trees. -/
def treeScaling : Finding :=
  .warning "Tree-based models typically don't require feature scaling"

/-- The lines that the code has beyond the code without scaling are those of the scaler: their
heading is among them. -/
def EmitsScaler (config : Config) : Prop :=
  ∃ above fragment below, "# Scale numerical features" ∈ fragment ∧
    template config = .ok (code (above ++ fragment ++ below)) ∧
    template (Ledger.put config "scaling" "None") = .ok (code (above ++ below))

variable {config : Config}

/-- The code without scaling, by the lines of the code with it. -/
theorem template_put_none (config : Config) :
    template (Ledger.put config "scaling" "None") =
      .ok (code (dropLines config ++ missingLines config ++ encodingLines config)) := by
  have off : scales (Ledger.put config "scaling" "None") = false := by
    simp [scales, Config.holds, Config.value_put, Value.agrees]
  have same (key : String) (different : "scaling" ≠ key) :
      Config.value (Ledger.put config "scaling" "None") key = Config.value config key := by
    rw [Config.value_put, if_neg different]
  have noLines : scalingLines (Ledger.put config "scaling" "None") = [] := by
    rw [scalingLines, off]
    rfl
  have sameDrop : dropLines (Ledger.put config "scaling" "None") = dropLines config := by
    unfold dropLines
    rw [same "dropColumns" (by decide)]
  have sameMissing : missingLines (Ledger.put config "scaling" "None") = missingLines config := by
    unfold missingLines Config.choice
    rw [same "missingValues" (by decide)]
  have sameEncoding :
      encodingLines (Ledger.put config "scaling" "None") = encodingLines config := by
    unfold encodingLines Config.holds
    rw [same "encoding" (by decide)]
  rw [template, noLines, sameDrop, sameMissing, sameEncoding, List.append_nil]

theorem emitsScaler_iff : EmitsScaler config ↔ scales config = true := by
  constructor
  · rintro ⟨above, fragment, below, heading, written, unscaled⟩
    by_contra off
    have noLines : scalingLines config = [] := by rw [scalingLines, if_neg off]
    have same : template config = template (Ledger.put config "scaling" "None") := by
      rw [template_put_none, template, noLines, List.append_nil]
    rw [written, unscaled, Except.ok.injEq] at same
    exact absurd (congrArg String.length same)
      (length_code_lt heading (by decide)).ne'
  · intro on
    refine ⟨dropLines config ++ missingLines config, scalingLines config, encodingLines config,
      ?_, rfl, template_put_none config⟩
    simp [scalingLines, on]

theorem scales_iff :
    scales config = true ↔
      Config.isSet config "scaling" = true ∧ Config.holds config "scaling" "None" = false := by
  simp [scales, Config.isSet]

/-- The word for none is a text that counts as true. -/
theorem isSet_of_holds_none (none : Config.holds config "scaling" "None" = true) :
    Config.isSet config "scaling" = true := by
  have isNone := Value.agrees_text_iff.mp none
  unfold Config.isSet
  generalize Config.value config "scaling" = value at isNone
  cases value with
  | text content => simp [Value.truthy, Option.some.inj isNone]
  | constant name => simp [Value.truthy, Option.some.inj isNone]
  | _ => cases isNone

theorem usesTrees_iff {stage : Stage} :
    usesTrees stage = true ↔ ∃ name ∈ ["Tree", "Ensemble"],
      Config.holds (modelSelection.effective stage.configuration) "modelType" name = true := by
  simp [usesTrees, Value.isAmong, Config.holds]

/-- A completed configuration has a value for scaling, so the rule needs no default. -/
theorem scalesForTrees_effective {flow : Flow} (given : Config) :
    scalesForTrees (preprocess.effective given) flow = true ↔
      flow.HasTreeModel ∧
        Config.holds (preprocess.effective given) "scaling" "None" = false := by
  have known : "scaling" ∈ Ledger.keys (preprocess.effective given) :=
    (preprocess.completes_effective given).mem_of_field
      (List.mem_of_getElem? (i := 2) (l := preprocess.fields) rfl)
  have found := Config.get?_eq_value known
  have trees : (flow.ofType TypeName.modelSelection).any usesTrees = true ↔
      flow.HasTreeModel := by
    simp only [Flow.ofType, List.any_filter, List.any_eq_true, Bool.and_eq_true,
      decide_eq_true_eq, usesTrees_iff]
    exact Iff.rfl
  rw [scalesForTrees, found, Bool.and_eq_true, trees, and_comm]
  simp [Config.holds]

theorem reports_treeScaling_iff {flow : Flow} {stage : Stage} (member : stage ∈ flow.stages)
    (type : stage.type = TypeName.preprocess) :
    Report.Reports flow stage treeScaling ↔
      flow.HasTreeModel ∧
        Config.holds (preprocess.effective stage.configuration) "scaling" "None" = false := by
  have found : Catalog.builtin.lookup stage.type = some preprocess := by rw [type]; rfl
  rw [Report.reports_iff member, ← scalesForTrees_effective, Report.mem_stageFindings]
  constructor
  · rintro ⟨kind, isFound, rule, ruled, finds⟩
    obtain rfl : preprocess = kind := Option.some.inj (found.symm.trans isFound)
    obtain rfl := List.mem_singleton.mp ruled
    exact Except.ok.inj (Report.finding?_eq_some_iff.mp finds).1
  · intro holds
    refine ⟨preprocess, found, _, List.mem_singleton_self _,
      Report.finding?_eq_some_iff.mpr ⟨congrArg Except.ok holds, rfl⟩⟩

/-- A preprocessing with a value for scaling. -/
def scaling (value : Value) : Stage :=
  { id := "prep", type := TypeName.preprocess, configuration := [("scaling", value)] }

/-- A preprocessing with a value for scaling, and a choice of a model as it comes. -/
def scaledForest (value : Value) : Flow where
  stages := [scaling value, { id := "model", type := TypeName.modelSelection }]
  links := []

theorem scaledForest_hasTreeModel (value : Value) : (scaledForest value).HasTreeModel :=
  ⟨{ id := "model", type := TypeName.modelSelection }, by simp [scaledForest], rfl,
    "Ensemble", by simp, by decide⟩

end Preprocess

end Kind

end StageGraph
