import StageGraph.Proofs.Gate.Bounds
import StageGraph.Proofs.Text.Lines

/-!
# Templates read what is visible

A template decides by itself which values it reads, without asking for the conditions of
the fields.  Where all that is visible is accepted, it nevertheless reads a value only
while a field shows it: two configurations with the same visible values have the same
code.  The class weights of a training are read without their condition, and make the
only difference.
-/

namespace StageGraph

theorem Value.truthy_eq_false_of_isUnset {value : Value} (unset : value.isUnset = true) :
    value.truthy = false := by
  cases value <;> simp_all [isUnset, truthy]

theorem Config.isSet_congr {left right : Config} {key : String}
    (same : Config.value left key = Config.value right key) :
    Config.isSet left key = Config.isSet right key :=
  congrArg Value.truthy same

namespace Kind

/-- Two configurations have the same values for all fields that are visible under the
second. -/
def SeenAlike (kind : Kind) (left right : Config) : Prop :=
  ∀ field ∈ kind.fields, field.isVisible right = true →
    Config.value left field.key = Config.value right field.key

section

variable {kind : Kind} {left right : Config} {field : Field} {i : Nat}

theorem SeenAlike.value_eq (alike : kind.SeenAlike left right)
    (place : kind.fields[i]? = some field) (visible : field.isVisible right = true) :
    Config.value left field.key = Config.value right field.key :=
  alike field (List.mem_of_getElem? place) visible

/-- A required choice holds one of its options. -/
theorem Accepts.exists_text (accepts : kind.Accepts right)
    (place : kind.fields[i]? = some field) (visible : field.isVisible right = true)
    (select : field.kind = .select) (required : field.required.truthy = true)
    {first : String} {rest : List String}
    (offered : field.offered = (first :: rest).map Value.text) :
    ∃ name ∈ first :: rest, (Config.value right field.key).asText? = some name := by
  have fits := accepts field (List.mem_of_getElem? place) visible
  have noMisfit := Field.misfit?_eq_none fits
  have filled := Field.isUnset_eq_false_of_required noMisfit required
  have offers : field.options ≠ [] := by
    intro empty
    simp [Field.offered, empty] at offered
  have among := Field.isAmong_of_select noMisfit filled select offers
  rw [offered, Value.isAmong, List.any_map, List.any_eq_true] at among
  obtain ⟨name, isOffered, agrees⟩ := among
  exact ⟨name, isOffered, Value.agrees_text_iff.mp agrees⟩

/-- A switch that is on holds the truth value for true. -/
theorem Accepts.agrees_true (accepts : kind.Accepts right)
    (place : kind.fields[i]? = some field) (visible : field.isVisible right = true)
    (boolean : field.kind = .boolean) (on : Config.isSet right field.key = true) :
    (Config.value right field.key).agrees (.bool true) = true := by
  have fits := accepts field (List.mem_of_getElem? place) visible
  have noMisfit := Field.misfit?_eq_none fits
  have filled : (Config.value right field.key).isUnset = false := by
    apply Bool.eq_false_iff.mpr
    intro unset
    exact Bool.eq_false_iff.mp (Value.truthy_eq_false_of_isUnset unset) on
  simp only [Field.misfit?, filled, boolean] at noMisfit
  rw [Config.isSet] at on
  generalize Config.value right field.key = value at on noMisfit ⊢
  cases value with
  | bool truth => simpa [Value.agrees, Value.truthy] using on
  | _ => cases noMisfit

end

variable {left right : Config}

/-! ## The templates -/

namespace Ingest

theorem template_eq (alike : ingest.SeenAlike left right) (accepts : ingest.Accepts right) :
    template left = template right := by
  have sameSource : Config.value left "sourceType" = Config.value right "sourceType" :=
    alike.value_eq (i := 0) rfl rfl
  have sameTarget : Config.value left "targetColumn" = Config.value right "targetColumn" :=
    alike.value_eq (i := 6) rfl rfl
  have sameSize : Config.value left "sampleSize" = Config.value right "sampleSize" :=
    alike.value_eq (i := 7) rfl rfl
  have sameLines : sourceLines left = sourceLines right := by
    obtain ⟨name, offered, source⟩ : ∃ name ∈ ["CSV", "Excel", "JSON", "Parquet", "SQL",
        "API", "Scraping", "HuggingFace"],
        (Config.value right "sourceType").asText? = some name :=
      accepts.exists_text (i := 0) rfl rfl rfl rfl rfl
    have samePath (inPaths : name ∈ pathSources) :
        Config.value left "filePath" = Config.value right "filePath" :=
      alike.value_eq (i := 1) rfl (List.any_eq_true.mpr
        ⟨.text name, List.mem_map_of_mem inPaths, Value.agrees_text_iff.mpr source⟩)
    have sameWhen {i : Nat} {field : Field} (place : ingest.fields[i]? = some field)
        (condition : field.condition = when "sourceType" name) :
        Config.value left field.key = Config.value right field.key := by
      apply alike.value_eq place
      rw [Field.isVisible, condition]
      exact Value.agrees_text_iff.mpr source
    unfold sourceLines
    rw [sameSource]
    simp only [Value.agrees_text, source]
    simp only [List.mem_cons, List.not_mem_nil, or_false] at offered
    rcases offered with rfl | rfl | rfl | rfl | rfl | rfl | rfl | rfl
    · have sameDelimiter : Config.value left "delimiter" = Config.value right "delimiter" :=
        sameWhen (i := 2) rfl rfl
      simp [samePath (by decide), sameDelimiter]
    · simp [samePath (by decide)]
    · simp [samePath (by decide)]
    · simp [samePath (by decide)]
    · have sameConnection : Config.value left "connectionString" =
          Config.value right "connectionString" :=
        sameWhen (i := 3) rfl rfl
      have sameQuery : Config.value left "query" = Config.value right "query" :=
        sameWhen (i := 4) rfl rfl
      simp [sameConnection, sameQuery]
    · simp [samePath (by decide)]
    · simp [samePath (by decide)]
    · simp [samePath (by decide)]
  unfold template sampleRows? targetLines Config.number
  rw [sameLines, sameSize, sameTarget]

end Ingest

namespace Preprocess

theorem template_eq (alike : preprocess.SeenAlike left right) :
    template left = template right := by
  have sameColumns : Config.value left "dropColumns" = Config.value right "dropColumns" :=
    alike.value_eq (i := 0) rfl rfl
  have sameMethod : Config.value left "missingValues" = Config.value right "missingValues" :=
    alike.value_eq (i := 1) rfl rfl
  have sameScaling : Config.value left "scaling" = Config.value right "scaling" :=
    alike.value_eq (i := 2) rfl rfl
  have sameEncoding : Config.value left "encoding" = Config.value right "encoding" :=
    alike.value_eq (i := 3) rfl rfl
  unfold template dropLines missingLines scalingLines scales encodingLines Config.choice
    Config.holds
  rw [sameColumns, sameMethod, sameScaling, sameEncoding]

end Preprocess

namespace Exploration

theorem template_eq (alike : exploration.SeenAlike left right) :
    template left = template right := by
  have sameType : Config.value left "edaType" = Config.value right "edaType" :=
    alike.value_eq (i := 0) rfl rfl
  unfold template Config.choice
  rw [sameType]

end Exploration

namespace FeatureEngineering

theorem template_eq (alike : featureEngineering.SeenAlike left right) :
    template left = template right := by
  have sameType : Config.value left "transformationType" =
      Config.value right "transformationType" :=
    alike.value_eq (i := 0) rfl rfl
  unfold template transformationLines Config.holds
  rw [sameType]
  refine congrArg (fun lines => Except.ok (code lines)) ?_
  -- Each branch is taken while the field of its number is visible.
  refine ite_congr rfl (fun polynomial => ?_) fun _ => ?_
  · have same : Config.value left "polynomialDegree" = Config.value right "polynomialDegree" :=
      alike.value_eq (i := 1) rfl polynomial
    have sameDegree : degree left = degree right := by
      unfold degree Config.number
      rw [same]
    rw [sameDegree]
  refine ite_congr rfl (fun selection => ?_) fun _ => ?_
  · have same : Config.value left "selectK" = Config.value right "selectK" :=
      alike.value_eq (i := 2) rfl selection
    simp only [Config.number, same]
  refine ite_congr rfl (fun _ => rfl) fun _ => ?_
  refine ite_congr rfl (fun components => ?_) fun _ => ?_
  · have same : Config.value left "nComponents" = Config.value right "nComponents" :=
      alike.value_eq (i := 3) rfl components
    simp only [Config.number, same]
  refine ite_congr rfl (fun _ => rfl) fun _ => ?_
  refine ite_congr rfl (fun bins => ?_) fun _ => rfl
  have same : Config.value left "nBins" = Config.value right "nBins" :=
    alike.value_eq (i := 4) rfl bins
  simp only [Config.number, same]

end FeatureEngineering

namespace DataSplit

theorem template_eq (alike : dataSplit.SeenAlike left right) :
    template left = template right := by
  have sameTrain : Config.value left "trainSize" = Config.value right "trainSize" :=
    alike.value_eq (i := 0) rfl rfl
  have sameTest : Config.value left "testSize" = Config.value right "testSize" :=
    alike.value_eq (i := 1) rfl rfl
  have sameValidation : Config.value left "validationSize" = Config.value right "validationSize" :=
    alike.value_eq (i := 2) rfl rfl
  have sameState : Config.value left "randomState" = Config.value right "randomState" :=
    alike.value_eq (i := 3) rfl rfl
  have sameStratify : Config.value left "stratify" = Config.value right "stratify" :=
    alike.value_eq (i := 4) rfl rfl
  have sameSplit : splitLines left = splitLines right := by
    unfold splitLines
    simp only [sameTrain, sameTest, sameState]
    rw [Config.isSet_congr sameStratify]
  have sameShare : validationShare? left = validationShare? right := by
    unfold validationShare? Config.number
    rw [sameTrain, sameValidation]
  have sameLines (share : Option Binary) :
      validationLines left share = validationLines right share := by
    unfold validationLines
    rw [sameState]
  simp only [template, sameSplit, sameShare, sameLines]

end DataSplit

namespace ModelSelection

theorem template_eq (alike : modelSelection.SeenAlike left right) :
    template left = template right := by
  have sameTask : Config.value left "taskType" = Config.value right "taskType" :=
    alike.value_eq (i := 0) rfl rfl
  have sameName : Config.value left "modelName" = Config.value right "modelName" :=
    alike.value_eq (i := 1) rfl rfl
  unfold template form? Config.choice Config.holds
  rw [sameTask, sameName]

end ModelSelection

namespace Deployment

theorem template_eq (alike : deployment.SeenAlike left right)
    (accepts : deployment.Accepts right) : template left = template right := by
  have sameType : Config.value left "deploymentType" = Config.value right "deploymentType" :=
    alike.value_eq (i := 0) rfl rfl
  have sameMonitoring : Config.value left "monitoring" = Config.value right "monitoring" :=
    alike.value_eq (i := 2) rfl rfl
  have sameLines : deploymentLines left = deploymentLines right := by
    obtain ⟨name, offered, type⟩ : ∃ name ∈ ["REST API", "Batch", "Streaming"],
        (Config.value right "deploymentType").asText? = some name :=
      accepts.exists_text (i := 0) rfl rfl rfl rfl rfl
    unfold deploymentLines Config.holds
    rw [sameType]
    simp only [Value.agrees_text, type]
    simp only [List.mem_cons, List.not_mem_nil, or_false] at offered
    rcases offered with rfl | rfl | rfl
    · have sameFramework : Config.value left "framework" = Config.value right "framework" :=
        alike.value_eq (i := 1) rfl (Value.agrees_text_iff.mpr type)
      unfold serviceLines Config.choice
      rw [sameFramework]
    · rfl
    · rfl
  unfold template monitoringLines
  rw [sameLines, Config.isSet_congr sameMonitoring]

end Deployment

namespace Evaluation

theorem crossValidationLines_eq (alike : evaluation.SeenAlike left right)
    (accepts : evaluation.Accepts right) :
    crossValidationLines left = crossValidationLines right := by
  have sameSwitch : Config.value left "crossValidation" = Config.value right "crossValidation" :=
    alike.value_eq (i := 4) rfl rfl
  unfold crossValidationLines Config.number
  rw [Config.isSet_congr sameSwitch]
  refine ite_congr rfl (fun on => ?_) fun _ => rfl
  have sameFolds : Config.value left "cvFolds" = Config.value right "cvFolds" :=
    alike.value_eq (i := 5) rfl (accepts.agrees_true (i := 4) rfl rfl rfl on)
  rw [sameFolds]

/-- Every evaluation type shows its metrics, and its plots where it has any. -/
theorem template_eq (alike : evaluation.SeenAlike left right)
    (accepts : evaluation.Accepts right) : template left = template right := by
  have sameType : Config.value left "evaluationType" = Config.value right "evaluationType" :=
    alike.value_eq (i := 0) rfl rfl
  obtain ⟨name, offered, type⟩ : ∃ name ∈ ["Classification", "Regression", "Clustering"],
      (Config.value right "evaluationType").asText? = some name :=
    accepts.exists_text (i := 0) rfl rfl rfl rfl rfl
  have sameWhen {i : Nat} {field : Field} (place : evaluation.fields[i]? = some field)
      (condition : field.condition = when "evaluationType" name) :
      Config.value left field.key = Config.value right field.key := by
    apply alike.value_eq place
    rw [Field.isVisible, condition]
    exact Value.agrees_text_iff.mpr type
  have selected_eq (sameMetrics : Config.value left "metrics" = Config.value right "metrics")
      (table : List Metric) : selected table left = selected table right := by
    unfold selected chosen
    rw [sameMetrics]
  unfold template Config.holds
  rw [sameType]
  simp only [Value.agrees_text, type]
  simp only [List.mem_cons, List.not_mem_nil, or_false] at offered
  rcases offered with rfl | rfl | rfl
  · have sameMatrix : Config.value left "generateConfusionMatrix" =
        Config.value right "generateConfusionMatrix" :=
      sameWhen (i := 6) rfl rfl
    have sameCurve : Config.value left "generateROCCurve" =
        Config.value right "generateROCCurve" :=
      sameWhen (i := 7) rfl rfl
    have sameLines : classificationLines left = classificationLines right := by
      unfold classificationLines importLines importedNames metricLines confusionLines curveLines
      rw [selected_eq (sameWhen (i := 1) rfl rfl), Config.isSet_congr sameMatrix,
        Config.isSet_congr sameCurve, crossValidationLines_eq alike accepts]
    simp [sameLines]
  · have samePlot : Config.value left "generateResidualPlot" =
        Config.value right "generateResidualPlot" :=
      sameWhen (i := 8) rfl rfl
    have sameLines : regressionLines left = regressionLines right := by
      unfold regressionLines metricLines residualLines
      rw [selected_eq (sameWhen (i := 2) rfl rfl), Config.isSet_congr samePlot]
    simp [sameLines]
  · have sameLines : clusteringLines left = clusteringLines right := by
      unfold clusteringLines metricLines
      rw [selected_eq (sameWhen (i := 3) rfl rfl)]
    simp [sameLines]

end Evaluation

namespace Training

theorem crossValidationLines_eq (alike : training.SeenAlike left right)
    (accepts : training.Accepts right) :
    crossValidationLines left = crossValidationLines right := by
  have sameSwitch : Config.value left "crossValidation" = Config.value right "crossValidation" :=
    alike.value_eq (i := 1) rfl rfl
  unfold crossValidationLines Config.number
  rw [Config.isSet_congr sameSwitch]
  refine ite_congr rfl (fun on => ?_) fun _ => rfl
  have sameFolds : Config.value left "cvFolds" = Config.value right "cvFolds" :=
    alike.value_eq (i := 2) rfl (accepts.agrees_true (i := 1) rfl rfl rfl on)
  rw [sameFolds]

/-- One line more makes a longer block of code. -/
theorem code_ne_of_insert (first : String) (before after : List String) (line : String) :
    code (first :: (before ++ line :: after)) ≠ code (first :: (before ++ after)) := by
  intro same
  have lengths := congrArg String.length same
  simp only [code, Text.length_join, List.map_cons, List.map_append, List.sum_cons,
    List.sum_append, List.length_cons, List.length_append, Nat.add_sub_cancel] at lengths
  have separated : "\n".length = 1 := rfl
  rw [separated] at lengths
  omega

/-- Trainings that are seen alike have the same code when both or none of them has balanced
class weights, and only then. -/
theorem template_eq_iff (alike : training.SeenAlike left right)
    (accepts : training.Accepts right) :
    template left = template right ↔
      Config.holds left "classWeights" "balanced" =
        Config.holds right "classWeights" "balanced" := by
  have sameType : Config.value left "learningType" = Config.value right "learningType" :=
    alike.value_eq (i := 0) rfl rfl
  have sameVerbose : Config.value left "verbose" = Config.value right "verbose" :=
    alike.value_eq (i := 5) rfl rfl
  have sameFit : fitLines left = fitLines right := by
    unfold fitLines Config.holds
    rw [sameType]
  have sameParameters : verboseLines left = verboseLines right := by
    unfold verboseLines
    rw [Config.isSet_congr sameVerbose]
  unfold template
  rw [crossValidationLines_eq alike accepts, sameFit, sameParameters, Except.ok.injEq]
  cases leftHolds : Config.holds left "classWeights" "balanced" <;>
    cases rightHolds : Config.holds right "classWeights" "balanced"
  · simp [weightLines, leftHolds, rightHolds]
  · simpa [weightLines, leftHolds, rightHolds] using
      (code_ne_of_insert _ (crossValidationLines right)
        (fitLines right ++ verboseLines right) _).symm
  · simpa [weightLines, leftHolds, rightHolds] using
      code_ne_of_insert _ (crossValidationLines right)
        (fitLines right ++ verboseLines right) _
  · simp [weightLines, leftHolds, rightHolds]

end Training

/-- Of a configuration that is accepted the code shows what is visible, and of a training
besides whether its class weights are balanced. -/
theorem template_eq_iff {kind : Kind} (builtin : kind ∈ Catalog.builtinKinds)
    (alike : kind.SeenAlike left right) (accepts : kind.Accepts right) :
    kind.template left = kind.template right ↔
      (kind.typeName = TypeName.training →
        Config.holds left "classWeights" "balanced" =
          Config.holds right "classWeights" "balanced") := by
  simp only [Catalog.builtinKinds, List.mem_cons, List.not_mem_nil, or_false] at builtin
  rcases builtin with rfl | rfl | rfl | rfl | rfl | rfl | rfl | rfl | rfl
  · exact iff_of_true (Ingest.template_eq alike accepts) fun type => absurd type (by decide)
  · exact iff_of_true (Preprocess.template_eq alike) fun type => absurd type (by decide)
  · exact iff_of_true (Exploration.template_eq alike) fun type => absurd type (by decide)
  · exact iff_of_true (FeatureEngineering.template_eq alike) fun type => absurd type (by decide)
  · exact iff_of_true (DataSplit.template_eq alike) fun type => absurd type (by decide)
  · exact iff_of_true (ModelSelection.template_eq alike) fun type => absurd type (by decide)
  · exact (Training.template_eq_iff alike accepts).trans
      ⟨fun same _ => same, fun same => same rfl⟩
  · exact iff_of_true (Evaluation.template_eq alike accepts) fun type => absurd type (by decide)
  · exact iff_of_true (Deployment.template_eq alike accepts) fun type => absurd type (by decide)

end Kind

end StageGraph
