import StageGraph.Proofs.Block
import StageGraph.Proofs.Catalog
import StageGraph.Proofs.Gate.Bounds
import StageGraph.Proofs.Number.Range

/-!
# What templates answer

Every built-in template writes some line of its own that no configuration changes and
that is neither blank nor an import, so the code that a template gives never shrinks to
nothing when it is divided.  Two templates compute with numbers of the configuration, and
nothing else in it keeps a template from an answer.  Infinity cannot be made a count of
rows, and the quotient of two sizes may be beyond the range of the binary numbers.  The
sizes that a split accepts lie between zero and one, with which nothing goes wrong; but a
sample of rows has no greatest size.
-/

namespace StageGraph

/-! ## Lines that stay in a body -/

/-- A line without breaks that begins neither with a blank nor as imports do. -/
structure Line.IsSolid (line : List Char) : Prop where
  unbroken : Text.Unbroken line
  starts : ∃ c, line.head? = some c ∧ Text.isBlank c = false ∧ c ≠ 'i' ∧ c ≠ 'f'

namespace Line.IsSolid

variable {line : List Char}

theorem of_comment {comment : List Char} (unbroken : comment.any Text.isBreak = false) :
    IsSolid ('#' :: comment) where
  unbroken := Text.unbroken_iff_any.mpr (by rw [List.any_cons, unbroken]; rfl)
  starts := ⟨'#', rfl, by decide, by decide, by decide⟩

theorem trimEnd_ne_nil (solid : IsSolid line) : Text.trimEnd line ≠ [] := by
  obtain ⟨c, first, notBlank, _, _⟩ := solid.starts
  obtain ⟨rest, rfl⟩ := List.head?_eq_some_iff.mp first
  intro empty
  have allBlank := List.rdropWhile_eq_nil_iff.mp empty c List.mem_cons_self
  rw [notBlank] at allBlank
  cases allBlank

theorem not_isImport (solid : IsSolid line) : isImport line = false := by
  obtain ⟨c, first, _, notImport, notFrom⟩ := solid.starts
  exact not_isImport_of_head first notImport notFrom

end Line.IsSolid

theorem Value.choiceOr_mem (value : Value) {choices : List String} {fallback : String}
    (known : fallback ∈ choices) : value.choiceOr choices fallback ∈ choices := by
  unfold choiceOr
  split
  · split
    · rename_i listed
      simpa using listed
    · exact known
  · exact known

namespace Kind

/-- Some line stays in the body of the code that the lines make. -/
def HasBody (lines : List String) : Prop :=
  ∃ line ∈ lines, Line.IsSolid line.toList

/-- A comment of the template stays.  The line is met as the list of its characters,
since taking a text apart is slow to compute. -/
theorem HasBody.of_comment {lines : List String} {comment : List Char}
    (member : String.ofList ('#' :: comment) ∈ lines)
    (unbroken : comment.any Text.isBreak = false) : HasBody lines := by
  refine ⟨_, member, ?_⟩
  rw [String.toList_ofList]
  exact .of_comment unbroken

theorem HasBody.append_right {lines : List String} (has : HasBody lines)
    (more : List String) : HasBody (lines ++ more) := by
  obtain ⟨line, member, solid⟩ := has
  exact ⟨line, List.mem_append_left more member, solid⟩

theorem HasBody.append_left {lines : List String} (has : HasBody lines)
    (before : List String) : HasBody (before ++ lines) := by
  obtain ⟨line, member, solid⟩ := has
  exact ⟨line, List.mem_append_right before member, solid⟩

theorem HasBody.body_ne_nil {lines : List String} (has : HasBody lines) :
    (Block.ofText (code lines)).body ≠ [] := by
  obtain ⟨line, member, solid⟩ := has
  have visible := solid.trimEnd_ne_nil
  have inhabited : line.toList ≠ [] := by
    intro empty
    rw [empty] at visible
    exact visible rfl
  have raw : line.toList ∈ Text.lines (code lines).toList :=
    Text.mem_lines_join member solid.unbroken inhabited
  have trimmed : Text.trimEnd line.toList ∈ Block.trimmedLines (code lines) :=
    Block.mem_trimmedLines.mpr ⟨_, raw, rfl⟩
  rcases Block.mem_imports_or_body trimmed visible with imported | kept
  · have isImport := (Block.mem_imports.mp imported).2
    rw [Line.isImport_trimEnd, solid.not_isImport] at isImport
    cases isImport
  · exact List.ne_nil_of_mem kept

variable (config : Config)

/-! ## The lines of the templates -/

theorem Ingest.hasBody_sourceLines : HasBody (Ingest.sourceLines config) := by
  simp only [Ingest.sourceLines]
  split
  · exact .of_comment (show "# Load data from Excel" ∈ _ by simp) (by decide)
  split
  · exact .of_comment (show "# Load data from JSON" ∈ _ by simp) (by decide)
  split
  · exact .of_comment (show "# Load data from Parquet" ∈ _ by simp) (by decide)
  split
  · exact .of_comment (show "# Load data from SQL database" ∈ _ by simp) (by decide)
  split
  · exact .of_comment (show "# Load data from REST API" ∈ _ by simp) (by decide)
  split
  · exact .of_comment (show "# Scrape data from web" ∈ _ by simp) (by decide)
  split
  · exact .of_comment (show "# Load dataset from HuggingFace Hub" ∈ _ by simp) (by decide)
  · exact .of_comment (show "# Load data from CSV" ∈ _ by simp) (by decide)

theorem Preprocess.hasBody_missingLines : HasBody (Preprocess.missingLines config) :=
  .of_comment (show "# Handle missing values" ∈ _ from List.mem_cons_self) (by decide)

theorem FeatureEngineering.hasBody_transformationLines :
    HasBody (FeatureEngineering.transformationLines config) := by
  simp only [FeatureEngineering.transformationLines]
  split
  · exact .of_comment (show "# Create polynomial features" ∈ _ by simp) (by decide)
  split
  · exact .of_comment (show "# Select best features" ∈ _ by simp) (by decide)
  split
  · exact .of_comment (show "# Domain-specific feature engineering" ∈ _ by simp) (by decide)
  split
  · exact .of_comment (show "# Reduce dimensionality with PCA" ∈ _ by simp) (by decide)
  split
  · exact .of_comment (show "# Log-transform skewed numerical features" ∈ _ by simp) (by decide)
  split
  · exact .of_comment (show "# Bin continuous features" ∈ _ by simp) (by decide)
  · exact .of_comment (show "# No feature engineering applied" ∈ _ by simp) (by decide)

theorem DataSplit.hasBody_splitLines : HasBody (DataSplit.splitLines config) :=
  .of_comment (show "# Split data into train and test sets" ∈ _ by simp [DataSplit.splitLines])
    (by decide)

theorem Evaluation.hasBody_regressionLines : HasBody (Evaluation.regressionLines config) :=
  .of_comment (show "# Make predictions" ∈ _ by simp [Evaluation.regressionLines])
    (by decide)

theorem Evaluation.hasBody_clusteringLines : HasBody (Evaluation.clusteringLines config) :=
  .of_comment (show "# Clustering evaluation" ∈ _ by simp [Evaluation.clusteringLines])
    (by decide)

theorem Evaluation.hasBody_classificationLines :
    HasBody (Evaluation.classificationLines config) :=
  .of_comment (show "# Make predictions" ∈ _ by simp [Evaluation.classificationLines])
    (by decide)

theorem Deployment.hasBody_saveLines : HasBody Deployment.saveLines :=
  .of_comment (show "# Save the model" ∈ _ from List.mem_cons_self) (by decide)

/-! ## The form of a model -/

namespace ModelSelection

theorem exists_form :
    ∃ model ∈ models, ∃ form ∈ [model.regressor, model.classifier],
      form? config = some form := by
  have chosen : config.choice "modelName" (models.map Model.name) defaultName ∈
      models.map Model.name := Value.choiceOr_mem _ (by decide)
  obtain ⟨named, namedMember, sameName⟩ := List.mem_map.mp chosen
  have found : (models.find? fun model =>
      model.name = config.choice "modelName" (models.map Model.name) defaultName).isSome :=
    List.find?_isSome.mpr ⟨named, namedMember, by simpa using sameName⟩
  obtain ⟨model, found⟩ := Option.isSome_iff_exists.mp found
  refine ⟨model, List.mem_of_find?_eq_some found, _, ?_, by
    rw [form?, found, Option.map_some]⟩
  split
  · exact .head _
  · exact .tail _ (.head _)

/-- The code of a form by its lines. -/
theorem code_form (form : Form) :
    form.importLine ++ "\n\nmodel = " ++ form.constructor =
      code [form.importLine, "", "model = " ++ form.constructor] := by
  apply String.toList_inj.mp
  simp [code, Text.join]

end ModelSelection

/-! ## Numbers of the templates -/

theorem le_one_of_not_less {n : Int} (small : (Number.integer 1).less (.integer n) = false) :
    n ≤ 1 := by
  simpa [Number.less, Number.ratio?] using small

/-- The quotient of positive numbers that are not above one is in the range. -/
theorem not_overflows_of_small {left right : Number}
    (leftSmall : (Number.integer 1).less left = false)
    (rightPositive : right.isPositive = true)
    (rightSmall : (Number.integer 1).less right = false) : ¬ left.Overflows right := by
  have beyondOne : (1 : Int) < Binary.rangeLimit := by exact_mod_cast Binary.one_lt_rangeLimit
  intro overflows
  cases left with
  | integer n =>
      have dividendSmall := le_one_of_not_less leftSmall
      cases right with
      | integer m =>
          have divisorPositive := Number.positive_of_isPositive rightPositive
          have limit : (Binary.rangeLimit : Int) * m ≤ n := overflows
          nlinarith
      | real y => exact absurd (beyondOne.trans_le overflows) (not_lt.mpr dividendSmall)
  | real x =>
      cases right with
      | integer m =>
          exact absurd (beyondOne.trans_le overflows) (not_lt.mpr (le_one_of_not_less rightSmall))
      | real y => exact overflows

/-- A number that a visible field accepts is not above the declared maximum. -/
theorem Accepts.not_above {kind : Kind} {config : Config} (accepts : kind.Accepts config)
    {field : Field} {i : Nat} (place : kind.fields[i]? = some field)
    (visible : field.isVisible config = true) (numeric : field.kind.isNumeric = true)
    {greatest : Number} (declared : field.maximum = .number greatest) {number : Number}
    (given : Config.value config field.key = .number number) :
    greatest.less number = false := by
  have noMisfit := Field.misfit?_eq_none
    (accepts field (List.mem_of_getElem? place) visible)
  rw [given] at noMisfit
  obtain ⟨_, same, inside⟩ := Field.outside?_of_numeric noMisfit rfl numeric
  obtain rfl := Value.number.inj same
  rcases (Field.bounds_of_outside? inside).2 with none | ⟨limit, isLimit, notAbove⟩
  · rw [declared] at none
    cases none
  · rw [declared] at isLimit
    obtain rfl := Option.some.inj isLimit
    exact notAbove

/-- A positive number under a key is the value there. -/
theorem value_of_isPositive {config : Config} {key : String}
    (positive : (config.number key (.integer 0)).isPositive = true) :
    Config.value config key = .number (config.number key (.integer 0)) := by
  unfold Config.number Value.numberOr at positive ⊢
  split
  · assumption
  · rename_i other
    split at positive
    · rename_i number same
      exact (other number same).elim
    · cases positive

/-- The sizes of validation and training data are positive, and their quotient is beyond the
range. -/
def DataSplit.ShareOverflows (config : Config) : Prop :=
  ∃ validation train, Config.value config "validationSize" = .number validation ∧
    Config.value config "trainSize" = .number train ∧
    validation.isPositive = true ∧ train.isPositive = true ∧ validation.Overflows train

theorem DataSplit.validationShare?_of_shareOverflows {config : Config}
    (overflows : ShareOverflows config) :
    DataSplit.validationShare? config = .error .outOfRange := by
  obtain ⟨validation, train, isValidation, isTrain, validationPositive, trainPositive, beyond⟩ :=
    overflows
  have validationNumber : config.number "validationSize" (.integer 0) = validation := by
    rw [Config.number, isValidation]
    rfl
  have trainNumber : config.number "trainSize" (.integer 0) = train := by
    rw [Config.number, isTrain]
    rfl
  have refused := (Number.div_fails_iff validationPositive trainPositive).mpr beyond
  simp [DataSplit.validationShare?, validationNumber, trainNumber, validationPositive,
    trainPositive, refused]

theorem DataSplit.exists_validationShare {config : Config} (inRange : ¬ ShareOverflows config) :
    ∃ share, DataSplit.validationShare? config = .ok share := by
  simp only [DataSplit.validationShare?]
  split
  · rename_i both
    obtain ⟨validation, train⟩ := Bool.and_eq_true_iff.mp both
    split
    · exact ⟨_, rfl⟩
    · rename_i refused
      have beyond := (Number.div_fails_iff validation train).mp refused
      exact (inRange ⟨_, _, value_of_isPositive validation, value_of_isPositive train, validation,
        train, beyond⟩).elim
  · exact ⟨none, rfl⟩

theorem Accepts.not_shareOverflows {config : Config} (accepts : dataSplit.Accepts config) :
    ¬ DataSplit.ShareOverflows config := by
  rintro ⟨validation, train, isValidation, isTrain, _, trainPositive, beyond⟩
  have validationSmall : (Number.integer 1).less validation = false :=
    accepts.not_above (i := 2) rfl rfl rfl rfl isValidation
  have trainSmall : (Number.integer 1).less train = false :=
    accepts.not_above (i := 0) rfl rfl rfl rfl isTrain
  exact not_overflows_of_small validationSmall trainPositive trainSmall beyond

/-- The sample of a configuration is infinite. -/
def Ingest.IsUnbounded (config : Config) : Prop :=
  Config.value config "sampleSize" = .number (.real (.infinity false))

theorem Ingest.sampleRows?_of_isUnbounded {config : Config} (unbounded : IsUnbounded config) :
    Ingest.sampleRows? config = .error .outOfRange := by
  have size : config.number "sampleSize" (.integer 0) = .real (.infinity false) := by
    rw [Config.number, unbounded]
    rfl
  simp only [Ingest.sampleRows?, size]
  rfl

theorem Ingest.exists_sampleRows {config : Config} (bounded : ¬ IsUnbounded config) :
    ∃ rows, Ingest.sampleRows? config = .ok rows := by
  simp only [Ingest.sampleRows?]
  split
  · rename_i positive
    have given := value_of_isPositive positive
    generalize config.number "sampleSize" (.integer 0) = size at positive given ⊢
    rcases size with rows | (_ | negative | ⟨negative, mantissa, exponent⟩)
    · exact ⟨_, rfl⟩
    · cases positive
    · cases negative with
      | true => cases positive
      | false => exact (bounded given).elim
    · exact ⟨_, rfl⟩
  · exact ⟨none, rfl⟩

/-! ## The templates -/

/-- A template gives code, and something of it stays in the body. -/
def Answers (outcome : Except Failure String) : Prop :=
  ∃ text, outcome = .ok text ∧ (Block.ofText text).body ≠ []

theorem HasBody.answers {lines : List String} (has : HasBody lines) :
    Answers (.ok (code lines)) :=
  ⟨_, rfl, has.body_ne_nil⟩

theorem Ingest.answers_template {config : Config} (bounded : ¬ IsUnbounded config) :
    Answers (Ingest.template config) := by
  obtain ⟨rows, sampled⟩ := Ingest.exists_sampleRows bounded
  have has : HasBody (sourceLines config ++ sampleLines rows ++ targetLines config) :=
    ((Ingest.hasBody_sourceLines config).append_right _).append_right _
  rw [Ingest.template, sampled]
  exact has.answers

theorem Preprocess.answers_template (config : Config) :
    Answers (Preprocess.template config) := by
  have missing := (Preprocess.hasBody_missingLines config).append_left (dropLines config)
  exact ((missing.append_right _).append_right _).answers

theorem Exploration.answers_template (config : Config) :
    Answers (Exploration.template config) := by
  simp only [Exploration.template]
  apply HasBody.answers
  split
  · exact .of_comment (show "# Univariate analysis" ∈ _ by simp [univariate]) (by decide)
  split
  · exact .of_comment (show "# Bivariate analysis" ∈ _ by simp [bivariate]) (by decide)
  split
  · exact .of_comment (show "# PCA for multivariate analysis" ∈ _ by simp [multivariate])
      (by decide)
  · exact .of_comment (show "# Generate comprehensive EDA report" ∈ _ by simp [profiling])
      (by decide)

theorem FeatureEngineering.answers_template (config : Config) :
    Answers (FeatureEngineering.template config) :=
  (FeatureEngineering.hasBody_transformationLines config).answers

theorem DataSplit.answers_template {config : Config} (inRange : ¬ ShareOverflows config) :
    Answers (DataSplit.template config) := by
  obtain ⟨share, divided⟩ := DataSplit.exists_validationShare inRange
  have has : HasBody (splitLines config ++ validationLines config share) :=
    (DataSplit.hasBody_splitLines config).append_right _
  rw [DataSplit.template, divided]
  exact has.answers

theorem ModelSelection.isSolid_call {call : List Char}
    (unbroken : call.any Text.isBreak = false) :
    Line.IsSolid ("model = " ++ String.ofList call).toList := by
  rw [String.toList_append, String.toList_ofList, String.toList_ofList]
  constructor
  · apply Text.unbroken_iff_any.mpr
    rw [List.any_append, unbroken, Bool.or_false]
    decide
  · exact ⟨'m', rfl, by decide, by decide, by decide⟩

theorem ModelSelection.exists_call {model : Model} (member : model ∈ models)
    {form : Form} (offered : form ∈ [model.regressor, model.classifier]) :
    ∃ call, form.constructor = String.ofList call ∧ call.any Text.isBreak = false := by
  simp only [models, List.mem_cons, List.not_mem_nil, or_false] at member
  rcases member with rfl | rfl | rfl | rfl | rfl | rfl
  all_goals
    rcases List.mem_pair.mp offered with rfl | rfl
    · exact ⟨_, rfl, by decide⟩
    · exact ⟨_, rfl, by decide⟩

theorem ModelSelection.answers_template (config : Config) :
    Answers (ModelSelection.template config) := by
  obtain ⟨model, member, form, offered, chosen⟩ := ModelSelection.exists_form config
  obtain ⟨call, spelt, unbroken⟩ := ModelSelection.exists_call member offered
  have solid := ModelSelection.isSolid_call unbroken
  rw [← spelt] at solid
  have has : HasBody [form.importLine, "", "model = " ++ form.constructor] :=
    ⟨_, .tail _ (.tail _ (.head _)), solid⟩
  simp only [ModelSelection.template, chosen, ModelSelection.code_form]
  exact has.answers

theorem Training.answers_template (config : Config) :
    Answers (Training.template config) :=
  (HasBody.of_comment (show "# Train the model" ∈ _ from List.mem_cons_self) (by decide)).answers

theorem Evaluation.answers_template (config : Config) :
    Answers (Evaluation.template config) := by
  simp only [Evaluation.template]
  apply HasBody.answers
  split
  · exact Evaluation.hasBody_regressionLines config
  split
  · exact Evaluation.hasBody_clusteringLines config
  · exact Evaluation.hasBody_classificationLines config

theorem Deployment.answers_template (config : Config) :
    Answers (Deployment.template config) :=
  ((Deployment.hasBody_saveLines.append_right _).append_right _).answers

/-- The template of a kind has no answer to a configuration that the kind accepts. -/
def Overflows (kind : Kind) (config : Config) : Prop :=
  kind.typeName = TypeName.ingest ∧ Ingest.IsUnbounded config

/-- The template of a kind has no answer to a configuration. -/
def Exceeds (kind : Kind) (config : Config) : Prop :=
  kind.Overflows config ∨
    (kind.typeName = TypeName.dataSplit ∧ DataSplit.ShareOverflows config)

theorem answers_of_not_exceeds {kind : Kind} (builtin : kind ∈ Catalog.builtinKinds)
    {config : Config} (inRange : ¬ kind.Exceeds config) : Answers (kind.template config) := by
  simp only [Catalog.builtinKinds, List.mem_cons, List.not_mem_nil, or_false] at builtin
  rcases builtin with rfl | rfl | rfl | rfl | rfl | rfl | rfl | rfl | rfl
  · exact Ingest.answers_template fun unbounded => inRange (.inl ⟨rfl, unbounded⟩)
  · exact Preprocess.answers_template config
  · exact Exploration.answers_template config
  · exact FeatureEngineering.answers_template config
  · exact DataSplit.answers_template fun overflows => inRange (.inr ⟨rfl, overflows⟩)
  · exact ModelSelection.answers_template config
  · exact Training.answers_template config
  · exact Evaluation.answers_template config
  · exact Deployment.answers_template config

/-- No two built-in kinds share a type. -/
theorem eq_of_typeName_eq {kind other : Kind} (builtin : kind ∈ Catalog.builtinKinds)
    (otherBuiltin : other ∈ Catalog.builtinKinds) (same : kind.typeName = other.typeName) :
    kind = other := by
  have distinctTypes : (Catalog.builtinKinds.map Kind.typeName).Nodup := by decide
  exact List.inj_on_of_nodup_map distinctTypes builtin otherBuiltin same

theorem template_of_overflows {kind : Kind} (builtin : kind ∈ Catalog.builtinKinds)
    {config : Config} (overflows : kind.Overflows config) :
    kind.template config = .error .outOfRange := by
  obtain ⟨isIngest, unbounded⟩ := overflows
  obtain rfl : kind = ingest := eq_of_typeName_eq builtin List.mem_cons_self isIngest
  have template : ingest.template config = Ingest.template config := rfl
  rw [template, Ingest.template, Ingest.sampleRows?_of_isUnbounded unbounded]
  rfl

theorem template_of_exceeds {kind : Kind} (builtin : kind ∈ Catalog.builtinKinds)
    {config : Config} (exceeds : kind.Exceeds config) :
    kind.template config = .error .outOfRange := by
  rcases exceeds with overflows | ⟨isSplit, overflows⟩
  · exact template_of_overflows builtin overflows
  · obtain rfl : kind = dataSplit :=
      eq_of_typeName_eq builtin (List.mem_of_getElem? (i := 4) rfl) isSplit
    have template : dataSplit.template config = DataSplit.template config := rfl
    rw [template, DataSplit.template, DataSplit.validationShare?_of_shareOverflows overflows]
    rfl

theorem answers_template {kind : Kind} (builtin : kind ∈ Catalog.builtinKinds)
    {config : Config} (accepts : kind.Accepts config)
    (inRange : ¬ kind.Overflows config) : Answers (kind.template config) := by
  apply answers_of_not_exceeds builtin
  rintro (overflows | ⟨isSplit, overflows⟩)
  · exact inRange overflows
  · obtain rfl : kind = dataSplit :=
      eq_of_typeName_eq builtin (List.mem_of_getElem? (i := 4) rfl) isSplit
    exact accepts.not_shareOverflows overflows

end Kind

end StageGraph
