import StageGraph.Kind.Basic

/-!
# Training

The model is fitted on the training data, with a cross-validation before it
where that is enabled.
-/

namespace StageGraph.Kind.Training

def fields : List Field := [
  { key := "learningType"
    label := "Learning Type"
    kind := .select
    initial := .text "Supervised"
    required := .bool true
    options := [
      labelled "Supervised" "Supervised Learning",
      labelled "Unsupervised" "Unsupervised Learning",
      labelled "SemiSupervised" "Semi-Supervised Learning",
      labelled "Reinforcement" "Reinforcement Learning"]
    description := "The learning paradigm for training." },
  { key := "crossValidation"
    label := "Enable Cross-Validation"
    kind := .boolean
    initial := .bool false
    description :=
      "Evaluate model stability using k-fold cross-validation during training." },
  { key := "cvFolds"
    label := "CV Folds (k)"
    kind := .slider
    initial := .int 5
    minimum := .int 3
    maximum := .int 10
    step := .int 1
    description := "Number of folds for cross-validation."
    condition := some { key := "crossValidation", expected := .plain (.bool true) } },
  { key := "classWeights"
    label := "Class Weights"
    kind := .select
    initial := .text "None"
    options := [
      labelled "None" "None (default)",
      labelled "balanced" "Balanced (auto-weight by frequency)"]
    description := "Handle class imbalance by weighting minority classes higher."
    condition := when "learningType" "Supervised" },
  { key := "earlyStoppingPatience"
    label := "Early Stopping Patience"
    kind := .number
    initial := .int 10
    minimum := .int 1
    placeholder := "10"
    description :=
      "Stop training if validation loss doesn't improve for N epochs (neural networks)."
    condition := when "learningType" "Supervised" },
  { key := "verbose"
    label := "Verbose Output"
    kind := .boolean
    initial := .bool false
    description := "Print detailed training progress to the console." }]

/-- The lines of the cross-validation. -/
def crossValidationLines (config : Config) : List String :=
  if config.isSet "crossValidation" then [
    "from sklearn.model_selection import cross_val_score", "import numpy as np", "",
    "# Cross-validation training",
    "cv_scores = cross_val_score(model, X_train, y_train, cv=" ++
      (config.number "cvFolds" (.integer 5)).text ++ ", scoring='accuracy')",
    "print(f\"CV Scores: \x7bcv_scores\x7d\")",
    "print(f\"Mean CV Score: \x7bcv_scores.mean():.4f\x7d (+/- \x7bcv_scores.std() * 2:.4f\x7d)\")",
    "", "# Final fit on full training data"]
  else []

/-- The note about class weights. -/
def weightLines (config : Config) : List String :=
  if config.holds "classWeights" "balanced" then [
    "# Note: set class_weight='balanced' in your model constructor for imbalanced datasets"]
  else []

/-- The lines that fit the model. -/
def fitLines (config : Config) : List String :=
  if config.holds "learningType" "Unsupervised" then
    ["model.fit(X_train)", "", "print(\"Training complete\")"]
  else [
    "model.fit(X_train, y_train)", "", "print(\"Training complete\")",
    "print(f\"Training score: \x7bmodel.score(X_train, y_train):.4f\x7d\")"]

/-- The line that prints the parameters. -/
def verboseLines (config : Config) : List String :=
  if config.isSet "verbose" then
    ["print(f\"Model parameters: \x7bmodel.get_params()\x7d\")"]
  else []

def template (config : Config) : Except Failure String :=
  .ok (code ("# Train the model" :: crossValidationLines config ++ weightLines config ++
    fitLines config ++ verboseLines config))

def rules : List Rule := [
  { severity := .error
    message := "Training node requires a Data Split node before it"
    suggestion := some "Add a Data Split node upstream of training"
    violated := fun _ flow => .ok (!flow.hasType TypeName.dataSplit) }]

end StageGraph.Kind.Training

namespace StageGraph.Kind

def training : Kind :=
  { type := TypeName.training
    label := "Training"
    phase := .model
    description := "Fit the model on training data with optional cross-validation."
    fields := Training.fields
    rules := Training.rules
    template := Training.template }

end StageGraph.Kind
