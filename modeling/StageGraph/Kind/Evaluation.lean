import StageGraph.Kind.Basic

/-!
# Evaluation

The evaluation type decides which metrics can be computed; each chosen metric
adds its lines in the order of the tables, whatever the order of the choice.
-/

namespace StageGraph.Kind.Evaluation

def classificationOptions : List FieldOption := [
  plain "Accuracy", plain "Precision", plain "Recall", labelled "F1" "F1 Score",
  plain "ROC-AUC", labelled "LogLoss" "Log Loss",
  labelled "MCC" "Matthews Correlation Coefficient"]

def regressionOptions : List FieldOption := [
  labelled "MAE" "Mean Absolute Error (MAE)", labelled "MSE" "Mean Squared Error (MSE)",
  labelled "RMSE" "Root MSE (RMSE)", labelled "R2" "R² Score",
  labelled "MAPE" "Mean Absolute Percentage Error (MAPE)"]

def clusteringOptions : List FieldOption := [
  labelled "Silhouette" "Silhouette Score", labelled "DaviesBouldin" "Davies-Bouldin Index",
  labelled "CalinskiHarabasz" "Calinski-Harabasz Index"]

/-- The metrics field of one evaluation type. -/
def metricsField (evaluation : String) (chosen : List String) (options : List FieldOption) :
    Field :=
  { key := "metrics"
    label := "Metrics"
    kind := .multiselect
    initial := .list (chosen.map .text)
    options := options
    description := "Select the metrics to compute."
    condition := when "evaluationType" evaluation }

def fields : List Field := [
  { key := "evaluationType"
    label := "Evaluation Type"
    kind := .select
    initial := .text "Classification"
    required := .bool true
    options := [plain "Classification", plain "Regression", plain "Clustering"]
    description := "Match this to your model's task type." },
  metricsField "Classification" ["Accuracy", "F1", "ROC-AUC"] classificationOptions,
  metricsField "Regression" ["MAE", "RMSE", "R2"] regressionOptions,
  metricsField "Clustering" ["Silhouette"] clusteringOptions,
  { key := "crossValidation"
    label := "Cross-Validation Evaluation"
    kind := .boolean
    initial := .bool false
    description :=
      "Evaluate using k-fold cross-validation instead of a single test set." },
  { key := "cvFolds"
    label := "CV Folds (k)"
    kind := .slider
    initial := .int 5
    minimum := .int 3
    maximum := .int 10
    step := .int 1
    condition := some { key := "crossValidation", expected := .plain (.bool true) } },
  { key := "generateConfusionMatrix"
    label := "Confusion Matrix"
    kind := .boolean
    initial := .bool true
    description := "Generate and plot a confusion matrix."
    condition := when "evaluationType" "Classification" },
  { key := "generateROCCurve"
    label := "ROC Curve"
    kind := .boolean
    initial := .bool false
    description := "Plot the Receiver Operating Characteristic curve."
    condition := when "evaluationType" "Classification" },
  { key := "generateResidualPlot"
    label := "Residual Plot"
    kind := .boolean
    initial := .bool false
    description := "Plot predicted vs actual residuals."
    condition := when "evaluationType" "Regression" }]

/-- A metric: its name, the function that computes it and the lines that print it. -/
structure Metric where
  name : String
  function : String := ""
  lines : List String

def classificationMetrics : List Metric := [
  { name := "Accuracy"
    function := "accuracy_score"
    lines := [
      "print(f\"Accuracy: \x7baccuracy_score(y_test, y_pred):.4f\x7d\")"] },
  { name := "Precision"
    function := "precision_score"
    lines := [
      "print(f\"Precision: \x7bprecision_score(y_test, y_pred, average='weighted'):.4f\x7d\")"] },
  { name := "Recall"
    function := "recall_score"
    lines := [
      "print(f\"Recall: \x7brecall_score(y_test, y_pred, average='weighted'):.4f\x7d\")"] },
  { name := "F1"
    function := "f1_score"
    lines := [
      "print(f\"F1 Score: \x7bf1_score(y_test, y_pred, average='weighted'):.4f\x7d\")"] },
  { name := "ROC-AUC"
    function := "roc_auc_score"
    lines := [
      "y_prob = model.predict_proba(X_test)[:, 1]",
      "print(f\"ROC-AUC: \x7broc_auc_score(y_test, y_prob):.4f\x7d\")"] },
  { name := "LogLoss"
    function := "log_loss"
    lines := [
      "y_prob = model.predict_proba(X_test)",
      "print(f\"Log Loss: \x7blog_loss(y_test, y_prob):.4f\x7d\")"] },
  { name := "MCC"
    function := "matthews_corrcoef"
    lines := [
      "print(f\"MCC: \x7bmatthews_corrcoef(y_test, y_pred):.4f\x7d\")"] }]

def regressionMetrics : List Metric := [
  { name := "MAE"
    lines := [
      "print(f\"MAE: \x7bmean_absolute_error(y_test, y_pred):.4f\x7d\")"] },
  { name := "MSE"
    lines := [
      "print(f\"MSE: \x7bmean_squared_error(y_test, y_pred):.4f\x7d\")"] },
  { name := "RMSE"
    lines := [
      "print(f\"RMSE: \x7bnp.sqrt(mean_squared_error(y_test, y_pred)):.4f\x7d\")"] },
  { name := "R2"
    lines := [
      "print(f\"R²: \x7br2_score(y_test, y_pred):.4f\x7d\")"] },
  { name := "MAPE"
    lines := [
      "print(f\"MAPE: \x7bnp.mean(np.abs((y_test - y_pred) / y_test)) * 100:.2f\x7d%\")"] }]

def clusteringMetrics : List Metric := [
  { name := "Silhouette"
    lines := [
      "print(f\"Silhouette Score: \x7bsilhouette_score(X, labels):.4f\x7d\")"] },
  { name := "DaviesBouldin"
    lines := [
      "print(f\"Davies-Bouldin Index: \x7bdavies_bouldin_score(X, labels):.4f\x7d\")"] },
  { name := "CalinskiHarabasz"
    lines := [
      "print(f\"Calinski-Harabasz Index: \x7bcalinski_harabasz_score(X, labels):.4f\x7d\")"] }]

/-- The chosen metrics; anything but a list chooses accuracy alone. -/
def chosen (config : Config) : List Value :=
  match config.value "metrics" with
  | .list items => items
  | _ => [.text "Accuracy"]

/-- The metrics of a table that are among the chosen ones. -/
def selected (table : List Metric) (config : Config) : List Metric :=
  table.filter fun metric => (Value.text metric.name).isAmong (chosen config)

def metricLines (table : List Metric) (config : Config) : List String :=
  (selected table config).flatMap Metric.lines

def residualLines (config : Config) : List String :=
  if config.isSet "generateResidualPlot" then [
    "", "import matplotlib.pyplot as plt", "", "# Residual plot", "residuals = y_test - y_pred",
    "plt.figure(figsize=(10, 5))", "plt.scatter(y_pred, residuals, alpha=0.5)",
    "plt.axhline(y=0, color='r', linestyle='--')", "plt.xlabel(\"Predicted\")",
    "plt.ylabel(\"Residuals\")", "plt.title(\"Residual Plot\")", "plt.show()"]
  else []

def regressionLines (config : Config) : List String :=
  [
    "from sklearn.metrics import mean_absolute_error, mean_squared_error, r2_score",
    "import numpy as np", "", "# Make predictions", "y_pred = model.predict(X_test)", "",
    "# Regression metrics"] ++
    metricLines regressionMetrics config ++ residualLines config

def clusteringLines (config : Config) : List String :=
  [
    "from sklearn.metrics import silhouette_score, davies_bouldin_score, calinski_harabasz_score",
    "", "# Clustering evaluation",
    "labels = model.labels_ if hasattr(model, 'labels_') else model.predict(X)"] ++
    metricLines clusteringMetrics config

/-- The names that a classification imports. -/
def importedNames (config : Config) : List String :=
  (selected classificationMetrics config).map Metric.function ++
    (if config.isSet "generateConfusionMatrix" then
      ["confusion_matrix", "ConfusionMatrixDisplay"] else []) ++
    (if config.isSet "generateROCCurve" then ["RocCurveDisplay"] else [])

def importLines (config : Config) : List String :=
  let names := importedNames config
  if names.isEmpty then [] else ["from sklearn.metrics import " ++ Text.join ", " names, ""]

def crossValidationLines (config : Config) : List String :=
  if config.isSet "crossValidation" then [
    "", "# Cross-validation", "from sklearn.model_selection import cross_val_score",
    "cv_scores = cross_val_score(model, X_train, y_train, cv=" ++
      (config.number "cvFolds" (.integer 5)).text ++ ")",
    "print(f\"\\nCV Scores: \x7bcv_scores\x7d\")",
    "print(f\"Mean CV: \x7bcv_scores.mean():.4f\x7d (+/- \x7bcv_scores.std() * 2:.4f\x7d)\")"]
  else []

def confusionLines (config : Config) : List String :=
  if config.isSet "generateConfusionMatrix" then [
    "", "import matplotlib.pyplot as plt", "", "# Confusion matrix",
    "cm = confusion_matrix(y_test, y_pred)", "disp = ConfusionMatrixDisplay(confusion_matrix=cm)",
    "disp.plot(cmap='Blues')", "plt.title(\"Confusion Matrix\")", "plt.show()"]
  else []

def curveLines (config : Config) : List String :=
  if config.isSet "generateROCCurve" then [
    "", "import matplotlib.pyplot as plt", "", "# ROC Curve",
    "RocCurveDisplay.from_estimator(model, X_test, y_test)", "plt.title(\"ROC Curve\")",
    "plt.show()"]
  else []

def classificationLines (config : Config) : List String :=
  importLines config ++
    ["# Make predictions", "y_pred = model.predict(X_test)", "", "# Metrics"] ++
    metricLines classificationMetrics config ++ crossValidationLines config ++
    confusionLines config ++ curveLines config

def template (config : Config) : Except Failure String :=
  .ok <| code <|
    if config.holds "evaluationType" "Regression" then regressionLines config
    else if config.holds "evaluationType" "Clustering" then clusteringLines config
    else classificationLines config

def rules : List Rule := [
  { severity := .error
    message := "Evaluation node requires a Training node before it"
    suggestion := some "Add a Training node upstream of evaluation"
    violated := fun _ flow => .ok (!flow.hasType TypeName.training) }]

end StageGraph.Kind.Evaluation

namespace StageGraph.Kind

def evaluation : Kind :=
  { type := TypeName.evaluation
    label := "Evaluation"
    phase := .model
    description := "Measure model performance using metrics and visualizations."
    fields := Evaluation.fields
    rules := Evaluation.rules
    template := Evaluation.template }

end StageGraph.Kind
