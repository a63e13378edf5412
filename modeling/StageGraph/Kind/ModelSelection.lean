import StageGraph.Kind.Basic

/-!
# Choosing a model

Every model has a form for classification and one for regression; the task
decides between them.
-/

namespace StageGraph.Kind.ModelSelection

def fields : List Field := [
  { key := "taskType"
    label := "Task Type"
    kind := .select
    initial := .text "Classification"
    required := .bool true
    options := [plain "Classification", plain "Regression"] },
  { key := "modelName"
    label := "Model"
    kind := .select
    initial := .text "Random Forest"
    required := .bool true
    options := [
      plain "Linear Regression", plain "Logistic Regression", plain "Decision Tree",
      plain "Random Forest", labelled "SVM" "Support Vector Machine",
      labelled "KNN" "K-Nearest Neighbors"] },
  { key := "modelType"
    label := "Model Type"
    kind := .select
    initial := .text "Ensemble"
    options := [
      plain "Linear", labelled "Tree" "Tree-based", plain "Ensemble",
      labelled "Neural" "Neural Network"] }]

/-- The import line and the constructor call of one form of a model. -/
structure Form where
  importLine : String
  constructor : String

/-- A model's form for classification and its form for regression. -/
structure Model where
  name : String
  classifier : Form
  regressor : Form

def models : List Model := [
  { name := "Linear Regression"
    classifier := ⟨"from sklearn.linear_model import LinearRegression",
      "LinearRegression()"⟩
    regressor := ⟨"from sklearn.linear_model import LinearRegression",
      "LinearRegression()"⟩ },
  { name := "Logistic Regression"
    classifier := ⟨"from sklearn.linear_model import LogisticRegression",
      "LogisticRegression(random_state=42)"⟩
    regressor := ⟨"from sklearn.linear_model import LogisticRegression",
      "LogisticRegression(random_state=42)"⟩ },
  { name := "Decision Tree"
    classifier := ⟨"from sklearn.tree import DecisionTreeClassifier",
      "DecisionTreeClassifier(random_state=42)"⟩
    regressor := ⟨"from sklearn.tree import DecisionTreeRegressor",
      "DecisionTreeRegressor(random_state=42)"⟩ },
  { name := "Random Forest"
    classifier := ⟨"from sklearn.ensemble import RandomForestClassifier",
      "RandomForestClassifier(n_estimators=100, random_state=42)"⟩
    regressor := ⟨"from sklearn.ensemble import RandomForestRegressor",
      "RandomForestRegressor(n_estimators=100, random_state=42)"⟩ },
  { name := "SVM"
    classifier := ⟨"from sklearn.svm import SVC",
      "SVC(kernel='rbf', random_state=42)"⟩
    regressor := ⟨"from sklearn.svm import SVR",
      "SVR(kernel='rbf')"⟩ },
  { name := "KNN"
    classifier := ⟨"from sklearn.neighbors import KNeighborsClassifier",
      "KNeighborsClassifier(n_neighbors=5)"⟩
    regressor := ⟨"from sklearn.neighbors import KNeighborsRegressor",
      "KNeighborsRegressor(n_neighbors=5)"⟩ }]

/-- The model that an unknown name stands for. -/
def defaultName : String := "Random Forest"

/-- The form of the configured model for the configured task. -/
def form? (config : Config) : Option Form :=
  let name := config.choice "modelName" (models.map Model.name) defaultName
  (models.find? fun model => model.name = name).map fun model =>
    if config.holds "taskType" "Regression" then model.regressor else model.classifier

def template (config : Config) : Except Failure String :=
  match form? config with
  | some form => .ok (form.importLine ++ "\n\nmodel = " ++ form.constructor)
  | none => .error .failed

def rules : List Rule := [
  { severity := .warning
    message := "Logistic Regression is for classification, not regression tasks"
    violated := fun config _ => .ok
      (config.holds "modelName" "Logistic Regression" && config.holds "taskType" "Regression") },
  { severity := .warning
    message := "Linear Regression is for regression, not classification tasks"
    violated := fun config _ => .ok
      (config.holds "modelName" "Linear Regression" &&
        config.holds "taskType" "Classification") }]

end StageGraph.Kind.ModelSelection

namespace StageGraph.Kind

def modelSelection : Kind :=
  { type := TypeName.modelSelection
    label := "Model Selection"
    phase := .model
    description := "Choose ML algorithm"
    fields := ModelSelection.fields
    rules := ModelSelection.rules
    template := ModelSelection.template }

end StageGraph.Kind
