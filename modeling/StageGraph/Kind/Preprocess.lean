import StageGraph.Kind.ModelSelection

/-!
# Cleaning and scaling

Columns are dropped first, then missing values are handled, then numbers are
scaled and categories encoded where the configuration asks for it.
-/

namespace StageGraph.Kind.Preprocess

def fields : List Field := [
  { key := "dropColumns"
    label := "Columns to Drop"
    kind := .tags
    initial := .list []
    description := "Columns removed before any other step." },
  { key := "missingValues"
    label := "Missing Values"
    kind := .select
    initial := .text "Mean"
    options := [
      labelled "Drop" "Drop Rows", labelled "Mean" "Fill with Mean",
      labelled "Median" "Fill with Median", labelled "Mode" "Fill with Mode"] },
  { key := "scaling"
    label := "Scaling Method"
    kind := .select
    initial := .text "Standard"
    options := [
      plain "None", labelled "Standard" "Standard Scaler", labelled "MinMax" "Min-Max Scaler"] },
  { key := "encoding"
    label := "Encoding Method"
    kind := .select
    initial := .text "OneHot"
    options := [
      plain "None", labelled "Label" "Label Encoding",
      labelled "OneHot" "One-Hot Encoding"] }]

/-- The lines that drop columns. -/
def dropLines (config : Config) : List String :=
  let columns := config.value "dropColumns"
  if columns.truthy then
    ["# Drop unused columns", "df = df.drop(columns=" ++ columns.literal ++ ")", ""]
  else []

/-- The lines that handle missing values. -/
def missingLines (config : Config) : List String :=
  let method := config.choice "missingValues" ["Mean", "Median", "Mode", "Drop"] "Mean"
  "# Handle missing values" ::
    [if method = "Drop" then "df = df.dropna()"
     else if method = "Mode" then "df = df.fillna(df.mode().iloc[0])"
     else "df = df.fillna(df." ++ Text.lower method ++ "(numeric_only=True))"]

/-- Whether the scaler fragment is written: anything but the word for none and what counts
as it. -/
def scales (config : Config) : Bool :=
  (config.value "scaling").truthy && !config.holds "scaling" "None"

/-- The lines that scale numerical columns. -/
def scalingLines (config : Config) : List String :=
  if scales config then
    let scaler := if config.holds "scaling" "Standard" then "StandardScaler" else "MinMaxScaler"
    [ "", "from sklearn.preprocessing import " ++ scaler, "import numpy as np", "",
      "# Scale numerical features", "scaler = " ++ scaler ++ "()",
      "numerical_cols = df.select_dtypes(include=[np.number]).columns",
      "df[numerical_cols] = scaler.fit_transform(df[numerical_cols])"]
  else []

/-- The lines that encode categorical columns. -/
def encodingLines (config : Config) : List String :=
  if config.holds "encoding" "OneHot" then [
    "", "import pandas as pd", "", "# Encode categorical features",
    "df = pd.get_dummies(df, drop_first=True)"]
  else if config.holds "encoding" "Label" then [
    "", "from sklearn.preprocessing import LabelEncoder", "",
    "# Encode categorical features", "le = LabelEncoder()",
    "categorical_cols = df.select_dtypes(include=['object']).columns",
    "for col in categorical_cols:", "    df[col] = le.fit_transform(df[col])"]
  else []

def template (config : Config) : Except Failure String :=
  .ok (code (dropLines config ++ missingLines config ++ scalingLines config ++
    encodingLines config))

/-- Whether a stage's effective model type is built of trees. -/
def usesTrees (stage : Stage) : Bool :=
  (Config.value (modelSelection.effective stage.configuration) "modelType").isAmong
    [.text "Tree", .text "Ensemble"]

/-- Whether scaling is not set to none while some chosen model is built of trees. -/
def scalesForTrees (config : Config) (flow : Flow) : Bool :=
  !((Ledger.get? config "scaling").getD (.text "None")).agrees (.text "None") &&
    (flow.ofType TypeName.modelSelection).any usesTrees

def rules : List Rule := [
  { severity := .warning
    message := "Tree-based models typically don't require feature scaling"
    violated := fun config flow => .ok (scalesForTrees config flow) }]

end StageGraph.Kind.Preprocess

namespace StageGraph.Kind

def preprocess : Kind :=
  { type := TypeName.preprocess
    label := "Preprocessing"
    phase := .data
    description := "Clean and normalize data"
    fields := Preprocess.fields
    rules := Preprocess.rules
    template := Preprocess.template }

end StageGraph.Kind
