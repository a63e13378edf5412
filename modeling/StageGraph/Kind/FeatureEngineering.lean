import StageGraph.Kind.Basic

/-!
# Transforming features

Each transformation has its own block; the numeric ones insert the number that
belongs to them.
-/

namespace StageGraph.Kind.FeatureEngineering

def fields : List Field := [
  { key := "transformationType"
    label := "Transformation Type"
    kind := .select
    initial := .text "Polynomial"
    options := [
      plain "None", labelled "Polynomial" "Polynomial Features",
      labelled "Selection" "Feature Selection", labelled "Domain" "Domain-Specific",
      labelled "PCA" "Principal Component Analysis", labelled "LogTransform" "Log Transform",
      labelled "Binning" "Binning"] },
  { key := "polynomialDegree"
    label := "Polynomial Degree"
    kind := .number
    initial := .int 2
    minimum := .int 1
    condition := when "transformationType" "Polynomial" },
  { key := "selectK"
    label := "Features to Keep (k)"
    kind := .number
    initial := .int 10
    minimum := .int 1
    condition := when "transformationType" "Selection" },
  { key := "nComponents"
    label := "Components"
    kind := .number
    initial := .int 2
    minimum := .int 1
    condition := when "transformationType" "PCA" },
  { key := "nBins"
    label := "Number of Bins"
    kind := .slider
    initial := .int 5
    minimum := .int 2
    maximum := .int 20
    step := .int 1
    condition := when "transformationType" "Binning" }]

/-- The configured degree; zero counts as not given. -/
def degree (config : Config) : Number :=
  let given := config.number "polynomialDegree" (.integer 2)
  if given.isZero then .integer 2 else given

/-- The lines of the configured transformation. -/
def transformationLines (config : Config) : List String :=
  let chosen (name : String) : Bool := config.holds "transformationType" name
  let numeral (key : String) (fallback : Int) : String :=
    (config.number key (.integer fallback)).text
  if chosen "Polynomial" then [
    "from sklearn.preprocessing import PolynomialFeatures", "", "# Create polynomial features",
    "poly = PolynomialFeatures(degree=" ++ (degree config).text ++ ")",
    "X_poly = poly.fit_transform(X)",
    "print(f\"Created \x7bX_poly.shape[1]\x7d polynomial features\")"]
  else if chosen "Selection" then [
    "from sklearn.feature_selection import SelectKBest, f_classif", "", "# Select best features",
    "selector = SelectKBest(f_classif, k=" ++ numeral "selectK" 10 ++ ")",
    "X_selected = selector.fit_transform(X, y)",
    "print(f\"Selected \x7bX_selected.shape[1]\x7d features\")"]
  else if chosen "Domain" then [
    "# Domain-specific feature engineering", "# Example: Create interaction features",
    "df['feature_interaction'] = df['feature1'] * df['feature2']",
    "df['feature_ratio'] = df['feature1'] / (df['feature2'] + 1)",
    "print(\"Created domain-specific features\")"]
  else if chosen "PCA" then [
    "from sklearn.decomposition import PCA", "", "# Reduce dimensionality with PCA",
    "pca = PCA(n_components=" ++ numeral "nComponents" 2 ++ ")", "X_pca = pca.fit_transform(X)",
    "print(f\"Explained variance: \x7bpca.explained_variance_ratio_.sum():.2%\x7d\")"]
  else if chosen "LogTransform" then [
    "import numpy as np", "", "# Log-transform skewed numerical features",
    "numerical_cols = df.select_dtypes(include=[np.number]).columns",
    "df[numerical_cols] = np.log1p(df[numerical_cols].clip(lower=0))",
    "print(\"Applied log transform to numerical features\")"]
  else if chosen "Binning" then [
    "from sklearn.preprocessing import KBinsDiscretizer", "", "# Bin continuous features",
    "binner = KBinsDiscretizer(n_bins=" ++ numeral "nBins" 5 ++
      ", encode='ordinal', strategy='quantile')",
    "X_binned = binner.fit_transform(X)",
    "print(f\"Binned \x7bX_binned.shape[1]\x7d features into " ++ numeral "nBins" 5 ++ " bins\")"]
  else ["# No feature engineering applied"]

def template (config : Config) : Except Failure String :=
  .ok (code (transformationLines config))

def rules : List Rule := [
  { severity := .warning
    message := "High polynomial degrees may lead to overfitting"
    violated := fun config _ => .ok
      (config.holds "transformationType" "Polynomial" &&
        (Number.integer 3).less (config.number "polynomialDegree" (.integer 0))) }]

end StageGraph.Kind.FeatureEngineering

namespace StageGraph.Kind

def featureEngineering : Kind :=
  { type := TypeName.featureEngineering
    label := "Feature Engineering"
    phase := .data
    description := "Transform and create features"
    fields := FeatureEngineering.fields
    rules := FeatureEngineering.rules
    template := FeatureEngineering.template }

end StageGraph.Kind
