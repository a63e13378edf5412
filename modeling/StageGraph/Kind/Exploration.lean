import StageGraph.Kind.Basic

/-!
# Exploring data

One fixed block of code for every kind of analysis.
-/

namespace StageGraph.Kind.Exploration

def fields : List Field := [
  { key := "edaType"
    label := "Analysis Type"
    kind := .select
    initial := .text "Profiling"
    options := [
      labelled "Univariate" "Univariate Analysis", labelled "Bivariate" "Bivariate Analysis",
      labelled "Multivariate" "Multivariate Analysis",
      labelled "Profiling" "Data Profiling Report"] }]

def univariate : List String := [
  "import matplotlib.pyplot as plt", "import seaborn as sns", "", "# Univariate analysis",
  "for col in df.columns:", "    plt.figure(figsize=(10, 4))",
  "    if df[col].dtype in ['int64', 'float64']:", "        sns.histplot(df[col], kde=True)",
  "    else:", "        df[col].value_counts().plot(kind='bar')",
  "    plt.title(f'Distribution of \x7bcol\x7d')", "    plt.show()"]

def bivariate : List String := [
  "import matplotlib.pyplot as plt", "import seaborn as sns", "", "# Bivariate analysis",
  "sns.pairplot(df)", "plt.show()", "", "# Correlation matrix", "plt.figure(figsize=(12, 8))",
  "sns.heatmap(df.corr(numeric_only=True), annot=True, cmap='coolwarm')",
  "plt.title('Correlation Matrix')", "plt.show()"]

def multivariate : List String := [
  "import matplotlib.pyplot as plt", "from sklearn.decomposition import PCA", "",
  "# PCA for multivariate analysis", "pca = PCA(n_components=2)",
  "pca_result = pca.fit_transform(df.select_dtypes(include=['float64', 'int64']))", "",
  "plt.figure(figsize=(10, 6))", "plt.scatter(pca_result[:, 0], pca_result[:, 1])",
  "plt.xlabel('First Principal Component')", "plt.ylabel('Second Principal Component')",
  "plt.title('PCA Analysis')", "plt.show()"]

def profiling : List String := [
  "from ydata_profiling import ProfileReport", "", "# Generate comprehensive EDA report",
  "profile = ProfileReport(df, title='Data Profiling Report')",
  "profile.to_file(\"eda_report.html\")", "print(\"EDA report saved to eda_report.html\")"]

def template (config : Config) : Except Failure String :=
  let analysis :=
    config.choice "edaType" ["Univariate", "Bivariate", "Multivariate", "Profiling"] "Profiling"
  .ok <| code <|
    if analysis = "Univariate" then univariate
    else if analysis = "Bivariate" then bivariate
    else if analysis = "Multivariate" then multivariate
    else profiling

end StageGraph.Kind.Exploration

namespace StageGraph.Kind

def exploration : Kind :=
  { type := TypeName.exploration
    label := "EDA"
    phase := .data
    description := "Exploratory data analysis"
    fields := Exploration.fields
    template := Exploration.template }

end StageGraph.Kind
