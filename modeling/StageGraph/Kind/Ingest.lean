import StageGraph.Kind.Basic

/-!
# Loading data

The source decides how the first lines read; a positive sample size and a target
column each add a block of their own.  The sample size is written without a bound on its
digits: a size of more digits than are written has no place in these lines.
-/

namespace StageGraph.Kind.Ingest

/-- The sources that are reached by a path or an address. -/
def pathSources : List String :=
  ["CSV", "Excel", "JSON", "Parquet", "API", "Scraping", "HuggingFace"]

def fields : List Field := [
  { key := "sourceType"
    label := "Source Type"
    kind := .select
    initial := .text "CSV"
    required := .bool true
    options := [
      labelled "CSV" "CSV File", labelled "Excel" "Excel (XLSX)", labelled "JSON" "JSON File",
      labelled "Parquet" "Parquet File", labelled "SQL" "SQL Database",
      labelled "API" "REST API", labelled "Scraping" "Web Scraping",
      labelled "HuggingFace" "HuggingFace Dataset"]
    description := "Where to load your data from." },
  { key := "filePath"
    label := "File Path / URL"
    kind := .text
    initial := .text ""
    placeholder := "e.g. data/train.csv or https://..."
    description := "Path to the file or URL of the data source."
    condition := some { key := "sourceType", expected := .plain (.list (pathSources.map .text)) } },
  { key := "delimiter"
    label := "Delimiter"
    kind := .text
    initial := .text ","
    placeholder := ","
    description := "Column separator character."
    condition := when "sourceType" "CSV" },
  { key := "connectionString"
    label := "Connection String"
    kind := .text
    initial := .text "sqlite:///database.db"
    description := "SQLAlchemy database URL."
    condition := when "sourceType" "SQL" },
  { key := "query"
    label := "SQL Query"
    kind := .textarea
    initial := .text "SELECT * FROM table_name"
    condition := when "sourceType" "SQL" },
  { key := "dataType"
    label := "Data Type"
    kind := .select
    initial := .text "Tabular"
    required := .bool true
    options := [
      plain "Tabular", labelled "Text" "Text / NLP", plain "Image",
      labelled "TimeSeries" "Time Series", plain "Audio"]
    description := "The type/modality of the data." },
  { key := "targetColumn"
    label := "Target Column"
    kind := .text
    initial := .text ""
    placeholder := "e.g. label, price, survived"
    description := "Name of the column to predict (leave blank for unsupervised)." },
  { key := "sampleSize"
    label := "Sample Size (rows)"
    kind := .number
    initial := .int 0
    minimum := .int 0
    placeholder := "0 = load all rows"
    description := "Limit rows loaded. 0 means load the full dataset." },
  { key := "schemaKnown"
    label := "Schema Known"
    kind := .boolean
    initial := .bool true
    description := "Whether the column types are known in advance." }]

private def loaded : String :=
  "print(f\"Loaded \x7blen(df)\x7d rows, \x7blen(df.columns)\x7d columns\")"

/-- The lines that load the data from the configured source. -/
def sourceLines (config : Config) : List String :=
  let source := config.value "sourceType"
  let entry (key fallback : String) : String := (config.value key).textOr fallback
  let path (fallback : String) : String := entry "filePath" fallback
  if source.agrees (.text "Excel") then [
    "import pandas as pd", "", "# Load data from Excel",
    "df = pd.read_excel(\"" ++ path "data.xlsx" ++ "\")", loaded]
  else if source.agrees (.text "JSON") then [
    "import pandas as pd", "", "# Load data from JSON",
    "df = pd.read_json(\"" ++ path "data.json" ++ "\")", loaded]
  else if source.agrees (.text "Parquet") then [
    "import pandas as pd", "", "# Load data from Parquet",
    "df = pd.read_parquet(\"" ++ path "data.parquet" ++ "\")", loaded]
  else if source.agrees (.text "SQL") then [
    "import pandas as pd", "from sqlalchemy import create_engine", "",
    "# Load data from SQL database",
    "engine = create_engine(\"" ++ entry "connectionString" "sqlite:///database.db" ++ "\")",
    "df = pd.read_sql_query(\"" ++ entry "query" "SELECT * FROM table_name" ++ "\", engine)",
    loaded]
  else if source.agrees (.text "API") then [
    "import requests", "import pandas as pd", "", "# Load data from REST API",
    "response = requests.get(\"" ++ path "https://api.example.com/data" ++ "\")",
    "data = response.json()", "df = pd.DataFrame(data)", loaded]
  else if source.agrees (.text "Scraping") then [
    "import requests", "from bs4 import BeautifulSoup", "import pandas as pd", "",
    "# Scrape data from web", "response = requests.get(\"" ++ path "https://example.com" ++ "\")",
    "soup = BeautifulSoup(response.text, 'html.parser')",
    "# Parse the page and build a DataFrame", "df = pd.DataFrame()  # Fill in your parsing logic",
    "print(f\"Scraped \x7blen(df)\x7d rows\")"]
  else if source.agrees (.text "HuggingFace") then [
    "from datasets import load_dataset", "import pandas as pd", "",
    "# Load dataset from HuggingFace Hub",
    "dataset = load_dataset(\"" ++ path "dataset_name" ++ "\")",
    "df = dataset['train'].to_pandas()", loaded]
  else [
    "import pandas as pd", "", "# Load data from CSV",
    "df = pd.read_csv(\"" ++ path "data.csv" ++ "\", sep=\"" ++ entry "delimiter" "," ++ "\")",
    loaded]

/-- The number of rows to keep, when it is positive. -/
def sampleRows? (config : Config) : Except Failure (Option Int) :=
  let size := config.number "sampleSize" (.integer 0)
  if size.isPositive then
    match size with
    | .integer rows => .ok (some rows)
    | .real x =>
      match x.toInt? with
      | some rows => .ok (some rows)
      | none => .error .outOfRange
  else
    .ok none

/-- The lines that draw a sample. -/
def sampleLines : Option Int → List String
  | none => []
  | some rows => [
    "", "# Sample the dataset",
    "df = df.sample(n=" ++ toString rows ++ ", random_state=42)"]

/-- The lines that part the target column from the features. -/
def targetLines (config : Config) : List String :=
  let target := (config.value "targetColumn").textOr ""
  if target = "" then []
  else
    let column := Text.Quoted.quote target
    [ "", "# Separate features and target",
      "X = df.drop(columns=[" ++ column ++ "])",
      "y = df[" ++ column ++ "]"]

def template (config : Config) : Except Failure String := do
  let rows ← sampleRows? config
  return code (sourceLines config ++ sampleLines rows ++ targetLines config)

end StageGraph.Kind.Ingest

namespace StageGraph.Kind

def ingest : Kind :=
  { type := TypeName.ingest
    label := "Data Ingest"
    phase := .data
    description := "Load data from various sources into your pipeline."
    maxInstances := .int 1
    fields := Ingest.fields
    template := Ingest.template }

end StageGraph.Kind
