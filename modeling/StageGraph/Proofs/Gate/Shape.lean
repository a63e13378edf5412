import StageGraph.Proofs.Gate.Hidden
import StageGraph.Proofs.Kind.Bodies
import StageGraph.Proofs.Kind.Places
import StageGraph.Proofs.Text.Quoted

/-!
# Texts of a configuration and the shape of the code

The code of a stage has lines, and some of them are imports.  The target column is written as
a literal, which is a single line for every text.  The other settings of a source are written
between quotes as they are, so the line ends of a text become line ends of the code, and what
follows one may read as an import.  The code has the shape it had as long as the statement
around the text has.
-/

namespace StageGraph

open Text

/-- Two texts have equally many lines, and the same lines of them are imports. -/
structure Block.SameShape (left right : String) : Prop where
  lines : (Text.lines left.toList).length = (Text.lines right.toList).length
  imports : (ofText left).imports = (ofText right).imports

/-- The kinds of fields that take any text. -/
def FieldKind.isText : FieldKind → Bool
  | .text => true
  | .textarea => true
  | _ => false

namespace Kind.Ingest

/-! ## The places of the settings -/

/-- The texts that are written as they are, each under the sources that take it. -/
def settings : List (String × String) :=
  pathSources.map (·, "filePath") ++
    [("CSV", "delimiter"), ("SQL", "connectionString"), ("SQL", "query")]

/-- The code has a place for the value of a key: whatever the value, what is written there is
its text, or the fallback when there is none. -/
structure Takes (place : Place) (config : Config) (key fallback : String) : Prop where
  tight : IsTight fallback
  writes : ∀ other, Config.AgreesOff key other config →
    template other = .ok (place.write ((Config.value other key).textOr fallback))

variable {config : Config} {key name : String}

theorem ne_of_mem_settings (listed : (name, key) ∈ settings) :
    "sourceType" ≠ key ∧ "sampleSize" ≠ key ∧ "targetColumn" ≠ key := by
  have others : ∀ row ∈ settings,
      "sourceType" ≠ row.2 ∧ "sampleSize" ≠ row.2 ∧ "targetColumn" ≠ row.2 := by
    decide
  exact others _ listed

/-- Every setting of a source has a place among the lines that load the data. -/
theorem exists_place (source : (Config.value config "sourceType").asText? = some name)
    (listed : (name, key) ∈ settings) :
    ∃ (place : Place) (fallback : String), IsTight fallback ∧
      ∀ other, Config.AgreesOff key other config →
        sourceLines other = place.lines ((Config.value other key).textOr fallback) := by
  have same (other : Config) (agrees : Config.AgreesOff key other config) :
      (Config.value other "sourceType").asText? = some name := by
    rw [agrees _ (ne_of_mem_settings listed).1, source]
  simp only [settings, pathSources, List.map_cons, List.map_nil, List.cons_append,
    List.nil_append, List.mem_cons, Prod.mk.injEq, List.not_mem_nil, or_false] at listed
  -- The lines around the statement are found in the template; what is given here is how the
  -- statement reads around the text, and the fallback.
  rcases listed with ⟨rfl, rfl⟩ | ⟨rfl, rfl⟩ | ⟨rfl, rfl⟩ | ⟨rfl, rfl⟩ | ⟨rfl, rfl⟩ | ⟨rfl, rfl⟩ |
    ⟨rfl, rfl⟩ | ⟨rfl, rfl⟩ | ⟨rfl, rfl⟩ | ⟨rfl, rfl⟩
  · exact ⟨{
        above := [_, _, _], opening := "df = pd.read_csv(\"", below := [_]
        closing := "\", sep=\"" ++ (Config.value config "delimiter").textOr "," ++ "\")"
        closes := by simp, ends := getLast?_toList_append "\")" rfl }, "data.csv", by decide,
      fun other agrees => by
        simp only [sourceLines, Value.agrees_text, same other agrees,
          agrees "delimiter" (by decide), Place.lines, Place.statement, String.append_assoc]
        rfl⟩
  · exact ⟨{
        above := [_, _, _], opening := "df = pd.read_excel(\"", closing := "\")"
        below := [_] }, "data.xlsx", by decide,
      fun other agrees => by
        simp only [sourceLines, Value.agrees_text, same other agrees]
        rfl⟩
  · exact ⟨{
        above := [_, _, _], opening := "df = pd.read_json(\"", closing := "\")"
        below := [_] }, "data.json", by decide,
      fun other agrees => by
        simp only [sourceLines, Value.agrees_text, same other agrees]
        rfl⟩
  · exact ⟨{
        above := [_, _, _], opening := "df = pd.read_parquet(\"", closing := "\")"
        below := [_] }, "data.parquet", by decide,
      fun other agrees => by
        simp only [sourceLines, Value.agrees_text, same other agrees]
        rfl⟩
  · exact ⟨{
        above := [_, _, _, _], opening := "response = requests.get(\"", closing := "\")"
        below := [_, _, _] }, "https://api.example.com/data", by decide,
      fun other agrees => by
        simp only [sourceLines, Value.agrees_text, same other agrees]
        rfl⟩
  · exact ⟨{
        above := [_, _, _, _, _], opening := "response = requests.get(\"", closing := "\")"
        below := [_, _, _, _] }, "https://example.com", by decide,
      fun other agrees => by
        simp only [sourceLines, Value.agrees_text, same other agrees]
        rfl⟩
  · exact ⟨{
        above := [_, _, _, _], opening := "dataset = load_dataset(\"", closing := "\")"
        below := [_, _] }, "dataset_name", by decide,
      fun other agrees => by
        simp only [sourceLines, Value.agrees_text, same other agrees]
        rfl⟩
  · exact ⟨{
        above := [_, _, _], closing := "\")", below := [_]
        opening :=
          "df = pd.read_csv(\"" ++ (Config.value config "filePath").textOr "data.csv" ++
            "\", sep=\""
        opens := getLast?_toList_append "\", sep=\"" rfl }, ",", by decide,
      fun other agrees => by
        simp only [sourceLines, Value.agrees_text, same other agrees,
          agrees "filePath" (by decide)]
        rfl⟩
  · exact ⟨{
        above := [_, _, _, _], opening := "engine = create_engine(\"", closing := "\")"
        below := [_, _] }, "sqlite:///database.db", by decide,
      fun other agrees => by
        simp only [sourceLines, Value.agrees_text, same other agrees, agrees "query" (by decide)]
        rfl⟩
  · exact ⟨{
        above := [_, _, _, _, _], opening := "df = pd.read_sql_query(\""
        closing := "\", engine)", below := [_] }, "SELECT * FROM table_name", by decide,
      fun other agrees => by
        simp only [sourceLines, Value.agrees_text, same other agrees,
          agrees "connectionString" (by decide)]
        rfl⟩

theorem sampleRows?_congr {other : Config}
    (same : Config.value other "sampleSize" = Config.value config "sampleSize") :
    sampleRows? other = sampleRows? config := by
  unfold sampleRows? Config.number
  rw [same]

theorem template_of_rows {rows : Option Int} (sampled : sampleRows? config = .ok rows) :
    template config =
      .ok (code (sourceLines config ++ (sampleLines rows ++ targetLines config))) := by
  rw [template, sampled, ← List.append_assoc]
  rfl

theorem exists_rows {text : String} (rendered : template config = .ok text) :
    ∃ rows, sampleRows? config = .ok rows := by
  cases sampled : sampleRows? config with
  | error failure =>
      rw [template, sampled] at rendered
      cases rendered
  | ok rows => exact ⟨rows, rfl⟩

theorem exists_takes {rows : Option Int}
    (source : (Config.value config "sourceType").asText? = some name)
    (listed : (name, key) ∈ settings) (sampled : sampleRows? config = .ok rows) :
    ∃ place fallback, Takes place config key fallback := by
  obtain ⟨place, fallback, tight, written⟩ := exists_place source listed
  let below := place.below ++ (sampleLines rows ++ targetLines config)
  have precedes : below ≠ [] := List.append_ne_nil_of_left_ne_nil place.precedes _
  refine ⟨{ place with below := below, precedes := precedes }, fallback, tight,
    fun other agrees => ?_⟩
  have others := ne_of_mem_settings listed
  have sameRows := (sampleRows?_congr (agrees _ others.2.1)).trans sampled
  have sameTarget : targetLines other = targetLines config := by
    unfold targetLines
    rw [agrees _ others.2.2]
  rw [template_of_rows sameRows, sameTarget, written other agrees, Place.write, Place.lines,
    Place.lines, List.append_assoc]
  rfl

/-- A text field that is visible is the target column or a setting of the source. -/
theorem exists_source {field : Field} (member : field ∈ ingest.fields)
    (text : field.kind.isText = true) (visible : field.isVisible config = true) :
    field.key = "targetColumn" ∨
      ∃ name, (Config.value config "sourceType").asText? = some name ∧
        (name, field.key) ∈ settings := by
  simp only [ingest, fields, List.mem_cons, List.not_mem_nil, or_false] at member
  rcases member with rfl | rfl | rfl | rfl | rfl | rfl | rfl | rfl | rfl
  · cases text
  · obtain ⟨choice, listed, agrees⟩ := List.any_eq_true.mp visible
    obtain ⟨name, isPath, rfl⟩ := List.mem_map.mp listed
    exact .inr ⟨name, Value.agrees_text_iff.mp agrees,
      List.mem_append_left _ (List.mem_map.mpr ⟨name, isPath, rfl⟩)⟩
  · exact .inr ⟨"CSV", Value.agrees_text_iff.mp visible, by decide⟩
  · exact .inr ⟨"SQL", Value.agrees_text_iff.mp visible, by decide⟩
  · exact .inr ⟨"SQL", Value.agrees_text_iff.mp visible, by decide⟩
  · cases text
  · exact .inl rfl
  · cases text
  · cases text

/-! ## The target column -/

theorem lines_code_of_solid {front : List String} {first second : String} (follows : front ≠ [])
    (firstSolid : Line.IsSolid first.toList) (secondSolid : Line.IsSolid second.toList) :
    Text.lines (code (front ++ [first, second])).toList =
      closedLines (code front).toList ++ [first.toList, second.toList] := by
  have inhabited : second.toList ≠ [] := by
    intro empty
    obtain ⟨c, begins, _⟩ := secondSolid.starts
    rw [empty] at begins
    cases begins
  have alone : code [second] = second := rfl
  rw [toList_code_append follows (List.cons_ne_nil _ _), lines_append_lineFeed,
    toList_code_cons (List.cons_ne_nil _ _), lines_append_lineFeed,
    closedLines_of_unbroken firstSolid.unbroken, alone,
    lines_of_unbroken secondSolid.unbroken inhabited]
  rfl

/-- Code that ends in two lines without imports has the same shape with other such lines. -/
theorem sameShape_of_solid {front : List String} (follows : front ≠ [])
    {first second otherFirst otherSecond : String} (firstSolid : Line.IsSolid first.toList)
    (secondSolid : Line.IsSolid second.toList) (otherFirstSolid : Line.IsSolid otherFirst.toList)
    (otherSecondSolid : Line.IsSolid otherSecond.toList) :
    Block.SameShape (code (front ++ [first, second]))
      (code (front ++ [otherFirst, otherSecond])) where
  lines := by
    rw [lines_code_of_solid follows firstSolid secondSolid,
      lines_code_of_solid follows otherFirstSolid otherSecondSolid]
    simp
  imports := by
    simp [Block.ofText, Block.trimmedLines, Line.isImport_trimEnd,
      lines_code_of_solid follows firstSolid secondSolid,
      lines_code_of_solid follows otherFirstSolid otherSecondSolid, firstSolid.not_isImport,
      secondSolid.not_isImport, otherFirstSolid.not_isImport, otherSecondSolid.not_isImport]

/-- A line around the literal of a text has no break but for its own. -/
theorem isSolid_quoting {opening closing : String} (begins : Line.IsSolid opening.toList)
    (unbroken : Unbroken closing.toList) (text : String) :
    Line.IsSolid (opening ++ Quoted.quote text ++ closing).toList where
  unbroken := by
    intro c member
    simp only [String.toList_append, List.mem_append] at member
    rcases member with (member | member) | member
    · exact begins.unbroken c member
    · exact Quoted.unbroken_quote text c member
    · exact unbroken c member
  starts := by
    obtain ⟨c, first, solid⟩ := begins.starts
    refine ⟨c, ?_, solid⟩
    rw [String.toList_append, String.toList_append, List.head?_append, List.head?_append, first]
    rfl

/-- The line that takes the other columns, and the one that takes the column. -/
def featuresLine (column : String) : String :=
  "X = df.drop(columns=[" ++ Quoted.quote column ++ "])"

def targetLine (column : String) : String :=
  "y = df[" ++ Quoted.quote column ++ "]"

theorem targetLines_of_filled (filled : (Config.value config "targetColumn").entry ≠ "") :
    targetLines config = ["", "# Separate features and target"] ++
      [featuresLine (Config.value config "targetColumn").entry,
        targetLine (Config.value config "targetColumn").entry] := by
  rw [targetLines, Value.textOr_eq, if_neg filled]
  exact if_neg filled

theorem isSolid_featuresLine (column : String) : Line.IsSolid (featuresLine column).toList :=
  isSolid_quoting ⟨unbroken_iff_any.mpr (by decide), 'X', rfl, by decide⟩
    (unbroken_iff_any.mpr (by decide)) column

theorem isSolid_targetLine (column : String) : Line.IsSolid (targetLine column).toList :=
  isSolid_quoting ⟨unbroken_iff_any.mpr (by decide), 'y', rfl, by decide⟩
    (unbroken_iff_any.mpr (by decide)) column

/-- The shape of the code does not tell what the target column is. -/
theorem sameShape_template {other : Config} {text : String}
    (agrees : Config.AgreesOff "targetColumn" other config)
    (filled : (Config.value config "targetColumn").entry ≠ "")
    (refilled : (Config.value other "targetColumn").entry ≠ "")
    (rendered : template config = .ok text) :
    ∃ more, template other = .ok more ∧ Block.SameShape text more := by
  obtain ⟨rows, sampled⟩ := exists_rows rendered
  rw [template_of_rows sampled] at rendered
  obtain rfl := Except.ok.inj rendered
  have sameRows := (sampleRows?_congr (agrees "sampleSize" (by decide))).trans sampled
  have sameSource : sourceLines other = sourceLines config := by
    unfold sourceLines
    simp only [agrees "sourceType" (by decide), agrees "filePath" (by decide),
      agrees "delimiter" (by decide), agrees "connectionString" (by decide),
      agrees "query" (by decide)]
  refine ⟨_, template_of_rows sameRows, ?_⟩
  rw [sameSource, targetLines_of_filled filled, targetLines_of_filled refilled]
  simp only [← List.append_assoc]
  exact sameShape_of_solid (by simp) (isSolid_featuresLine _) (isSolid_targetLine _)
    (isSolid_featuresLine _) (isSolid_targetLine _)

end Kind.Ingest

namespace Kind

/-! ## One text for another -/

/-- Two codes differ in the text at a place.  They have equally many lines when the texts
have, and the same imports when the statements have. -/
structure Place.Exchanges (place : Place) (old new before after : String) : Prop where
  wrote : before = place.write old
  writes : after = place.write new
  lines : (Text.lines before.toList).length = (Text.lines after.toList).length ↔
    (Text.lines old.toList).length = (Text.lines new.toList).length
  imports : (Block.ofText before).imports = (Block.ofText after).imports ↔
    (Block.ofText (place.statement old)).imports = (Block.ofText (place.statement new)).imports
  unbroken : Unbroken (place.statement old).toList → Unbroken (place.statement new).toList →
    Block.SameShape before after

theorem Place.exchanges (place : Place) {old new : String} (oldTight : IsTight old)
    (newTight : IsTight new) :
    place.Exchanges old new (place.write old) (place.write new) where
  wrote := rfl
  writes := rfl
  lines := length_lines_write_eq_iff oldTight newTight
  imports := imports_write_eq_iff
  unbroken := by
    intro oldUnbroken newUnbroken
    have oldLines := lines_statement_of_unbroken oldUnbroken
    have newLines := lines_statement_of_unbroken newUnbroken
    constructor
    · simp only [lines_write, oldLines, newLines, List.length_append, List.length_singleton]
    · rw [imports_write_eq_iff, imports_statement_of_unbroken oldUnbroken,
        imports_statement_of_unbroken newUnbroken]

/-- Among the built-in kinds only the loading of data has fields that take any text. -/
theorem eq_ingest_of_isText {kind : Kind} {field : Field} (builtin : kind ∈ Catalog.builtinKinds)
    (member : field ∈ kind.fields) (text : field.kind.isText = true) : kind = ingest := by
  have only : ∀ kind ∈ Catalog.builtinKinds, ∀ field ∈ kind.fields,
      field.kind.isText = true → kind.typeName = ingest.typeName := by
    decide +kernel
  exact eq_of_typeName_eq builtin List.mem_cons_self (only kind builtin field member text)

end Kind

namespace Gate

def loadingFrom (path : String) : Config :=
  [("filePath", path)]

def pathField : Field :=
  Kind.Ingest.fields[1]

theorem pathField_visible (path : String) :
    pathField ∈ Kind.ingest.fields ∧ pathField.key = "filePath" ∧
      pathField.kind.isText = true ∧
      pathField.isVisible (Kind.ingest.effective (loadingFrom path)) = true :=
  ⟨List.mem_of_getElem? (i := 1) rfl, rfl, rfl, rfl⟩

end Gate

end StageGraph
