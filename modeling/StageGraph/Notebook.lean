import StageGraph.Script
import StageGraph.Time.Text

/-!
# Notebooks

The code of a flow as a notebook: a title cell, a cell with all imports, and for
every stage with a body a heading and a code cell.
-/

namespace StageGraph

/-- A cell of a notebook, with the lines of its text. -/
inductive Cell where
  | prose (source : List String)
  | code (source : List String)
  deriving DecidableEq, Repr

namespace Cell

/-- The lines of a text, each but the last with its line feed. -/
def sourceLines (text : String) : List String :=
  terminated (Text.splitText '\n' text)
where
  terminated : List String → List String
    | [] => []
    | [last] => [last]
    | line :: rest => (line ++ "\n") :: terminated rest

def ofProse (text : String) : Cell :=
  .prose (sourceLines text)

def ofCode (text : String) : Cell :=
  .code (sourceLines text)

/-- The lines of a cell. -/
def source : Cell → List String
  | .prose lines => lines
  | .code lines => lines

private def sourceValue (lines : List String) : Value :=
  .list (lines.map .text)

/-- A cell as a record. -/
def toValue : Cell → Value
  | .prose lines =>
    .record [
      ("cell_type", .text "markdown"), ("metadata", .record []), ("source", sourceValue lines)]
  | .code lines =>
    .record [
      ("cell_type", .text "code"), ("execution_count", .null), ("metadata", .record []),
      ("outputs", .list []), ("source", sourceValue lines)]

end Cell

/-- The cells of a notebook. -/
structure Notebook where
  cells : List Cell
  deriving DecidableEq, Repr

namespace Notebook

/-- The name of a project that was given none. -/
def defaultName : String :=
  "ML Pipeline"

private def orDefault (name : Option String) : String :=
  match name with
  | some name => if name = "" then defaultName else name
  | none => defaultName

/-- Runs of blanks as single underscores. -/
def underscored : List Char → List Char
  | [] => []
  | c :: rest =>
    if Text.isBlank c then
      match rest with
      | next :: _ => if Text.isBlank next then underscored rest else '_' :: underscored rest
      | [] => ['_']
    else
      c :: underscored rest

/-- The name of the file for a project's notebook. -/
def filename (name : Option String) : String :=
  let stem := Text.lower (String.ofList (underscored (Text.trim (orDefault name).toList)))
  (if stem = "" then "pipeline" else stem) ++ ".ipynb"

/-- The cell at the head of a notebook. -/
def titleCell (name : Option String) (time : Civil) : Cell :=
  Cell.ofProse ("# " ++ orDefault name ++ "\n\n" ++
    "This notebook was generated from the ML Pipeline Visualizer.\n\n" ++
    "Generated on: " ++ time.headingText)

/-- The cell with the import lines. -/
def importsCell (imports : List String) : Cell :=
  Cell.ofCode (Text.join "\n" ("# Import required libraries" :: imports))

/-- The heading of the stage with this number. -/
def headingCell (catalog : Catalog) (number : Nat) (stage : Stage) : Cell :=
  let category := catalog.categoryOf stage
  Cell.ofProse ("## " ++ toString number ++ ". " ++ (catalog.labelOf stage).display ++ "\n\n" ++
    "Category: " ++ (if category = "" then "unknown" else category))

/-- The cells of the stages that have a body, numbered from `number` on. -/
def stageCells (catalog : Catalog) (bodies : Ledger String) (number : Nat) :
    List Stage → List Cell
  | [] => []
  | stage :: rest =>
    match Ledger.get? bodies stage.id with
    | some body =>
      headingCell catalog number stage :: Cell.ofCode body ::
        stageCells catalog bodies (number + 1) rest
    | none => stageCells catalog bodies number rest

/-- The notebook of a flow. -/
def ofFlow (catalog : Catalog) (flow : Flow) (name : Option String) (time : Civil) : Notebook :=
  let script := Script.ofFlow catalog flow
  { cells := titleCell name time :: importsCell script.imports ::
      stageCells catalog script.bodies 1 flow.order }

/-- The notebook of a flow, unless something stands in its way. -/
def make (catalog : Catalog) (flow : Flow) (name : Option String) (time : Civil) :
    Except Obstacle Notebook :=
  Obstacle.pass (Script.obstacle? catalog flow) (ofFlow catalog flow name time)

/-- What the cells are written for. -/
def metadata : Value :=
  .record [
    ("kernelspec", .record [
      ("display_name", .text "Python 3"), ("language", .text "python"),
      ("name", .text "python3")]),
    ("language_info", .record [
      ("codemirror_mode", .record [("name", .text "ipython"), ("version", .int 3)]),
      ("file_extension", .text ".py"), ("mimetype", .text "text/x-python"),
      ("name", .text "python"), ("nbconvert_exporter", .text "python"),
      ("pygments_lexer", .text "ipython3")])]

/-- A notebook as a document. -/
def toValue (notebook : Notebook) : Value :=
  .record [
    ("cells", .list (notebook.cells.map Cell.toValue)), ("metadata", metadata),
    ("nbformat", .int 4), ("nbformat_minor", .int 4)]

end Notebook

end StageGraph
