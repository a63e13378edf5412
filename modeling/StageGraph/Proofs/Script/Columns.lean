import StageGraph.Proofs.Gate.Rendering
import StageGraph.Proofs.Gate.Shape
import StageGraph.Proofs.Script.Composition
import StageGraph.Proofs.Script.Hoisting
import StageGraph.Proofs.Text.Literal

/-!
# The columns that a script names

A column is configured as any text and stands in the script as its literal.  The literal is one
line and is read as the text, so the statements that name columns are whole lines of the
script, and a reader of these lines finds the columns.  The target column is trimmed before it
is written; the columns to drop are written as they are.
-/

namespace StageGraph.Script

open Text (Literal.list? Literal.readList? Literal.readText? Literal.text? Unbroken trimEnd)

variable {catalog : Catalog} {flow : Flow} {labels : Bool}

/-! ## Statements that name columns -/

/-- The columns of a list that a word precedes and a closing parenthesis ends. -/
def listed? (opening : String) (line : List Char) : Option (List (List Char)) :=
  match (Line.afterWord opening line).bind Literal.readList? with
  | some (columns, [')']) => some columns
  | _ => none

/-- The column in the brackets that a word opens. -/
def subscript? (opening : String) (line : List Char) : Option (List Char) :=
  match (Line.afterWord opening line).bind Literal.readText? with
  | some (column, [']']) => some column
  | _ => none

/-- The columns without which the features are taken. -/
def features? (line : List Char) : Option (List (List Char)) :=
  listed? "X = df.drop(columns=" line

/-- The column that is taken as the target. -/
def target? (line : List Char) : Option (List Char) :=
  subscript? "y = df[" line

/-- The columns that are dropped from the data. -/
def dropped? (line : List Char) : Option (List (List Char)) :=
  listed? "df = df.drop(columns=" line

/-- Some line of the script takes the column as the target, and some line takes the features
without it. -/
structure NamesTarget (script : Script) (column : String) : Prop where
  features : [column.toList] ∈ script.lines.filterMap features?
  target : column.toList ∈ script.lines.filterMap target?

/-- Some line of the script drops the columns from the data. -/
def Drops (script : Script) (columns : List String) : Prop :=
  columns.map String.toList ∈ script.lines.filterMap dropped?

theorem afterWord_append (word : String) (rest : List Char) :
    Line.afterWord word (word.toList ++ rest) = some rest := by
  simp [Line.afterWord]

theorem listed?_literal (opening : String) (columns : List String) :
    listed? opening (opening ++ (Value.list (columns.map .text)).literal ++ ")").toList =
      some (columns.map String.toList) := by
  have closing : ")".toList = [')'] := rfl
  have read := Text.Literal.readList?_spelled (columns.map String.toList) [')']
  rw [String.toList_append, String.toList_append, closing, Value.toList_literal_texts,
    List.append_assoc, List.cons_append, List.append_assoc, List.singleton_append]
  simp only [listed?, afterWord_append, Option.bind_some, read]

theorem subscript?_quote (opening column : String) :
    subscript? opening (opening ++ Text.Quoted.quote column ++ "]").toList =
      some column.toList := by
  have closing : "]".toList = [']'] := rfl
  have read := Text.Literal.readText?_encode column.toList [']']
  rw [String.toList_append, String.toList_append, closing, Text.Quoted.quote,
    String.toList_ofList, List.append_assoc]
  simp only [subscript?, afterWord_append, Option.bind_some, read]

theorem features?_featuresLine (column : String) :
    features? (Kind.Ingest.featuresLine column).toList = some [column.toList] := by
  have opening : "X = df.drop(columns=[" = "X = df.drop(columns=" ++ "[" := by decide
  have closing : "])" = "]" ++ ")" := by decide
  have single : "[" ++ Text.Quoted.quote column ++ "]" =
      (Value.list ([column].map .text)).literal := rfl
  have line : Kind.Ingest.featuresLine column =
      "X = df.drop(columns=" ++ (Value.list ([column].map .text)).literal ++ ")" := by
    rw [← single]
    unfold Kind.Ingest.featuresLine
    rw [opening, closing]
    simp only [String.append_assoc]
  rw [line]
  exact listed?_literal _ [column]

theorem target?_targetLine (column : String) :
    target? (Kind.Ingest.targetLine column).toList = some column.toList :=
  subscript?_quote "y = df[" column

/-! ## Lines of a template -/

theorem trimEnd_concat {c : Char} (solid : Text.isBlank c = false) (front : List Char) :
    trimEnd (front ++ [c]) = front ++ [c] :=
  List.rdropWhile_concat_neg _ _ _ (by simp [solid])

/-- A line of a template that begins as a statement and ends without blanks is a line of every
script with the stage. -/
theorem mem_lines_of_template {kind : Kind} {stage : Stage} {written : List String}
    {line : String} (member : stage ∈ flow.stages)
    (found : catalog.lookup stage.type = some kind)
    (rendered : kind.render stage.configuration = .ok (Kind.code written))
    (among : line ∈ written) (solid : Line.IsSolid line.toList)
    (tight : trimEnd line.toList = line.toList) :
    line.toList ∈ (ofFlow catalog flow labels).lines := by
  have visible := solid.trimEnd_ne_nil
  have raw : line.toList ∈ Text.lines (Kind.code written).toList :=
    Text.mem_lines_join among solid.unbroken (tight ▸ visible)
  have kept := @keeps_ofFlow catalog flow labels _ _ _ member found rendered _ raw visible
  rw [tight] at kept
  rcases kept with imported | ⟨body, brings, inBody⟩
  · have isImport := isImport_of_mem_imports imported
    rw [String.toList_ofList, solid.not_isImport] at isImport
    cases isImport
  · have lower : line.toList ∈ below catalog flow labels :=
      mem_below.mpr ⟨stage, member, body, brings, .inr (.inr inBody)⟩
    rw [lines_ofFlow (List.ne_nil_of_mem member)]
    exact List.mem_append_right _ (List.mem_append_right _ lower)

/-! ## The stages that name columns -/

/-- The line that drops columns. -/
def dropLine (columns : List String) : String :=
  "df = df.drop(columns=" ++ (Value.list (columns.map .text)).literal ++ ")"

theorem isSolid_dropLine (columns : List String) :
    Line.IsSolid (dropLine columns).toList where
  unbroken := by
    have opening : Unbroken "df = df.drop(columns=".toList :=
      Text.unbroken_iff_any.mpr (by decide)
    have closing : Unbroken ")".toList := Text.unbroken_iff_any.mpr (by decide)
    unfold dropLine
    rw [String.toList_append, String.toList_append]
    exact (opening.append (Value.unbroken_literal_texts columns)).append closing
  starts := by
    have first : "df = df.drop(columns=".toList.head? = some 'd' := rfl
    refine ⟨'d', ?_, by decide⟩
    unfold dropLine
    rw [String.toList_append, String.toList_append, List.append_assoc, List.head?_append,
      first]
    rfl

theorem dropped?_dropLine (columns : List String) :
    dropped? (dropLine columns).toList = some (columns.map String.toList) :=
  listed?_literal "df = df.drop(columns=" columns

theorem trimEnd_between {opening content closing : String} {c : Char}
    (solid : Text.isBlank c = false) (front : List Char)
    (ends : closing.toList = front ++ [c]) :
    trimEnd (opening ++ content ++ closing).toList = (opening ++ content ++ closing).toList := by
  rw [String.toList_append, ends, ← List.append_assoc]
  exact trimEnd_concat solid _

/-- The target column that a configuration asks for, trimmed. -/
def targetOf (config : Config) : String :=
  (Config.value (Kind.ingest.effective config) "targetColumn").entry

/-- A configuration asks for the columns to be dropped. -/
def AsksToDrop (config : Config) (columns : List String) : Prop :=
  Config.value (Kind.preprocess.effective config) "dropColumns" = .list (columns.map .text)

theorem namesTarget_ofFlow {stage : Stage} (member : stage ∈ flow.stages)
    (found : catalog.lookup stage.type = some Kind.ingest)
    (renders : Kind.ingest.Renders stage.configuration)
    (filled : targetOf stage.configuration ≠ "") :
    (ofFlow catalog flow labels).NamesTarget (targetOf stage.configuration) := by
  obtain ⟨text, rendered⟩ := renders
  rw [Kind.render_ingest] at rendered
  obtain ⟨rows, sampled⟩ := Kind.Ingest.exists_rows rendered
  have written := Kind.Ingest.template_of_rows sampled
  rw [Kind.Ingest.targetLines_of_filled filled, ← Kind.render_ingest] at written
  have kept {line : String} (solid : Line.IsSolid line.toList)
      (tight : trimEnd line.toList = line.toList)
      (among : line ∈ [Kind.Ingest.featuresLine (targetOf stage.configuration),
        Kind.Ingest.targetLine (targetOf stage.configuration)]) :
      line.toList ∈ (ofFlow catalog flow labels).lines := by
    refine mem_lines_of_template member found written ?_ solid tight
    exact List.mem_append_right _ (List.mem_append_right _ (List.mem_append_right _ among))
  constructor
  · refine List.mem_filterMap.mpr ⟨_, ?_, features?_featuresLine _⟩
    apply kept (Kind.Ingest.isSolid_featuresLine _) (trimEnd_between (by decide) [']'] rfl)
    exact List.mem_cons_self
  · refine List.mem_filterMap.mpr ⟨_, ?_, target?_targetLine _⟩
    apply kept (Kind.Ingest.isSolid_targetLine _) (trimEnd_between (by decide) [] rfl)
    exact List.mem_cons_of_mem _ List.mem_cons_self

theorem drops_ofFlow {stage : Stage} (member : stage ∈ flow.stages)
    (found : catalog.lookup stage.type = some Kind.preprocess) {columns : List String}
    (asks : AsksToDrop stage.configuration columns) (filled : columns ≠ []) :
    (ofFlow catalog flow labels).Drops columns := by
  have truthy : (Value.list (columns.map .text)).truthy = true := by
    simpa [Value.truthy] using filled
  have written : dropLine columns ∈
      Kind.Preprocess.dropLines (Kind.preprocess.effective stage.configuration) := by
    unfold Kind.Preprocess.dropLines
    rw [asks, if_pos truthy]
    exact List.mem_cons_of_mem _ List.mem_cons_self
  have builtin : Kind.preprocess ∈ Catalog.builtinKinds :=
    List.mem_cons_of_mem _ List.mem_cons_self
  have rendered := Kind.render_builtin builtin stage.configuration
  apply List.mem_filterMap.mpr
  refine ⟨_, mem_lines_of_template member found rendered ?_ (isSolid_dropLine _) ?_,
    dropped?_dropLine _⟩
  · simp [written]
  · exact trimEnd_between (by decide) [] rfl

/-! ## Every script -/

/-- A script names the columns that the stages of a flow ask for. -/
structure NamesColumns (flow : Flow) (script : Script) : Prop where
  /-- A stage that loads data and can be rendered has its target column named, if any. -/
  target : ∀ stage ∈ flow.stages, Catalog.builtin.lookup stage.type = some Kind.ingest →
    Kind.ingest.Renders stage.configuration → targetOf stage.configuration ≠ "" →
    script.NamesTarget (targetOf stage.configuration)
  dropped : ∀ stage ∈ flow.stages, Catalog.builtin.lookup stage.type = some Kind.preprocess →
    ∀ columns, AsksToDrop stage.configuration columns → columns ≠ [] → script.Drops columns

theorem namesColumns_ofFlow (flow : Flow) (labels : Bool) :
    NamesColumns flow (ofFlow Catalog.builtin flow labels) where
  target := fun _ member found renders filled => namesTarget_ofFlow member found renders filled
  dropped := fun _ member found _ asks filled => drops_ofFlow member found asks filled

/-- Data that are loaded with a target column of blanks and quotes, and lose columns with
line ends and backslashes. -/
def quotedColumns : Flow :=
  { stages := [
      { id := "load"
        type := TypeName.ingest
        configuration := [("targetColumn", .text " it's \"x\" ")] },
      { id := "clean"
        type := TypeName.preprocess
        configuration := [("dropColumns", .list [.text "a\nb", .text "\\'", .text " c "])] }]
    links := [Link.make "" "load" "clean"] }

theorem head?_of_target? {line column : List Char} (named : target? line = some column) :
    line.head? = some 'y' := by
  unfold target? subscript? Line.afterWord at named
  split at named
  · rename_i read
    split at read
    · rename_i opened
      obtain ⟨rest, rfl⟩ := List.isPrefixOf_iff_prefix.mp opened
      rfl
    · cases read
  · cases named

/-- With labels of one line each, a target column is named only in the body of a stage. -/
theorem exists_body_of_target {column : List Char}
    (unbroken : ∀ stage ∈ flow.stages, Unbroken (catalog.labelOf stage).display.toList)
    (named : column ∈ (ofFlow catalog flow labels).lines.filterMap target?)
    (inhabited : flow.stages ≠ []) :
    ∃ stage ∈ flow.stages, ∃ body, bodyOf? catalog stage = some body ∧
      ∃ line ∈ Text.lines body.toList, target? line = some column := by
  obtain ⟨line, member, named⟩ := List.mem_filterMap.mp named
  have begins := head?_of_target? named
  rw [lines_ofFlow inhabited, ← fromBanner_ofFlow inhabited] at member
  rcases List.mem_append.mp member with above | lower
  · have notImport := Line.not_isImport_of_head begins (by decide) (by decide)
    unfold headLines at above
    split at above
    · cases above
    · rcases List.mem_append.mp above with imported | blank
      · obtain ⟨text, textMember, rfl⟩ := List.mem_map.mp imported
        rw [isImport_of_mem_imports textMember] at notImport
        cases notImport
      · obtain rfl := List.mem_singleton.mp blank
        cases begins
  · have hoisted := @hoisted_of_unbroken catalog flow labels inhabited unbroken
    rcases hoisted.plain line lower with blank | comment | ⟨stage, among, body, brings, inBody⟩
    · obtain ⟨rest, rfl⟩ := List.head?_eq_some_iff.mp begins
      have allBlank := List.rdropWhile_eq_nil_iff.mp blank 'y' List.mem_cons_self
      cases allBlank
    · rw [begins] at comment
      cases comment
    · exact ⟨stage, among, body, brings, line, inBody, named⟩

/-- Code of unbroken lines has no other lines in its body. -/
theorem exists_of_mem_body {kind : Kind} {stage : Stage} {written : List String} {body : String}
    {line : List Char} (found : catalog.lookup stage.type = some kind)
    (rendered : kind.render stage.configuration = .ok (Kind.code written))
    (unbroken : ∀ text ∈ written, Unbroken text.toList)
    (lastInhabited : ∀ text ∈ written.getLast?, text.toList ≠ [])
    (brings : bodyOf? catalog stage = some body) (member : line ∈ Text.lines body.toList) :
    ∃ text ∈ written, trimEnd text.toList = line := by
  obtain ⟨block, blockFound, _, rfl⟩ := bodyOf?_eq_some_iff.mp brings
  obtain ⟨other, text, known, given, rfl⟩ := block?_eq_some_iff.mp blockFound
  obtain rfl := Option.some.inj (found.symm.trans known)
  obtain rfl := Except.ok.inj (rendered.symm.trans given)
  rw [Block.lines_bodyText] at member
  obtain ⟨raw, rawMember, rfl⟩ := Block.mem_trimmedLines.mp (Block.mem_of_mem_body member).1
  have split : Text.lines (Kind.code written).toList = written.map String.toList :=
    Text.lines_join unbroken lastInhabited
  rw [split] at rawMember
  obtain ⟨text, textMember, rfl⟩ := List.mem_map.mp rawMember
  exact ⟨text, textMember, rfl⟩

/-- Data that are loaded with a target column between blanks. -/
def spacedTarget : Stage :=
  { id := "load"
    type := TypeName.ingest
    configuration := [("targetColumn", .text " price ")] }

end StageGraph.Script
