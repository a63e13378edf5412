import StageGraph.Proofs.Script.Parts

/-!
# Imports stand above the banner

Divided into lines, a script is its imports, the banner, and then blank lines,
label comments and bodies.  Everything but the labels keeps to its place whatever
the templates give.  A label is written as it is, and one that holds a line break
goes on below its comment: `hoisted_ofFlow_iff` says that the lines it adds there
are all that can disturb the form of a script.
-/

namespace StageGraph.Script

open Text (Unbroken closedLines)

variable {catalog : Catalog} {flow : Flow} {labels : Bool}

/-- The lines of the whole text. -/
def lines (script : Script) : List (List Char) :=
  Text.lines script.source.toList

/-- The first line of the banner. -/
def bannerTop : List Char :=
  "# ML Pipeline Generated Code".toList

def bannerLines : List (List Char) :=
  [bannerTop, "# Generated from pipeline visualizer".toList]

/-- The lines from the banner on. -/
def fromBanner (script : Script) : List (List Char) :=
  script.lines.dropWhile (· ≠ bannerTop)

/-- A line that is blank, a comment, or a line of the body of some stage. -/
def Plain (catalog : Catalog) (flow : Flow) (line : List Char) : Prop :=
  Text.trimEnd line = [] ∨ line.head? = some '#' ∨
    ∃ stage ∈ flow.stages, ∃ body, bodyOf? catalog stage = some body ∧
      line ∈ Text.lines body.toList

/-- The form of a script: its imports above the banner, and plain lines from there
on. -/
structure Hoisted (catalog : Catalog) (flow : Flow) (script : Script) : Prop where
  importsOnce : script.imports.Nodup
  /-- The imports among the lines are those of the script, in their order. -/
  imports : script.lines.filter Line.isImport = script.imports.map String.toList
  banner : bannerLines <+: script.fromBanner
  noneBelow : ∀ line ∈ script.fromBanner, Line.isImport line = false
  plain : ∀ line ∈ script.fromBanner, Plain catalog flow line

/-- What a label adds below its comment. -/
def labelRest (catalog : Catalog) (stage : Stage) : List (List Char) :=
  (Text.lines (labelLine (catalog.labelOf stage).display).toList).tail

/-- The labels of the stages with bodies add only plain lines to their comments. -/
def LabelsPlain (catalog : Catalog) (flow : Flow) : Prop :=
  ∀ stage ∈ flow.stages, ∀ body, bodyOf? catalog stage = some body →
    ∀ line ∈ labelRest catalog stage, Plain catalog flow line

/-! ## Plain lines -/

theorem Plain.of_comment {rest : List Char} : Plain catalog flow ('#' :: rest) :=
  .inr (.inl rfl)

theorem Plain.not_isImport {line : List Char} (plain : Plain catalog flow line) :
    Line.isImport line = false := by
  rcases plain with blank | comment | ⟨stage, _, body, brings, member⟩
  · exact Line.not_isImport_of_blank blank
  · exact Line.not_isImport_of_comment comment
  · exact not_isImport_of_mem_body brings member

/-! ## The lines of the parts -/

/-- The first line of a label comment is a comment, and nothing else needs to
be. -/
theorem lines_labelLine (label : String) : ∃ first,
    Text.lines (labelLine label).toList =
      ('#' :: first) :: (Text.lines (labelLine label).toList).tail := by
  have split : (labelLine label).toList =
      '#' :: (" ── ".toList ++ label.toList ++ " ──".toList) := by
    simp [labelLine]
  rw [split, Text.lines_cons_of_not_isBreak (by decide)]
  cases Text.lines (" ── ".toList ++ label.toList ++ " ──".toList) with
  | nil => exact ⟨[], rfl⟩
  | cons first others => exact ⟨first, rfl⟩

theorem closedLines_labelLine (label : String) :
    closedLines (labelLine label).toList = Text.lines (labelLine label).toList := by
  have split : (labelLine label).toList =
      ("# ── ".toList ++ label.toList ++ " ─".toList) ++ ['─'] := by
    simp [labelLine]
  rw [split, Text.closedLines_concat (by decide)]

theorem closedLines_banner : closedLines banner.toList = bannerLines := by
  decide

/-- The lines of a section: those of the label, where labels are wanted, and the
body. -/
theorem closedLines_sectionText {stage : Stage} {text : String}
    (inhabited : (Block.ofText text).body ≠ []) :
    closedLines (sectionText catalog labels (stage, Block.ofText text)).toList =
      (if labels then Text.lines (labelLine (catalog.labelOf stage).display).toList
        else []) ++ (Block.ofText text).body := by
  unfold sectionText
  cases labels with
  | false => simpa using Block.closedLines_bodyText inhabited
  | true =>
      have lineFeed : "\n".toList = ['\n'] := rfl
      simp only [if_true, String.toList_append, lineFeed, List.append_assoc,
        List.singleton_append]
      rw [Text.closedLines_append_lineFeed, closedLines_labelLine,
        Block.closedLines_bodyText inhabited]

/-- The lines above the banner. -/
def headLines (imports : List String) : List (List Char) :=
  if imports.isEmpty then [] else imports.map String.toList ++ [[]]

theorem lines_assemble {imports : List String}
    (unbroken : ∀ line ∈ imports, Unbroken line.toList) (sections : List String) :
    Text.lines (assemble imports sections).toList =
      headLines imports ++ bannerLines ++
        sections.flatMap fun text => [] :: closedLines text.toList := by
  have closed (text : String) : Text.lines (text ++ "\n").toList =
      closedLines text.toList := by
    simp [closedLines]
  unfold assemble headLines
  rw [closed]
  by_cases empty : imports = []
  · simp [empty, Text.closedLines_join_blankLine, closedLines_banner]
  · have notEmpty : imports.isEmpty = false := by simpa using empty
    simp only [notEmpty, Bool.false_eq_true, if_false, List.singleton_append,
      Text.closedLines_join_blankLine, Text.closedLines_join empty unbroken,
      List.flatMap_cons, closedLines_banner]
    simp

/-! ## The lines of a script -/

/-- The lines below the banner. -/
def below (catalog : Catalog) (flow : Flow) (labels : Bool) : List (List Char) :=
  (bodied (blocks catalog flow)).flatMap fun entry =>
    [] :: closedLines (sectionText catalog labels entry).toList

theorem lines_ofFlow (inhabited : flow.stages ≠ []) :
    (ofFlow catalog flow labels).lines =
      headLines (ofFlow catalog flow labels).imports ++
        (bannerLines ++ below catalog flow labels) := by
  have notEmpty : flow.stages.isEmpty = false := by simpa using inhabited
  have unbroken : ∀ line ∈ importsOf (blocks catalog flow), Unbroken line.toList := by
    intro line member
    rw [importsOf_blocks, mem_distinct] at member
    obtain ⟨stage, _, brought⟩ := List.mem_flatMap.mp member
    exact (of_mem_importsIn brought).2
  simp only [lines, ofFlow, notEmpty, Bool.false_eq_true, if_false,
    lines_assemble unbroken, List.flatMap_map, below, List.append_assoc]

theorem isImport_of_mem_imports {line : String}
    (member : line ∈ (ofFlow catalog flow labels).imports) :
    Line.isImport line.toList = true := by
  rw [imports_ofFlow, mem_distinct] at member
  obtain ⟨stage, _, brought⟩ := List.mem_flatMap.mp member
  exact (of_mem_importsIn brought).1

theorem fromBanner_ofFlow (inhabited : flow.stages ≠ []) :
    (ofFlow catalog flow labels).fromBanner =
      bannerLines ++ below catalog flow labels := by
  unfold fromBanner
  rw [lines_ofFlow inhabited, List.dropWhile_append_of_pos]
  · rfl
  · intro line member
    have different : line ≠ bannerTop := by
      rintro rfl
      unfold headLines at member
      split at member
      · cases member
      · rcases List.mem_append.mp member with imported | blank
        · obtain ⟨text, textMember, same⟩ := List.mem_map.mp imported
          have isImport := isImport_of_mem_imports textMember
          rw [same, Line.not_isImport_of_comment rfl] at isImport
          cases isImport
        · cases List.mem_singleton.mp blank
    simpa using different

/-- Below the banner stand blank lines, the lines of labels, where labels are
wanted, and those of bodies. -/
theorem mem_below {line : List Char} : line ∈ below catalog flow labels ↔
    ∃ stage ∈ flow.stages, ∃ body, bodyOf? catalog stage = some body ∧
      (line = [] ∨
        labels = true ∧
          line ∈ Text.lines (labelLine (catalog.labelOf stage).display).toList ∨
        line ∈ Text.lines body.toList) := by
  constructor
  · intro member
    obtain ⟨⟨stage, block⟩, entryMember, lineMember⟩ := List.mem_flatMap.mp member
    obtain ⟨stageMember, found, inhabited⟩ := mem_bodied_blocks.mp entryMember
    have brings := bodyOf?_eq_some_iff.mpr ⟨block, found, inhabited, rfl⟩
    obtain ⟨kind, text, _, _, rfl⟩ := block?_eq_some_iff.mp found
    refine ⟨stage, stageMember, _, brings, ?_⟩
    rw [closedLines_sectionText inhabited] at lineMember
    rw [Block.lines_bodyText]
    cases labels <;> simpa using lineMember
  · rintro ⟨stage, stageMember, body, brings, place⟩
    obtain ⟨block, found, inhabited, rfl⟩ := bodyOf?_eq_some_iff.mp brings
    have entryMember := mem_bodied_blocks.mpr ⟨stageMember, found, inhabited⟩
    obtain ⟨kind, text, _, _, rfl⟩ := block?_eq_some_iff.mp found
    refine List.mem_flatMap.mpr ⟨_, entryMember, ?_⟩
    rw [closedLines_sectionText inhabited]
    rw [Block.lines_bodyText] at place
    cases labels <;> simpa using place

/-- The lines below the banner are plain exactly when labels add none that is
not. -/
theorem plain_below_iff : (∀ line ∈ below catalog flow labels, Plain catalog flow line) ↔
    (labels = true → LabelsPlain catalog flow) := by
  constructor
  · intro plain wanted stage stageMember body brings line member
    obtain ⟨first, split⟩ := lines_labelLine (catalog.labelOf stage).display
    apply plain line
    refine mem_below.mpr ⟨stage, stageMember, body, brings, .inr (.inl ⟨wanted, ?_⟩)⟩
    rw [split]
    exact List.mem_cons_of_mem _ member
  · intro labelsPlain line member
    obtain ⟨stage, stageMember, body, brings, place⟩ := mem_below.mp member
    rcases place with rfl | ⟨wanted, labelled⟩ | inBody
    · exact .inl rfl
    · obtain ⟨first, split⟩ := lines_labelLine (catalog.labelOf stage).display
      rw [split] at labelled
      rcases List.mem_cons.mp labelled with rfl | rest
      · exact Plain.of_comment
      · exact labelsPlain wanted stage stageMember body brings line rest
    · exact .inr (.inr ⟨stage, stageMember, body, brings, inBody⟩)

theorem filter_headLines {imports : List String}
    (imported : ∀ line ∈ imports, Line.isImport line.toList = true) :
    (headLines imports).filter Line.isImport = imports.map String.toList := by
  have all : (imports.map String.toList).filter Line.isImport =
      imports.map String.toList := by
    apply List.filter_eq_self.mpr
    intro line member
    obtain ⟨text, textMember, rfl⟩ := List.mem_map.mp member
    exact imported text textMember
  have blank : [[]].filter Line.isImport = [] := by decide
  unfold headLines
  split
  · rename_i empty
    simp [List.isEmpty_iff.mp empty]
  · rw [List.filter_append, all, blank, List.append_nil]

/-- A script has its form exactly when no label adds a line that is not plain. -/
theorem hoisted_ofFlow_iff (inhabited : flow.stages ≠ []) :
    Hoisted catalog flow (ofFlow catalog flow labels) ↔
      (labels = true → LabelsPlain catalog flow) := by
  rw [← plain_below_iff]
  constructor
  · intro hoisted line member
    apply hoisted.plain line
    rw [fromBanner_ofFlow inhabited]
    exact List.mem_append_right _ member
  · intro plain
    have fromPlain : ∀ line ∈ bannerLines ++ below catalog flow labels,
        Plain catalog flow line := by
      intro line member
      rcases List.mem_append.mp member with ofBanner | lower
      · simp only [bannerLines, List.mem_cons, List.not_mem_nil, or_false] at ofBanner
        rcases ofBanner with rfl | rfl
        · exact Plain.of_comment
        · exact Plain.of_comment
      · exact plain line lower
    constructor
    · rw [imports_ofFlow]
      exact nodup_distinct _
    · have noneBelow : (bannerLines ++ below catalog flow labels).filter
          Line.isImport = [] := by
        apply List.filter_eq_nil_iff.mpr
        intro line member
        simp [(fromPlain line member).not_isImport]
      rw [lines_ofFlow inhabited, List.filter_append, noneBelow, List.append_nil]
      exact filter_headLines fun _ => isImport_of_mem_imports
    · rw [fromBanner_ofFlow inhabited]
      exact List.prefix_append _ _
    · intro line member
      rw [fromBanner_ofFlow inhabited] at member
      exact (fromPlain line member).not_isImport
    · intro line member
      rw [fromBanner_ofFlow inhabited] at member
      exact fromPlain line member

/-! ## Labels of one line -/

theorem unbroken_labelLine {label : String} (unbroken : Unbroken label.toList) :
    Unbroken (labelLine label).toList := by
  have before : ("# ── ".toList.any Text.isBreak) = false := by decide
  have after : (" ──".toList.any Text.isBreak) = false := by decide
  intro c member
  apply Bool.eq_false_iff.mpr
  simp only [labelLine, String.toList_append, List.mem_append] at member
  rcases member with (opening | inner) | closing
  · exact List.any_eq_false.mp before c opening
  · simp [unbroken c inner]
  · exact List.any_eq_false.mp after c closing

theorem labelRest_eq_nil {stage : Stage}
    (unbroken : Unbroken (catalog.labelOf stage).display.toList) :
    labelRest catalog stage = [] := by
  have whole := unbroken_labelLine unbroken
  rw [labelRest, Text.lines_of_unbroken whole (by simp [labelLine])]
  rfl

/-- Labels of one line each leave every script its form. -/
theorem hoisted_of_unbroken (inhabited : flow.stages ≠ [])
    (unbroken : ∀ stage ∈ flow.stages,
      Unbroken (catalog.labelOf stage).display.toList) :
    Hoisted catalog flow (ofFlow catalog flow labels) := by
  apply (hoisted_ofFlow_iff inhabited).mpr
  intro _ stage member body _ line rest
  rw [labelRest_eq_nil (unbroken stage member)] at rest
  cases rest

/-! ## Scripts that are made -/

/-- A stage whose label goes on with an import on a second line. -/
def brokenLabel : Stage :=
  { id := "a"
    type := TypeName.modelSelection
    configuration := [("label", .text "x\nimport os")] }

end StageGraph.Script
