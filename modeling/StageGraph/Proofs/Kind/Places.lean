import StageGraph.Kind.Basic
import StageGraph.Proofs.Block
import StageGraph.Proofs.Text.Trimming

/-!
# The places of texts in the code

The settings of a source stand between the quotes of a statement: trimmed, and otherwise as
they are.  The statement is closed on both sides by line ends, and the quotes keep what the
text begins and ends with apart from the rest of the statement.  So the lines of the code
are those above, those of the statement and those below, and of the text it matters only
how many lines it has and which lines of the statement read as imports.
-/

namespace StageGraph

open Text

namespace Value

variable {value : Value} {fallback content : String}

/-- The text that is written for a value: nothing for null and for blanks. -/
def entry (value : Value) : String :=
  value.textOr ""

theorem entry_of_ne_null (given : value ≠ .null) : value.entry = trimText value.display := by
  have same (text : String) : (if text = "" then "" else text) = text := by
    split
    · rename_i empty
      exact empty.symm
    · rfl
  cases value with
  | null => exact (given rfl).elim
  | _ => simp only [entry, textOr, same]

theorem entry_text (content : String) : (Value.text content).entry = trimText content :=
  entry_of_ne_null (by simp)

theorem textOr_eq (value : Value) (fallback : String) :
    value.textOr fallback = if value.entry = "" then fallback else value.entry := by
  have choice (text : String) : (if text = "" then fallback else text) =
      if (if text = "" then "" else text) = "" then fallback
      else if text = "" then "" else text := by
    by_cases empty : text = "" <;> simp [empty]
  exact choice _

theorem isTight_entry (filled : value.entry ≠ "") : IsTight value.entry := by
  have given : value ≠ .null := by
    rintro rfl
    exact filled rfl
  rw [entry_of_ne_null given] at filled ⊢
  exact isTight_trimText filled

theorem isTight_textOr (tight : IsTight fallback) : IsTight (value.textOr fallback) := by
  rw [textOr_eq]
  split
  · exact tight
  · rename_i filled
    exact isTight_entry filled

/-- A text is written as it is when there are no blanks around it, and only then. -/
theorem textOr_text_eq_iff (tight : IsTight fallback) :
    (Value.text content).textOr fallback = content ↔ IsTight content := by
  constructor
  · intro same
    exact same ▸ isTight_textOr tight
  · intro contentTight
    have kept := trimText_of_isTight contentTight
    have inhabited : content ≠ "" := by
      rintro rfl
      exact absurd contentTight (by decide)
    rw [textOr_eq, entry_text, kept, if_neg inhabited]

end Value

namespace Kind

/-! ## Statements that hold a text -/

theorem getLast?_toList_append {front : String} {c : Char} (back : String)
    (last : back.toList.getLast? = some c) : (front ++ back).toList.getLast? = some c := by
  rw [String.toList_append, List.getLast?_append, last]
  rfl

/-- A statement within the lines of code that holds a text between quotes.  It ends with a
parenthesis, and it does not begin as imports do. -/
structure Place where
  above : List String
  /-- What stands before the text. -/
  opening : String
  /-- What stands behind the text. -/
  closing : String
  below : List String
  follows : above ≠ [] := by simp
  precedes : below ≠ [] := by simp
  begins : ∃ c, opening.toList.head? = some c ∧ c ≠ 'i' ∧ c ≠ 'f' := by simp
  opens : opening.toList.getLast? = some '\x22' := by rfl
  closes : closing.toList.head? = some '\x22' := by rfl
  ends : closing.toList.getLast? = some ')' := by rfl

namespace Place

variable {place : Place} {left right content : String}

/-- The statement with a text. -/
def statement (place : Place) (content : String) : String :=
  place.opening ++ content ++ place.closing

/-- The lines of code with a text in the statement. -/
def lines (place : Place) (content : String) : List String :=
  place.above ++ place.statement content :: place.below

/-- The code with a text in the statement. -/
def write (place : Place) (content : String) : String :=
  code (place.lines content)

end Place

theorem toList_code_cons {line : String} {lines : List String} (inhabited : lines ≠ []) :
    (code (line :: lines)).toList = line.toList ++ '\n' :: (code lines).toList := by
  obtain ⟨next, rest, rfl⟩ := List.exists_cons_of_ne_nil inhabited
  rw [code, toList_join_cons_cons, List.append_assoc]
  rfl

theorem toList_code_append {above below : List String} (follows : above ≠ [])
    (precedes : below ≠ []) :
    (code (above ++ below)).toList = (code above).toList ++ '\n' :: (code below).toList := by
  induction above with
  | nil => exact (follows rfl).elim
  | cons line rest induction =>
      by_cases alone : rest = []
      · rw [alone, List.singleton_append, toList_code_cons precedes]
        rfl
      · have inhabited : rest ++ below ≠ [] := by simp [alone]
        rw [List.cons_append, toList_code_cons inhabited, induction alone, toList_code_cons alone]
        simp

theorem code_append {above below : List String} (follows : above ≠ []) (precedes : below ≠ []) :
    code (above ++ below) = code above ++ ("\n" ++ code below) := by
  apply String.toList_inj.mp
  rw [toList_code_append follows precedes, String.toList_append, String.toList_append]
  rfl

namespace Place

variable {place : Place} {left right content : String}

theorem toList_write (place : Place) (content : String) :
    (place.write content).toList =
      (code place.above).toList ++ '\n' :: ((place.statement content).toList ++
        '\n' :: (code place.below).toList) := by
  rw [write, lines, toList_code_append place.follows (List.cons_ne_nil _ _),
    toList_code_cons place.precedes]

theorem write_eq_iff : place.write left = place.write right ↔ left = right := by
  refine ⟨fun same => ?_, congrArg place.write⟩
  have texts := congrArg String.toList same
  rw [toList_write, toList_write] at texts
  have statements := List.append_cancel_right (List.cons.inj (List.append_cancel_left texts)).2
  simp only [statement, String.toList_append] at statements
  exact String.toList_inj.mp (List.append_cancel_left (List.append_cancel_right statements))

theorem getLast?_statement (place : Place) (content : String) :
    (place.statement content).toList.getLast? = some ')' :=
  getLast?_toList_append place.closing place.ends

theorem head?_statement (place : Place) (content : String) :
    (place.statement content).toList.head? = place.opening.toList.head? := by
  obtain ⟨c, first, _⟩ := place.begins
  rw [statement, String.toList_append, String.toList_append, List.head?_append, List.head?_append,
    first]
  rfl

theorem closedLines_statement (place : Place) (content : String) :
    closedLines (place.statement content).toList = Text.lines (place.statement content).toList := by
  obtain ⟨front, whole⟩ := List.getLast?_eq_some_iff.mp (place.getLast?_statement content)
  rw [whole, closedLines_concat (by decide)]

theorem lines_write (place : Place) (content : String) :
    Text.lines (place.write content).toList =
      closedLines (code place.above).toList ++ (Text.lines (place.statement content).toList ++
        Text.lines (code place.below).toList) := by
  rw [toList_write, lines_append_lineFeed, lines_append_lineFeed, closedLines_statement]

/-- The quotes keep the lines of a text apart from what stands around it. -/
theorem length_lines_statement (place : Place) (tight : IsTight content) :
    (Text.lines (place.statement content).toList).length + 2 =
      (closedLines place.opening.toList).length + (Text.lines content.toList).length +
        (closedLines place.closing.toList).length := by
  obtain ⟨_, c, last, solid⟩ := tight
  -- A text that ends in no blank ends in no half of a line end either.
  have inner : isBreak c = false := by
    apply Bool.eq_false_iff.mpr
    intro breaks
    rw [isBlank_of_isBreak breaks] at solid
    cases solid
  obtain ⟨front, whole⟩ := List.getLast?_eq_some_iff.mp last
  have contentClosed : closedLines content.toList = Text.lines content.toList := by
    rw [whole, closedLines_concat inner]
  have before := length_closedLines_append place.opens (by decide)
    (content.toList ++ place.closing.toList)
  have behind := length_closedLines_append last inner place.closing.toList
  rw [← closedLines_statement, statement, String.toList_append, String.toList_append,
    List.append_assoc]
  rw [contentClosed] at behind
  omega

theorem length_lines_write_eq_iff (leftTight : IsTight left) (rightTight : IsTight right) :
    (Text.lines (place.write left).toList).length =
        (Text.lines (place.write right).toList).length ↔
      (Text.lines left.toList).length = (Text.lines right.toList).length := by
  have leftLines := place.length_lines_statement leftTight
  have rightLines := place.length_lines_statement rightTight
  simp only [lines_write, List.length_append]
  omega

theorem imports_write (place : Place) (content : String) :
    (Block.ofText (place.write content)).imports =
      ((closedLines (code place.above).toList).map trimEnd).filter Line.isImport ++
        ((Block.ofText (place.statement content)).imports ++
          (Block.ofText (code place.below)).imports) := by
  simp only [Block.ofText, Block.trimmedLines, lines_write, List.map_append, List.filter_append]

theorem imports_write_eq_iff :
    (Block.ofText (place.write left)).imports = (Block.ofText (place.write right)).imports ↔
      (Block.ofText (place.statement left)).imports =
        (Block.ofText (place.statement right)).imports := by
  rw [imports_write, imports_write, List.append_cancel_left_eq, List.append_cancel_right_eq]

theorem lines_statement_of_unbroken (unbroken : Unbroken (place.statement content).toList) :
    Text.lines (place.statement content).toList = [(place.statement content).toList] := by
  rw [← closedLines_statement, closedLines_of_unbroken unbroken]

/-- A statement of one line is no import. -/
theorem imports_statement_of_unbroken (unbroken : Unbroken (place.statement content).toList) :
    (Block.ofText (place.statement content)).imports = [] := by
  obtain ⟨c, first, notImport, notFrom⟩ := place.begins
  rw [← head?_statement place content] at first
  have none := Line.not_isImport_of_head first notImport notFrom
  simp [Block.ofText, Block.trimmedLines, lines_statement_of_unbroken unbroken,
    Line.isImport_trimEnd, none]

end Place

end Kind

end StageGraph
