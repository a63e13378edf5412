import StageGraph.Block
import StageGraph.Proofs.Text.Lines

/-!
# What a block keeps of its text

The lines of a block are lines of its text without trailing blanks, so none of
them holds a break.  A line that is not blank is kept, among the imports or in
the body; the body has no imports, ends in a line that is not blank, and comes
back from its own text line by line.
-/

namespace StageGraph

open Text

namespace Line

/-- Trailing blanks do not matter for what a line imports. -/
theorem isImport_trimEnd (line : List Char) :
    isImport (trimEnd line) = isImport line := by
  simp only [isImport, trimEnd_trimEnd]

theorem not_isImport_of_blank {line : List Char} (blank : trimEnd line = []) :
    isImport line = false := by
  rw [← isImport_trimEnd, blank]
  decide

theorem afterKeyword_eq_none {word : String} {first c : Char} {letters rest : List Char}
    (spelled : word.toList = first :: letters) (different : c ≠ first) :
    afterKeyword word (c :: rest) = none := by
  simp [afterKeyword, afterWord, spelled, Ne.symm different]

/-- A line that does not begin as an import does is none. -/
theorem not_isImport_of_head {line : List Char} {c : Char} (first : line.head? = some c)
    (notImport : c ≠ 'i') (notFrom : c ≠ 'f') : isImport line = false := by
  obtain ⟨rest, rfl⟩ := List.head?_eq_some_iff.mp first
  unfold isImport
  obtain ⟨removed, split⟩ : trimEnd (c :: rest) <+: c :: rest :=
    List.rdropWhile_prefix isBlank _
  cases trimmed : trimEnd (c :: rest) with
  | nil => decide
  | cons head others =>
      rw [trimmed, List.cons_append] at split
      obtain rfl : head = c := (List.cons.inj split).1
      have notModule : importsModule (head :: others) = false := by
        have none : afterKeyword "import" (head :: others) = none :=
          afterKeyword_eq_none rfl notImport
        simp only [importsModule, none]
        rfl
      have notNames : importsNames (head :: others) = false := by
        have none : afterKeyword "from" (head :: others) = none :=
          afterKeyword_eq_none rfl notFrom
        simp only [importsNames, none]
        rfl
      exact Bool.or_eq_false_iff.mpr ⟨notModule, notNames⟩

/-- A comment is no import. -/
theorem not_isImport_of_comment {line : List Char} (comment : line.head? = some '#') :
    isImport line = false :=
  not_isImport_of_head comment (by decide) (by decide)

end Line

namespace Block

/-! ## Tidying -/

theorem tidyAfter_sublist (afterText : Bool) (lines : List (List Char)) :
    (tidyAfter afterText lines).Sublist lines := by
  induction lines generalizing afterText with
  | nil => simp [tidyAfter]
  | cons line rest induction =>
      unfold tidyAfter
      split
      · rename_i empty
        have lineEmpty : line = [] := List.isEmpty_iff.mp empty
        split
        · split
          · exact List.nil_sublist _
          · rename_i more tidied
            rw [lineEmpty]
            exact (induction false).cons_cons []
        · exact (induction false).cons line
      · exact (induction true).cons_cons line

/-- Only empty lines are dropped. -/
theorem mem_tidyAfter {afterText : Bool} {lines : List (List Char)} {line : List Char}
    (member : line ∈ lines) (inhabited : line ≠ []) :
    line ∈ tidyAfter afterText lines := by
  induction lines generalizing afterText with
  | nil => cases member
  | cons head rest induction =>
      unfold tidyAfter
      split
      · rename_i empty
        have inRest : line ∈ rest := by
          rcases List.mem_cons.mp member with rfl | inRest
          · exact (inhabited (List.isEmpty_iff.mp empty)).elim
          · exact inRest
        have kept : line ∈ tidyAfter false rest := induction inRest
        split
        · split
          · rename_i nothing
            rw [nothing] at kept
            cases kept
          · exact List.mem_cons_of_mem _ kept
        · exact kept
      · rcases List.mem_cons.mp member with rfl | inRest
        · exact List.mem_cons_self
        · exact List.mem_cons_of_mem _ (induction inRest)

/-- What is tidied does not end in an empty line. -/
theorem ne_nil_of_getLast?_tidyAfter {afterText : Bool} {lines : List (List Char)}
    {last : List Char} (ends : (tidyAfter afterText lines).getLast? = some last) :
    last ≠ [] := by
  induction lines generalizing afterText with
  | nil => cases ends
  | cons head rest induction =>
      unfold tidyAfter at ends
      split at ends
      · split at ends
        · split at ends
          · cases ends
          · rename_i more inhabited
            rw [List.getLast?_cons_of_ne_nil inhabited] at ends
            exact induction ends
        · exact induction ends
      · rename_i headInhabited
        cases more : tidyAfter true rest with
        | nil =>
            rw [more] at ends
            cases ends
            simpa using headInhabited
        | cons next others =>
            rw [more, List.getLast?_cons_cons, ← more] at ends
            exact induction ends

/-! ## The two parts of a text -/

theorem mem_trimmedLines {text : String} {line : List Char} :
    line ∈ trimmedLines text ↔ ∃ raw ∈ lines text.toList, trimEnd raw = line := by
  simp [trimmedLines]

theorem unbroken_of_mem_trimmedLines {text : String} {line : List Char}
    (member : line ∈ trimmedLines text) : Unbroken line := by
  obtain ⟨raw, rawMember, rfl⟩ := mem_trimmedLines.mp member
  exact (unbroken_of_mem_lines rawMember).trimEnd

theorem mem_of_mem_body {text : String} {line : List Char}
    (member : line ∈ (ofText text).body) :
    line ∈ trimmedLines text ∧ Line.isImport line = false := by
  have kept := (tidyAfter_sublist _ _).subset member
  simpa using List.mem_filter.mp kept

theorem mem_imports {text : String} {line : List Char} :
    line ∈ (ofText text).imports ↔
      line ∈ trimmedLines text ∧ Line.isImport line = true :=
  List.mem_filter

/-- A line that is not blank is an import or stands in the body. -/
theorem mem_imports_or_body {text : String} {line : List Char}
    (member : line ∈ trimmedLines text) (inhabited : line ≠ []) :
    line ∈ (ofText text).imports ∨ line ∈ (ofText text).body := by
  cases imported : Line.isImport line with
  | true => exact .inl (mem_imports.mpr ⟨member, imported⟩)
  | false =>
      right
      apply mem_tidyAfter _ inhabited
      simpa [member] using imported

theorem unbroken_of_mem_bodyTexts {text line : String}
    (member : line ∈ (ofText text).bodyTexts) : Unbroken line.toList := by
  obtain ⟨part, partMember, rfl⟩ := List.mem_map.mp member
  rw [String.toList_ofList]
  exact unbroken_of_mem_trimmedLines (mem_of_mem_body partMember).1

/-- The body comes back from its text. -/
theorem lines_bodyText (text : String) :
    lines (ofText text).bodyText.toList = (ofText text).body := by
  have lastInhabited : ∀ last ∈ (ofText text).bodyTexts.getLast?, last.toList ≠ [] := by
    intro last ends
    rw [bodyTexts, List.getLast?_map] at ends
    obtain ⟨part, partEnds, rfl⟩ := Option.map_eq_some_iff.mp ends
    rw [String.toList_ofList]
    exact ne_nil_of_getLast?_tidyAfter partEnds
  rw [bodyText, lines_join (fun _ => unbroken_of_mem_bodyTexts) lastInhabited]
  simp [bodyTexts]

/-- The body comes back from its text when that is closed. -/
theorem closedLines_bodyText {text : String} (inhabited : (ofText text).body ≠ []) :
    closedLines (ofText text).bodyText.toList = (ofText text).body := by
  have textsInhabited : (ofText text).bodyTexts ≠ [] := by
    simpa [bodyTexts] using inhabited
  rw [bodyText, closedLines_join textsInhabited fun _ => unbroken_of_mem_bodyTexts]
  simp [bodyTexts]

end Block

end StageGraph
