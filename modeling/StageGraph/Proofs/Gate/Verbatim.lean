import StageGraph.Proofs.Gate.Shape

/-!
# Settings that are written as they are given

A setting of a source is written without the blanks around it, and where nothing is left of
it a fallback is written instead.  So it stands unchanged in the code exactly when it begins
and ends with characters that are not blank.  A tab that is given for the delimiter is none
of those, and a comma is written for it.
-/

namespace StageGraph

open Text

/-- A quote tells where a text ends: if the text that is written for another one and a quote
are the beginning of the other one and a quote, nothing was trimmed. -/
theorem Value.isTight_of_quoted {content fallback : String} {rest more : List Char}
    (tight : IsTight fallback) (inhabited : content ≠ "")
    (same : ((Value.text content).textOr fallback).toList ++ '\x22' :: rest =
      content.toList ++ '\x22' :: more) :
    IsTight content := by
  have written : IsTight ((Value.text content).textOr fallback) := isTight_textOr tight
  obtain ⟨⟨c, first, solid⟩, -⟩ := written
  obtain ⟨head, tail, split⟩ :=
    List.exists_cons_of_ne_nil (mt String.toList_eq_nil_iff.mp inhabited)
  -- The texts begin alike, so there are no blanks before the other one.
  have begins := congrArg List.head? same
  rw [List.head?_append, first, split] at begins
  obtain rfl : c = head := Option.some.inj begins
  have keptStart : trimStart content.toList = content.toList := by
    rw [trimStart, split, List.dropWhile_cons, solid]
    rfl
  have trimmed : (trimText content).toList = trimEnd content.toList := by
    rw [trimText, String.toList_ofList, trim, keptStart]
  obtain ⟨blanks, allBlank, whole⟩ := exists_blanks content.toList
  have filled : trimText content ≠ "" := by
    intro empty
    rw [empty] at trimmed
    have member : c ∈ blanks := by
      rw [← trimmed, split] at whole
      have all : blanks = c :: tail := whole
      rw [all]
      exact List.mem_cons_self
    rw [allBlank c member] at solid
    cases solid
  -- What was trimmed at the end would begin with the quote.
  rw [textOr_eq, entry_text, if_neg filled, trimmed] at same
  have behind : trimEnd content.toList ++ '\x22' :: rest =
      trimEnd content.toList ++ (blanks ++ '\x22' :: more) := by
    rw [← List.append_assoc, whole]
    exact same
  cases blanks with
  | nil =>
      rw [List.append_nil, ← trimmed] at whole
      exact String.toList_inj.mp whole ▸ isTight_trimText filled
  | cons blank others =>
      obtain rfl : '\x22' = blank := (List.cons.inj (List.append_cancel_left behind)).1
      exact absurd (allBlank _ List.mem_cons_self) (by decide)

namespace Kind.Ingest

variable {config : Config} {key name content : String}

/-- A text stands unchanged in the place that the code has for a setting. -/
def Verbatim (config : Config) (key content : String) : Prop :=
  ∃ place fallback, Takes place config key fallback ∧ template config = .ok (place.write content)

theorem not_isUnbounded {text : String} (rendered : template config = .ok text) :
    ¬ IsUnbounded config := by
  intro unbounded
  obtain ⟨rows, sampled⟩ := exists_rows rendered
  rw [sampleRows?_of_isUnbounded unbounded] at sampled
  cases sampled

theorem verbatim_iff (source : (Config.value config "sourceType").asText? = some name)
    (listed : (name, key) ∈ settings) (held : Config.value config key = .text content) :
    Verbatim config key content ↔ IsTight content ∧ ¬ IsUnbounded config := by
  constructor
  · rintro ⟨place, fallback, takes, written⟩
    have rendered := takes.writes config fun _ _ => rfl
    rw [held, written] at rendered
    have same := Place.write_eq_iff.mp (Except.ok.inj rendered)
    exact ⟨(Value.textOr_text_eq_iff takes.tight).mp same.symm, not_isUnbounded written⟩
  · rintro ⟨tight, bounded⟩
    obtain ⟨rows, sampled⟩ := exists_sampleRows bounded
    obtain ⟨place, fallback, takes⟩ := exists_takes source listed sampled
    refine ⟨place, fallback, takes, ?_⟩
    rw [takes.writes config fun _ _ => rfl, held,
      (Value.textOr_text_eq_iff takes.tight).mpr tight]

/-- How the code begins that loads a table from a path with a delimiter. -/
def tableLines (path delimiter : String) : List String := [
  "import pandas as pd", "", "# Load data from CSV",
  "df = pd.read_csv(\"" ++ path ++ "\", sep=\"" ++ delimiter ++ "\")"]

theorem exists_template_of_table {rows : Option Int}
    (source : (Config.value config "sourceType").asText? = some "CSV")
    (sampled : sampleRows? config = .ok rows) :
    ∃ below, template config =
      .ok (code (tableLines ((Config.value config "filePath").textOr "data.csv")
        ((Config.value config "delimiter").textOr ",")) ++ below) := by
  obtain ⟨last, lines⟩ : ∃ last, sourceLines config =
      tableLines ((Config.value config "filePath").textOr "data.csv")
        ((Config.value config "delimiter").textOr ",") ++ [last] :=
    ⟨_, by
      simp only [sourceLines, Value.agrees_text, source]
      rfl⟩
  refine ⟨"\n" ++ code (last :: (sampleLines rows ++ targetLines config)), ?_⟩
  rw [template_of_rows sampled, lines, List.append_assoc]
  exact congrArg Except.ok (code_append (List.cons_ne_nil _ _) (List.cons_ne_nil _ _))

theorem toList_code_tableLines (path delimiter : String) :
    (code (tableLines path delimiter)).toList =
      (code ["import pandas as pd", "", "# Load data from CSV", "df = pd.read_csv(\""]).toList ++
        (path.toList ++ '\x22' :: (", sep=\"".toList ++
          (delimiter.toList ++ '\x22' :: ")".toList))) := by
  simp only [tableLines, code, join, String.toList_append, List.append_assoc]
  rfl

theorem exists_template_of_table_iff {path delimiter : String}
    (source : (Config.value config "sourceType").asText? = some "CSV")
    (pathHeld : Config.value config "filePath" = .text path) (pathGiven : path ≠ "")
    (delimiterHeld : Config.value config "delimiter" = .text delimiter)
    (delimiterGiven : delimiter ≠ "") :
    (∃ below, template config = .ok (code (tableLines path delimiter) ++ below)) ↔
      IsTight path ∧ IsTight delimiter ∧ ¬ IsUnbounded config := by
  have pathFallback : IsTight "data.csv" := by decide
  have delimiterFallback : IsTight "," := by decide
  constructor
  · rintro ⟨below, written⟩
    obtain ⟨rows, sampled⟩ := exists_rows written
    obtain ⟨behind, rendered⟩ := exists_template_of_table source sampled
    rw [written, pathHeld, delimiterHeld] at rendered
    have same := congrArg String.toList (Except.ok.inj rendered).symm
    simp only [String.toList_append, toList_code_tableLines, List.append_assoc,
      List.append_cancel_left_eq, List.cons_append] at same
    have pathTight := Value.isTight_of_quoted pathFallback pathGiven same
    rw [(Value.textOr_text_eq_iff pathFallback).mpr pathTight] at same
    have rest := List.append_cancel_left (List.cons.inj (List.append_cancel_left same)).2
    exact ⟨pathTight, Value.isTight_of_quoted delimiterFallback delimiterGiven rest,
      not_isUnbounded written⟩
  · rintro ⟨pathTight, delimiterTight, bounded⟩
    obtain ⟨rows, sampled⟩ := exists_sampleRows bounded
    obtain ⟨below, rendered⟩ := exists_template_of_table source sampled
    rw [pathHeld, delimiterHeld, (Value.textOr_text_eq_iff pathFallback).mpr pathTight,
      (Value.textOr_text_eq_iff delimiterFallback).mpr delimiterTight] at rendered
    exact ⟨below, rendered⟩

/-- A table that is loaded with a delimiter. -/
def delimitedBy (delimiter : String) : Config :=
  [("filePath", "train.csv"), ("delimiter", .text delimiter)]

def delimiterField : Field :=
  fields[2]

theorem delimiterField_visible (delimiter : String) :
    delimiterField ∈ ingest.fields ∧ delimiterField.kind.isText = true ∧
      delimiterField.isVisible (ingest.effective (delimitedBy delimiter)) = true :=
  ⟨List.mem_of_getElem? (i := 2) rfl, rfl, rfl⟩

theorem delimitedBy_bounded (delimiter : String) :
    ¬ IsUnbounded (ingest.effective (delimitedBy delimiter)) := by
  intro unbounded
  cases unbounded

end Kind.Ingest

end StageGraph
