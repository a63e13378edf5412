import Mathlib.Data.List.DropRight
import StageGraph.Text.Blank

/-!
# What trimming leaves

Trimming leaves nothing, or a text that begins and ends with characters that are not
blank.
-/

namespace StageGraph.Text

/-- The text is not empty, and neither its first nor its last character is blank. -/
def IsTight (text : String) : Prop :=
  (∃ c, text.toList.head? = some c ∧ isBlank c = false) ∧
    ∃ c, text.toList.getLast? = some c ∧ isBlank c = false

theorem isTight_iff {text : String} :
    IsTight text ↔ text.toList.head?.map isBlank = some false ∧
      text.toList.getLast?.map isBlank = some false := by
  simp only [IsTight, Option.map_eq_some_iff]

instance (text : String) : Decidable (IsTight text) :=
  decidable_of_iff _ isTight_iff.symm

theorem isBlank_of_isBreak {c : Char} (breaks : isBreak c = true) : isBlank c = true := by
  simp only [isBreak, isBlank, breakRanges, blankRanges, CodeRanges.contains, List.any_cons,
    List.any_nil, Bool.or_eq_true, Bool.and_eq_true, decide_eq_true_eq, Bool.or_false] at *
  omega

theorem not_isBlank_of_head?_dropWhile {cs : List Char} {c : Char}
    (first : (cs.dropWhile isBlank).head? = some c) : isBlank c = false := by
  have notBlank := List.head?_dropWhile_not isBlank cs
  rw [first] at notBlank
  exact notBlank

theorem head?_trimEnd {cs : List Char} {c : Char} (first : (trimEnd cs).head? = some c) :
    cs.head? = some c := by
  obtain ⟨removed, whole⟩ : trimEnd cs <+: cs := List.rdropWhile_prefix isBlank cs
  rw [← whole, List.head?_append, first]
  rfl

/-- What trimming takes away from the end of a text is blank. -/
theorem exists_blanks (cs : List Char) :
    ∃ blanks : List Char, (∀ c ∈ blanks, isBlank c = true) ∧ trimEnd cs ++ blanks = cs := by
  refine ⟨(cs.reverse.takeWhile isBlank).reverse, fun c member => ?_, ?_⟩
  · exact List.mem_takeWhile_imp (List.mem_reverse.mp member)
  · rw [trimEnd, ← List.reverse_append, List.takeWhile_append_dropWhile, List.reverse_reverse]

theorem isTight_trimText {text : String} (inhabited : trimText text ≠ "") :
    IsTight (trimText text) := by
  have left : trim text.toList ≠ [] := by
    intro empty
    exact inhabited (by rw [trimText, empty])
  rw [IsTight, trimText, String.toList_ofList]
  constructor
  · obtain ⟨c, first⟩ := Option.ne_none_iff_exists'.mp (mt List.head?_eq_none_iff.mp left)
    exact ⟨c, first, not_isBlank_of_head?_dropWhile (head?_trimEnd first)⟩
  · obtain ⟨c, last⟩ := Option.ne_none_iff_exists'.mp (mt List.getLast?_eq_none_iff.mp left)
    refine ⟨c, last, ?_⟩
    rw [trim, trimEnd, List.getLast?_reverse] at last
    exact not_isBlank_of_head?_dropWhile last

/-- Trimming leaves a text as it is that has no blanks around it. -/
theorem trimText_of_isTight {text : String} (tight : IsTight text) : trimText text = text := by
  obtain ⟨⟨first, starts, firstSolid⟩, last, ends, lastSolid⟩ := tight
  obtain ⟨rest, split⟩ := List.head?_eq_some_iff.mp starts
  obtain ⟨front, whole⟩ := List.getLast?_eq_some_iff.mp ends
  have keptStart : trimStart text.toList = text.toList := by
    rw [trimStart, split, List.dropWhile_cons, firstSolid]
    rfl
  have keptEnd : trimEnd text.toList = text.toList := by
    rw [trimEnd, whole, List.reverse_append, List.reverse_singleton, List.singleton_append,
      List.dropWhile_cons, lastSolid]
    simp
  rw [trimText, trim, keptStart, keptEnd, String.ofList_toList]

end StageGraph.Text
