import StageGraph.Proofs.Text.Lines
import StageGraph.Text.Quoted

/-!
# A quoted text is one line

No character that ends a line is printable, and what stands for a character that is not
printable is spelled with letters and digits.  The literal of a text is therefore a single
line, whatever the text.
-/

namespace StageGraph.Text

/-- What ends a line is not shown as itself. -/
theorem not_isPrintable_of_isBreak {c : Char} (breaks : isBreak c = true) :
    isPrintable c = false := by
  have hidden : (0, 31) ∈ hiddenRanges ∧ (127, 160) ∈ hiddenRanges ∧
      (8232, 8239) ∈ hiddenRanges := by
    decide
  obtain ⟨controls, more, separators⟩ := hidden
  simp only [isBreak, breakRanges, CodeRanges.contains, List.any_cons, List.any_nil,
    Bool.or_eq_true, Bool.and_eq_true, decide_eq_true_eq, Bool.or_false] at breaks
  rw [isPrintable, Bool.not_eq_false', CodeRanges.contains, List.any_eq_true]
  simp only [Bool.and_eq_true, decide_eq_true_eq]
  rcases breaks with feeds | marks | next | separates
  · exact ⟨_, controls, by simp only; omega⟩
  · exact ⟨_, controls, by simp only; omega⟩
  · exact ⟨_, more, by simp only; omega⟩
  · exact ⟨_, separators, by simp only; omega⟩

namespace Quoted

theorem exists_of_mem_hexDigits {width number : Nat} {c : Char}
    (member : c ∈ hexDigits width number) : ∃ digit < 16, c = hexDigit digit := by
  induction width generalizing number with
  | zero => cases member
  | succ width induction =>
      rw [hexDigits, List.mem_append, List.mem_singleton] at member
      rcases member with member | rfl
      · exact induction member
      · exact ⟨_, Nat.mod_lt _ (by decide), rfl⟩

theorem unbroken_hexDigits (width number : Nat) : Unbroken (hexDigits width number) := by
  have digits : ∀ digit < 16, isBreak (hexDigit digit) = false := by decide
  intro c member
  obtain ⟨digit, small, rfl⟩ := exists_of_mem_hexDigits member
  exact digits digit small

theorem unbroken_escape {quote : Char} (inner : isBreak quote = false) (c : Char) :
    Unbroken (escape quote c) := by
  have letters (front : List Char) (plain : front.any isBreak = false) (width : Nat) :
      Unbroken (front ++ hexDigits width c.toNat) := by
    intro d member
    rcases List.mem_append.mp member with member | member
    · exact unbroken_iff_any.mpr plain d member
    · exact unbroken_hexDigits _ _ d member
  rw [escape]
  split
  · rename_i special
    simp only [Bool.or_eq_true, decide_eq_true_eq] at special
    rcases special with rfl | rfl
    · simp only [unbroken_iff_any, List.any_cons, inner]
      decide
    · exact unbroken_iff_any.mpr (by decide)
  split
  · exact unbroken_iff_any.mpr (by decide)
  split
  · exact unbroken_iff_any.mpr (by decide)
  split
  · exact unbroken_iff_any.mpr (by decide)
  split
  · rename_i printable
    intro d member
    obtain rfl := List.mem_singleton.mp member
    apply Bool.eq_false_iff.mpr
    intro breaks
    rw [not_isPrintable_of_isBreak breaks] at printable
    cases printable
  split
  · exact letters ['\\', 'x'] (by decide) 2
  split
  · exact letters ['\\', 'u'] (by decide) 4
  · exact letters ['\\', 'U'] (by decide) 8

theorem unbroken_quote (text : String) : Unbroken (quote text).toList := by
  have inner : isBreak (delimiter text.toList) = false := by
    rw [delimiter]
    split <;> decide
  rw [quote, String.toList_ofList, encode]
  intro c member
  simp only [List.mem_append, List.mem_cons, List.mem_flatMap, List.not_mem_nil,
    or_false] at member
  rcases member with (rfl | ⟨d, _, member⟩) | rfl
  · exact inner
  · exact unbroken_escape inner d c member
  · exact inner

end Quoted

end StageGraph.Text
