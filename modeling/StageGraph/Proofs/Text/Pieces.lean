import StageGraph.Proofs.Text.Lines

/-!
# Texts and their pieces

The pieces of a text between the occurrences of a character hold none of that
character, and joined by it they are the text again.  Texts without the character
come back as the pieces of their join.
-/

namespace StageGraph.Text

variable {separator : Char} {cs piece : List Char}

theorem splitAt_cons (separator c : Char) (rest : List Char) :
    splitAt separator (c :: rest) =
      if c = separator then [] :: splitAt separator rest
      else growFirst c (splitAt separator rest) :=
  rfl

theorem splitAt_ne_nil (separator : Char) (cs : List Char) :
    splitAt separator cs ≠ [] := by
  cases cs with
  | nil => simp [splitAt]
  | cons c rest =>
      rw [splitAt_cons]
      split
      · simp
      · exact growFirst_ne_nil c _

theorem not_mem_of_mem_splitAt (member : piece ∈ splitAt separator cs) :
    separator ∉ piece := by
  induction cs generalizing piece with
  | nil =>
      obtain rfl := List.mem_singleton.mp member
      exact List.not_mem_nil
  | cons c rest induction =>
      rw [splitAt_cons] at member
      split at member
      · rcases List.mem_cons.mp member with rfl | member
        · exact List.not_mem_nil
        · exact induction member
      · rename_i different
        obtain ⟨first, others, split⟩ :=
          List.exists_cons_of_ne_nil (splitAt_ne_nil separator rest)
        rw [split] at member induction
        rcases List.mem_cons.mp member with rfl | member
        · have firstFree := induction List.mem_cons_self
          simpa [Ne.symm different] using firstFree
        · exact induction (List.mem_cons_of_mem _ member)

theorem splitAt_eq_singleton (absent : separator ∉ cs) :
    splitAt separator cs = [cs] := by
  induction cs with
  | nil => rfl
  | cons c rest induction =>
      have different : c ≠ separator := by
        rintro rfl
        exact absent List.mem_cons_self
      have restAbsent : separator ∉ rest := fun member =>
        absent (List.mem_cons_of_mem _ member)
      rw [splitAt_cons, if_neg different, induction restAbsent]
      rfl

/-! ## Joining the pieces -/

theorem toList_join (separator : String) (texts : List String) :
    (join separator texts).toList =
      List.intercalate separator.toList (texts.map String.toList) := by
  induction texts with
  | nil => rfl
  | cons text rest induction =>
      cases rest with
      | nil => simp [join]
      | cons next rest =>
          rw [toList_join_cons_cons, induction]
          simp [List.intercalate]

theorem intercalate_growFirst (separator : List Char) (c : Char)
    {pieces : List (List Char)} (inhabited : pieces ≠ []) :
    List.intercalate separator (growFirst c pieces) =
      c :: List.intercalate separator pieces := by
  obtain ⟨first, others, rfl⟩ := List.exists_cons_of_ne_nil inhabited
  cases others with
  | nil => simp [growFirst]
  | cons next rest => simp [growFirst, List.intercalate]

theorem intercalate_splitAt (separator : Char) (cs : List Char) :
    List.intercalate [separator] (splitAt separator cs) = cs := by
  induction cs with
  | nil => rfl
  | cons c rest induction =>
      rw [splitAt_cons]
      split
      · rename_i same
        obtain ⟨first, others, split⟩ :=
          List.exists_cons_of_ne_nil (splitAt_ne_nil separator rest)
        rw [split] at induction ⊢
        rw [same, ← induction]
        simp [List.intercalate]
      · rw [intercalate_growFirst _ _ (splitAt_ne_nil separator rest), induction]

theorem splitAt_append_cons (absent : separator ∉ piece) (rest : List Char) :
    splitAt separator (piece ++ separator :: rest) = piece :: splitAt separator rest := by
  induction piece with
  | nil => rw [List.nil_append, splitAt_cons, if_pos rfl]
  | cons c piece induction =>
      have different : c ≠ separator := by
        rintro rfl
        exact absent List.mem_cons_self
      have restAbsent : separator ∉ piece := fun member =>
        absent (List.mem_cons_of_mem _ member)
      rw [List.cons_append, splitAt_cons, if_neg different, induction restAbsent]
      rfl

/-- Pieces without the separator come back from their join. -/
theorem splitAt_intercalate {pieces : List (List Char)} (inhabited : pieces ≠ [])
    (absent : ∀ piece ∈ pieces, separator ∉ piece) :
    splitAt separator (List.intercalate [separator] pieces) = pieces := by
  induction pieces with
  | nil => exact absurd rfl inhabited
  | cons piece pieces induction =>
      have first := absent piece List.mem_cons_self
      cases pieces with
      | nil => simpa [List.intercalate] using splitAt_eq_singleton first
      | cons next pieces =>
          have later := induction (List.cons_ne_nil _ _) fun other member =>
            absent other (List.mem_cons_of_mem _ member)
          have joined : List.intercalate [separator] (piece :: next :: pieces) =
              piece ++ separator :: List.intercalate [separator] (next :: pieces) := by
            simp [List.intercalate]
          rw [joined, splitAt_append_cons first, later]

theorem join_splitText (separator : Char) (text : String) :
    join (String.singleton separator) (splitText separator text) = text := by
  apply String.toList_inj.mp
  have pieces : (splitText separator text).map String.toList =
      splitAt separator text.toList := by
    simp [splitText]
  rw [toList_join, pieces, String.toList_singleton, intercalate_splitAt]

end StageGraph.Text
