import Mathlib.Algebra.GroupWithZero.Nat
import Mathlib.Data.List.DropRight
import StageGraph.Text.Blank

/-!
# Texts and their lines

A text that is closed by a line feed falls into lines that do not depend on what
follows.  `closedLines` therefore turns joined texts into joined lists of lines,
and lines that hold no break of their own come back from a join unchanged.
-/

namespace StageGraph.Text

/-! ## Blanks and breaks -/

/-- No character of the text ends a line. -/
def Unbroken (cs : List Char) : Prop :=
  ∀ c ∈ cs, isBreak c = false

theorem unbroken_iff_any {cs : List Char} : Unbroken cs ↔ cs.any isBreak = false := by
  simp [Unbroken]

theorem trimEnd_trimEnd (cs : List Char) : trimEnd (trimEnd cs) = trimEnd cs :=
  List.rdropWhile_idempotent isBlank cs

theorem mem_of_mem_trimEnd {c : Char} {cs : List Char} (member : c ∈ trimEnd cs) :
    c ∈ cs :=
  (List.rdropWhile_prefix isBlank cs).subset member

theorem Unbroken.trimEnd {cs : List Char} (unbroken : Unbroken cs) :
    Unbroken (trimEnd cs) :=
  fun c member => unbroken c (mem_of_mem_trimEnd member)

theorem Unbroken.append {front back : List Char} (first : Unbroken front)
    (second : Unbroken back) : Unbroken (front ++ back) :=
  fun c member => (List.mem_append.mp member).elim (first c) (second c)

/-! ## One character at a time -/

/-- Put a character before the first line. -/
def growFirst (c : Char) : List (List Char) → List (List Char)
  | [] => [[c]]
  | line :: others => (c :: line) :: others

theorem growFirst_append {c : Char} {front : List (List Char)} (inhabited : front ≠ [])
    (back : List (List Char)) :
    growFirst c (front ++ back) = growFirst c front ++ back := by
  cases front with
  | nil => exact (inhabited rfl).elim
  | cons line others => rfl

/-- A character ends a line of its own or belongs to the first line, unless it
is the first half of a line end of two characters. -/
theorem lines_cons {c : Char} {rest : List Char}
    (single : c = '\r' → rest.head? ≠ some '\n') :
    lines (c :: rest) =
      if isBreak c then [] :: lines rest else growFirst c (lines rest) := by
  have notPair : ∀ more, c = '\r' → rest = '\n' :: more → False := by
    rintro more return_ rfl
    exact single return_ rfl
  rw [lines.eq_3 c rest notPair]
  rfl

theorem lines_cons_of_isBreak {c : Char} {rest : List Char}
    (breaks : isBreak c = true) (single : c = '\r' → rest.head? ≠ some '\n') :
    lines (c :: rest) = [] :: lines rest := by
  rw [lines_cons single, if_pos breaks]

theorem lines_cons_of_not_isBreak {c : Char} (inner : isBreak c = false)
    (rest : List Char) : lines (c :: rest) = growFirst c (lines rest) := by
  have notReturn : c ≠ '\r' := by
    rintro rfl
    cases inner
  rw [lines_cons (fun same => (notReturn same).elim), inner]
  rfl

@[simp] theorem lines_lineFeed (rest : List Char) :
    lines ('\n' :: rest) = [] :: lines rest :=
  rfl

@[simp] theorem lines_pair (rest : List Char) :
    lines ('\r' :: '\n' :: rest) = [] :: lines rest := by
  rw [lines]

/-- Induction along the lines of a text. -/
theorem lines_induction {motive : List Char → Prop} (nil : motive [])
    (pair : ∀ rest, motive rest → motive ('\r' :: '\n' :: rest))
    (ending : ∀ c rest, isBreak c = true → (c = '\r' → rest.head? ≠ some '\n') →
      motive rest → motive (c :: rest))
    (inner : ∀ c rest, isBreak c = false → motive rest → motive (c :: rest))
    (cs : List Char) : motive cs := by
  induction cs using lines.induct with
  | case1 => exact nil
  | case2 rest induction => exact pair rest induction
  | case3 c rest notPair breaks induction =>
      apply ending c rest breaks _ induction
      intro return_ lineFeed
      obtain ⟨more, rfl⟩ := List.head?_eq_some_iff.mp lineFeed
      exact notPair more return_ rfl
  | case4 c rest _ unbreaking _ induction =>
      exact inner c rest (Bool.eq_false_iff.mpr unbreaking) induction
  | case5 c rest _ unbreaking _ _ _ induction =>
      exact inner c rest (Bool.eq_false_iff.mpr unbreaking) induction

theorem unbroken_of_mem_lines {cs line : List Char} (member : line ∈ lines cs) :
    Unbroken line := by
  induction cs using lines_induction generalizing line with
  | nil => cases member
  | pair rest induction =>
      rw [lines_pair] at member
      rcases List.mem_cons.mp member with rfl | member
      · simp [Unbroken]
      · exact induction member
  | ending c rest breaks single induction =>
      rw [lines_cons_of_isBreak breaks single] at member
      rcases List.mem_cons.mp member with rfl | member
      · simp [Unbroken]
      · exact induction member
  | inner c rest inner induction =>
      rw [lines_cons_of_not_isBreak inner] at member
      cases below : lines rest with
      | nil =>
          rw [below] at member
          obtain rfl := List.mem_singleton.mp member
          simpa [Unbroken] using inner
      | cons first others =>
          rw [below] at member induction
          rcases List.mem_cons.mp member with rfl | member
          · have firstUnbroken := induction List.mem_cons_self
            simpa [Unbroken, inner] using firstUnbroken
          · exact induction (List.mem_cons_of_mem _ member)

/-! ## Closed texts -/

/-- The lines of a text that a line feed closes. -/
def closedLines (cs : List Char) : List (List Char) :=
  lines (cs ++ ['\n'])

theorem growFirst_ne_nil (c : Char) (front : List (List Char)) :
    growFirst c front ≠ [] := by
  cases front <;> simp [growFirst]

theorem lines_ne_nil {cs : List Char} (inhabited : cs ≠ []) : lines cs ≠ [] := by
  induction cs using lines_induction with
  | nil => exact (inhabited rfl).elim
  | pair rest _ => simp
  | ending c rest breaks single _ => simp [lines_cons_of_isBreak breaks single]
  | inner c rest inner _ =>
      rw [lines_cons_of_not_isBreak inner]
      exact growFirst_ne_nil c _

theorem closedLines_ne_nil (cs : List Char) : closedLines cs ≠ [] :=
  lines_ne_nil (by simp)

/-- What follows a closed text has lines of its own. -/
theorem lines_append_lineFeed (cs rest : List Char) :
    lines (cs ++ '\n' :: rest) = closedLines cs ++ lines rest := by
  unfold closedLines
  induction cs using lines_induction with
  | nil => rfl
  | pair more induction => simp [induction]
  | ending c more breaks single induction =>
      cases more with
      | nil =>
          -- A carriage return at the end is one with the line feed that closes it.
          by_cases return_ : c = '\r'
          · subst return_
            simp [lines]
          · simp [lines_cons_of_isBreak breaks fun same => (return_ same).elim]
            rfl
      | cons second later =>
          have stillSingle (following : List Char) :
              c = '\r' → (second :: later ++ following).head? ≠ some '\n' :=
            single
          simp only [List.cons_append] at induction stillSingle ⊢
          rw [lines_cons_of_isBreak breaks (stillSingle _),
            lines_cons_of_isBreak breaks (stillSingle _), induction]
          rfl
  | inner c more inner induction =>
      simp only [List.cons_append, lines_cons_of_not_isBreak inner, induction]
      exact growFirst_append (closedLines_ne_nil more) _

theorem closedLines_append_lineFeed (front back : List Char) :
    closedLines (front ++ '\n' :: back) = closedLines front ++ closedLines back := by
  have split := lines_append_lineFeed front (back ++ ['\n'])
  simpa [closedLines] using split

/-- A text without breaks is one line. -/
theorem closedLines_of_unbroken {line : List Char} (unbroken : Unbroken line) :
    closedLines line = [line] := by
  unfold closedLines
  induction line with
  | nil => rfl
  | cons c rest induction =>
      have inner : isBreak c = false := unbroken c List.mem_cons_self
      have restUnbroken : Unbroken rest := fun d member =>
        unbroken d (List.mem_cons_of_mem _ member)
      rw [List.cons_append, lines_cons_of_not_isBreak inner, induction restUnbroken]
      rfl

/-- Closing a text adds no line when its last character ends none. -/
theorem closedLines_concat {c : Char} (inner : isBreak c = false) (cs : List Char) :
    closedLines (cs ++ [c]) = lines (cs ++ [c]) := by
  unfold closedLines
  induction cs using lines_induction with
  | nil => simp [lines_cons_of_not_isBreak inner, growFirst]; rfl
  | pair rest induction => simpa using induction
  | ending d rest breaks single induction =>
      have stillSingle (following : List Char) :
          d = '\r' → (rest ++ [c] ++ following).head? ≠ some '\n' := by
        intro return_
        cases rest with
        | nil =>
            rintro same
            cases same
            cases inner
        | cons second later => exact single return_
      have closed := lines_cons_of_isBreak breaks (stillSingle ['\n'])
      have bare := lines_cons_of_isBreak breaks (stillSingle [])
      rw [List.append_nil] at bare
      simp only [List.cons_append, closed, bare, induction]
  | inner d rest inside induction =>
      simp only [List.cons_append, lines_cons_of_not_isBreak inside] at induction ⊢
      rw [induction]

theorem length_growFirst (c : Char) {front : List (List Char)} (inhabited : front ≠ []) :
    (growFirst c front).length = front.length := by
  cases front with
  | nil => exact (inhabited rfl).elim
  | cons line others => rfl

/-- Texts that are put together have one line less between them, when the first does not end
in a break. -/
theorem length_closedLines_append {front : List Char} {c : Char}
    (last : front.getLast? = some c) (inner : isBreak c = false) (back : List Char) :
    (closedLines (front ++ back)).length + 1 =
      (closedLines front).length + (closedLines back).length := by
  obtain ⟨cs, rfl⟩ := List.getLast?_eq_some_iff.mp last
  have inhabited (cs following : List Char) : lines (cs ++ c :: following) ≠ [] :=
    lines_ne_nil (by simp)
  simp only [closedLines, List.append_assoc, List.singleton_append]
  clear last
  induction cs using lines_induction with
  | nil =>
      have backInhabited : lines (back ++ ['\n']) ≠ [] := closedLines_ne_nil back
      simp only [List.nil_append, List.cons_append, lines_cons_of_not_isBreak inner]
      rw [length_growFirst c backInhabited, Nat.add_comm]
      rfl
  | pair rest induction =>
      simp only [List.cons_append, lines_pair, List.length_cons] at induction ⊢
      omega
  | ending d rest breaks single induction =>
      have stillSingle (following : List Char) :
          d = '\r' → (rest ++ c :: following).head? ≠ some '\n' := by
        intro return_
        cases rest with
        | nil =>
            rintro same
            cases same
            cases inner
        | cons second later => exact single return_
      simp only [List.cons_append] at induction ⊢
      rw [lines_cons_of_isBreak breaks (stillSingle _),
        lines_cons_of_isBreak breaks (stillSingle _), List.length_cons, List.length_cons]
      omega
  | inner d rest inside induction =>
      simp only [List.cons_append, lines_cons_of_not_isBreak inside] at induction ⊢
      rw [length_growFirst d (inhabited rest _), length_growFirst d (inhabited rest _)]
      exact induction

theorem lines_of_unbroken {line : List Char} (unbroken : Unbroken line)
    (inhabited : line ≠ []) : lines line = [line] := by
  rw [← List.dropLast_append_getLast inhabited] at unbroken ⊢
  have inner : isBreak (line.getLast inhabited) = false := unbroken _ (by simp)
  rw [← closedLines_concat inner, closedLines_of_unbroken unbroken]

/-! ## Joined texts -/

theorem toList_join_cons_cons (separator text next : String) (rest : List String) :
    (join separator (text :: next :: rest)).toList =
      text.toList ++ separator.toList ++ (join separator (next :: rest)).toList := by
  simp [join]

theorem length_join (separator : String) (texts : List String) :
    (join separator texts).length =
      (texts.map String.length).sum + separator.length * (texts.length - 1) := by
  induction texts with
  | nil => simp [join]
  | cons text rest induction =>
      cases rest with
      | nil => simp [join]
      | cons next rest =>
          simp only [join, String.length_append, induction, List.map_cons, List.sum_cons,
            List.length_cons, Nat.add_sub_cancel, Nat.mul_succ]
          omega

/-- Lines that are joined by line feeds come back when the text is closed. -/
theorem closedLines_join {texts : List String} (inhabited : texts ≠ [])
    (unbroken : ∀ text ∈ texts, Unbroken text.toList) :
    closedLines (join "\n" texts).toList = texts.map String.toList := by
  induction texts with
  | nil => exact (inhabited rfl).elim
  | cons text rest induction =>
      have textUnbroken := unbroken text List.mem_cons_self
      cases rest with
      | nil => simpa [join] using closedLines_of_unbroken textUnbroken
      | cons next rest =>
          have restLines := induction (List.cons_ne_nil _ _) fun other member =>
            unbroken other (List.mem_cons_of_mem _ member)
          rw [toList_join_cons_cons, List.append_assoc]
          have lineFeed : "\n".toList = ['\n'] := rfl
          rw [lineFeed, List.singleton_append, closedLines_append_lineFeed,
            closedLines_of_unbroken textUnbroken, restLines]
          rfl

/-- Lines that are joined by line feeds come back when the last one is not
empty. -/
theorem lines_join {texts : List String}
    (unbroken : ∀ text ∈ texts, Unbroken text.toList)
    (lastInhabited : ∀ text ∈ texts.getLast?, text.toList ≠ []) :
    lines (join "\n" texts).toList = texts.map String.toList := by
  induction texts with
  | nil => rfl
  | cons text rest induction =>
      have textUnbroken := unbroken text List.mem_cons_self
      cases rest with
      | nil => simpa [join] using lines_of_unbroken textUnbroken (lastInhabited text rfl)
      | cons next rest =>
          have restLines := induction
            (fun other member => unbroken other (List.mem_cons_of_mem _ member))
            (fun last member => lastInhabited last (by simpa using member))
          rw [toList_join_cons_cons, List.append_assoc]
          have lineFeed : "\n".toList = ['\n'] := rfl
          rw [lineFeed, List.singleton_append, lines_append_lineFeed,
            closedLines_of_unbroken textUnbroken, restLines]
          rfl

/-- A line without breaks comes back from a join, whatever is joined to it. -/
theorem mem_lines_join {texts : List String} {line : String} (member : line ∈ texts)
    (unbroken : Unbroken line.toList) (inhabited : line.toList ≠ []) :
    line.toList ∈ lines (join "\n" texts).toList := by
  induction texts with
  | nil => cases member
  | cons text rest induction =>
      cases rest with
      | nil =>
          obtain rfl := List.mem_singleton.mp member
          simp [join, lines_of_unbroken unbroken inhabited]
      | cons next rest =>
          have lineFeed : "\n".toList = ['\n'] := rfl
          rw [toList_join_cons_cons, List.append_assoc, lineFeed, List.singleton_append,
            lines_append_lineFeed]
          apply List.mem_append.mpr
          rcases List.mem_cons.mp member with rfl | inRest
          · left
            rw [closedLines_of_unbroken unbroken]
            exact List.mem_singleton_self _
          · exact .inr (induction inRest)

/-- Texts that are joined by blank lines keep their lines, with an empty line
before each but the first. -/
theorem closedLines_join_blankLine (first : String) (rest : List String) :
    closedLines (join "\n\n" (first :: rest)).toList =
      closedLines first.toList ++
        rest.flatMap fun text => [] :: closedLines text.toList := by
  induction rest generalizing first with
  | nil => simp [join]
  | cons next rest induction =>
      have empty : closedLines [] = [[]] := rfl
      rw [toList_join_cons_cons, List.append_assoc]
      have lineFeeds : "\n\n".toList = ['\n', '\n'] := rfl
      rw [lineFeeds, List.cons_append, List.singleton_append,
        closedLines_append_lineFeed, ← List.nil_append ('\n' :: _),
        closedLines_append_lineFeed, induction, empty]
      simp

end StageGraph.Text
