import Mathlib.Data.List.Chain
import StageGraph.Proofs.Block

/-!
# The division of a text

Every line of a text that is not blank becomes an import line or a line of the body, and
the body has blank lines just where the text has some between two lines of it, one at a
place.  Only one block divides a text in this way, and its body is divided no further.
-/

namespace StageGraph

open Text

namespace Line

/-- Nothing but blanks stands on the line. -/
def isVoid (line : List Char) : Bool :=
  line.all Text.isBlank

/-- Something else than blanks stands on the line. -/
def isInked (line : List Char) : Bool :=
  !isVoid line

/-- The line is not blank and belongs to the body. -/
def isKept (line : List Char) : Bool :=
  !isImport line && isInked line

/-- Not both of two lines are blank. -/
def Apart (upper lower : List Char) : Prop :=
  ¬ (isVoid upper = true ∧ isVoid lower = true)

variable {line : List Char}

@[simp] theorem isInked_eq_false_iff : isInked line = false ↔ isVoid line = true := by
  simp [isInked]

@[simp] theorem isInked_eq_true_iff : isInked line = true ↔ isVoid line = false := by
  simp [isInked]

theorem isVoid_iff : isVoid line = true ↔ trimEnd line = [] :=
  List.all_eq_true.trans List.rdropWhile_eq_nil_iff.symm

theorem isVoid_iff_of_trimmed (trimmed : trimEnd line = line) :
    isVoid line = true ↔ line = [] := by
  rw [isVoid_iff, trimmed]

theorem isInked_of_trimmed (trimmed : trimEnd line = line) (inhabited : line ≠ []) :
    isInked line = true := by
  rw [isInked_eq_true_iff]
  exact Bool.eq_false_iff.mpr fun void => inhabited ((isVoid_iff_of_trimmed trimmed).mp void)

theorem not_isVoid_of_isImport (imports : isImport line = true) : isVoid line = false := by
  apply Bool.eq_false_iff.mpr
  intro void
  rw [not_isImport_of_blank (isVoid_iff.mp void)] at imports
  cases imports

end Line

namespace Block

/-! ## Blank lines between the lines of a class -/

/-- For every line of a class, whether a blank line stands above it and below the line of the
class that comes before. -/
def spacing (listed : List Char → Bool) (lines : List (List Char)) : List Bool :=
  (lines.splitOnP listed).dropLast.map fun between => between.any Line.isVoid

section

variable {listed : List Char → Bool} {line : List Char} {rest : List (List Char)}

@[simp] theorem spacing_nil : spacing listed [] = [] := by
  simp [spacing]

theorem spacing_cons_of_listed (isListed : listed line = true) :
    spacing listed (line :: rest) = false :: spacing listed rest := by
  have inhabited := List.splitOnP_ne_nil listed rest
  simp [spacing, List.splitOnP_cons_eq_if_modifyHead, isListed,
    List.dropLast_cons_of_ne_nil inhabited]

theorem spacing_cons_of_not_listed (unlisted : listed line = false) :
    spacing listed (line :: rest) =
      (spacing listed rest).modifyHead (Line.isVoid line || ·) := by
  obtain ⟨first, others, split⟩ :=
    List.exists_cons_of_ne_nil (List.splitOnP_ne_nil listed rest)
  cases others with
  | nil => simp [spacing, List.splitOnP_cons_eq_if_modifyHead, unlisted, split]
  | cons second others =>
      simp [spacing, List.splitOnP_cons_eq_if_modifyHead, unlisted, split]

theorem spacing_cons_of_isInked (inked : Line.isInked line = true) :
    spacing Line.isInked (line :: rest) = false :: spacing Line.isInked rest :=
  spacing_cons_of_listed inked

theorem spacing_cons_of_isVoid (void : Line.isVoid line = true) :
    spacing Line.isInked (line :: rest) =
      (spacing Line.isInked rest).modifyHead fun _ => true := by
  rw [spacing_cons_of_not_listed (Line.isInked_eq_false_iff.mpr void), void]
  rfl

end

/-- Imports are not blank, so taking them out changes no spacing. -/
theorem spacing_filter_not_isImport (lines : List (List Char)) :
    spacing Line.isInked (lines.filter fun line => !Line.isImport line) =
      spacing Line.isKept lines := by
  induction lines with
  | nil => simp
  | cons line rest induction =>
      cases imports : Line.isImport line with
      | true =>
          have unkept : Line.isKept line = false := by simp [Line.isKept, imports]
          rw [List.filter_cons_of_neg (by simp [imports]), induction,
            spacing_cons_of_not_listed unkept, Line.not_isVoid_of_isImport imports]
          cases spacing Line.isKept rest <;> rfl
      | false =>
          have sameClass : Line.isKept line = Line.isInked line := by
            simp [Line.isKept, imports]
          rw [List.filter_cons_of_pos (by simp [imports])]
          cases inked : Line.isInked line with
          | true =>
              rw [spacing_cons_of_listed inked, spacing_cons_of_listed (sameClass.trans inked),
                induction]
          | false =>
              rw [spacing_cons_of_not_listed inked,
                spacing_cons_of_not_listed (sameClass.trans inked), induction]

/-! ## Bodies with single blank lines -/

/-- Blank lines stand alone and not at the end, and no line has trailing blanks. -/
structure IsSpaced (lines : List (List Char)) : Prop where
  last : ∀ line ∈ lines.getLast?, Line.isInked line = true
  alone : lines.IsChain Line.Apart
  trimmed : ∀ line ∈ lines, trimEnd line = line

namespace IsSpaced

variable {line : List Char} {rest lines : List (List Char)}

theorem tail (spaced : IsSpaced (line :: rest)) : IsSpaced rest where
  last := by
    intro lower isLast
    apply spaced.last lower
    cases rest with
    | nil => cases isLast
    | cons next others => exact isLast
  alone := (List.isChain_cons.mp spaced.alone).2
  trimmed := fun lower member => spaced.trimmed lower (List.mem_cons_of_mem _ member)

theorem eq_nil_of_isVoid (spaced : IsSpaced (line :: rest)) (void : Line.isVoid line = true) :
    line = [] :=
  (Line.isVoid_iff_of_trimmed (spaced.trimmed line List.mem_cons_self)).mp void

/-- Below a blank line stands one that is not blank. -/
theorem exists_below (spaced : IsSpaced (line :: rest)) (void : Line.isVoid line = true) :
    ∃ lower others, rest = lower :: others ∧ Line.isInked lower = true := by
  cases rest with
  | nil => cases void.symm.trans (Line.isInked_eq_true_iff.mp (spaced.last line rfl))
  | cons lower others =>
      refine ⟨lower, others, rfl, ?_⟩
      rw [Line.isInked_eq_true_iff]
      exact Bool.eq_false_iff.mpr fun lowerVoid =>
        (List.isChain_cons_cons.mp spaced.alone).1 ⟨void, lowerVoid⟩

theorem eq_nil_of_filter_eq_nil (spaced : IsSpaced lines)
    (nothing : lines.filter Line.isInked = []) : lines = [] := by
  by_contra inhabited
  have isLast := List.getLast?_eq_some_getLast inhabited
  exact List.filter_eq_nil_iff.mp nothing _ (List.mem_of_getLast? isLast)
    (spaced.last _ isLast)

theorem tidyAfter_eq_self {afterText : Bool} (spaced : IsSpaced lines)
    (first : ∀ line ∈ lines.head?, Line.isVoid line = true → afterText = true) :
    tidyAfter afterText lines = lines := by
  induction lines generalizing afterText with
  | nil => rfl
  | cons line rest induction =>
      unfold tidyAfter
      split
      · rename_i empty
        obtain rfl : line = [] := List.isEmpty_iff.mp empty
        have void : Line.isVoid [] = true := rfl
        obtain ⟨lower, others, rfl, inked⟩ := spaced.exists_below void
        have restKept : tidyAfter false (lower :: others) = lower :: others := by
          apply induction spaced.tail
          intro line isFirst lineVoid
          cases isFirst
          cases lineVoid.symm.trans (Line.isInked_eq_true_iff.mp inked)
        rw [first [] rfl void, if_pos rfl, restKept]
      · rw [induction spaced.tail fun _ _ _ => rfl]

theorem spacing_of_isVoid (spaced : IsSpaced (line :: rest)) (void : Line.isVoid line = true) :
    ∃ below, spacing Line.isInked rest = false :: below ∧
      spacing Line.isInked (line :: rest) = true :: below := by
  obtain ⟨lower, others, rfl, inked⟩ := spaced.exists_below void
  have restSpacing : spacing Line.isInked (lower :: others) =
      false :: spacing Line.isInked others :=
    spacing_cons_of_isInked inked
  refine ⟨_, restSpacing, ?_⟩
  rw [spacing_cons_of_isVoid void, restSpacing]
  rfl

/-- The lines that are not blank and the places of the others determine all lines. -/
theorem eq_of_spacing {other : List (List Char)} (spaced : IsSpaced lines)
    (otherSpaced : IsSpaced other)
    (sameTexts : lines.filter Line.isInked = other.filter Line.isInked)
    (sameSpacing : spacing Line.isInked lines = spacing Line.isInked other) :
    lines = other := by
  induction lines generalizing other with
  | nil => exact (otherSpaced.eq_nil_of_filter_eq_nil sameTexts.symm).symm
  | cons line rest induction =>
      cases other with
      | nil => exact spaced.eq_nil_of_filter_eq_nil sameTexts
      | cons head tail =>
          cases inked : Line.isInked line <;> cases headInked : Line.isInked head
          · have void := Line.isInked_eq_false_iff.mp inked
            have headVoid := Line.isInked_eq_false_iff.mp headInked
            obtain ⟨below, restSpacing, whole⟩ := spaced.spacing_of_isVoid void
            obtain ⟨otherBelow, tailSpacing, otherWhole⟩ :=
              otherSpaced.spacing_of_isVoid headVoid
            rw [whole, otherWhole, List.cons.injEq] at sameSpacing
            rw [List.filter_cons_of_neg (by rw [inked]; simp),
              List.filter_cons_of_neg (by rw [headInked]; simp)] at sameTexts
            have sameRest : rest = tail := by
              apply induction spaced.tail otherSpaced.tail sameTexts
              rw [restSpacing, tailSpacing, sameSpacing.2]
            rw [spaced.eq_nil_of_isVoid void, otherSpaced.eq_nil_of_isVoid headVoid, sameRest]
          · obtain ⟨_, _, whole⟩ :=
              spaced.spacing_of_isVoid (Line.isInked_eq_false_iff.mp inked)
            rw [whole, spacing_cons_of_isInked headInked] at sameSpacing
            cases sameSpacing
          · obtain ⟨_, _, otherWhole⟩ :=
              otherSpaced.spacing_of_isVoid (Line.isInked_eq_false_iff.mp headInked)
            rw [spacing_cons_of_isInked inked, otherWhole] at sameSpacing
            cases sameSpacing
          · rw [spacing_cons_of_isInked inked, spacing_cons_of_isInked headInked,
              List.cons.injEq] at sameSpacing
            rw [List.filter_cons_of_pos inked, List.filter_cons_of_pos headInked,
              List.cons.injEq] at sameTexts
            rw [sameTexts.1,
              induction spaced.tail otherSpaced.tail sameTexts.2 sameSpacing.2]

end IsSpaced

/-- Blank lines stand alone and between other lines, and no line has trailing blanks. -/
structure IsTidy (body : List (List Char)) : Prop extends IsSpaced body where
  first : ∀ line ∈ body.head?, Line.isInked line = true

namespace IsTidy

variable {lines : List (List Char)}

theorem tidy_eq_self (isTidy : IsTidy lines) : tidy lines = lines := by
  apply isTidy.tidyAfter_eq_self
  intro line isFirst void
  cases void.symm.trans (Line.isInked_eq_true_iff.mp (isTidy.first line isFirst))

/-- Above the first line there is no blank one to tell tidy bodies apart. -/
theorem spacing_eq_of_tail {other : List (List Char)} (isTidy : IsTidy lines)
    (otherTidy : IsTidy other)
    (sameTexts : lines.filter Line.isInked = other.filter Line.isInked)
    (sameTail : (spacing Line.isInked lines).tail = (spacing Line.isInked other).tail) :
    spacing Line.isInked lines = spacing Line.isInked other := by
  cases lines with
  | nil => rw [otherTidy.eq_nil_of_filter_eq_nil sameTexts.symm]
  | cons line rest =>
      cases other with
      | nil => rw [isTidy.eq_nil_of_filter_eq_nil sameTexts]
      | cons head tail =>
          rw [spacing_cons_of_isInked (isTidy.first line rfl),
            spacing_cons_of_isInked (otherTidy.first head rfl)] at sameTail ⊢
          exact congrArg (false :: ·) sameTail

end IsTidy

/-! ## What tidying keeps -/

section

variable {lines : List (List Char)}

theorem filter_tidyAfter (afterText : Bool) (trimmed : ∀ line ∈ lines, trimEnd line = line) :
    (tidyAfter afterText lines).filter Line.isInked = lines.filter Line.isInked := by
  induction lines generalizing afterText with
  | nil => rfl
  | cons line rest induction =>
      have lineTrimmed := trimmed line List.mem_cons_self
      have restKept := fun afterText =>
        induction afterText fun other member => trimmed other (List.mem_cons_of_mem _ member)
      unfold tidyAfter
      split
      · rename_i empty
        have void := (Line.isVoid_iff_of_trimmed lineTrimmed).mpr (List.isEmpty_iff.mp empty)
        have uninked : ¬ Line.isInked line = true := by simp [void]
        rw [List.filter_cons_of_neg uninked, ← restKept false]
        split
        · split
          · rename_i nothing
            rw [nothing]
          · rfl
        · rfl
      · rename_i inhabited
        have inked := Line.isInked_of_trimmed lineTrimmed (mt List.isEmpty_iff.mpr inhabited)
        rw [List.filter_cons_of_pos inked, List.filter_cons_of_pos inked, restKept true]

/-- A place is blank after tidying when it was before, but for the beginning, which is never
blank unless text stands before. -/
theorem spacing_tidyAfter (afterText : Bool) (trimmed : ∀ line ∈ lines, trimEnd line = line) :
    spacing Line.isInked (tidyAfter afterText lines) =
      (spacing Line.isInked lines).modifyHead (afterText && ·) := by
  induction lines generalizing afterText with
  | nil => rfl
  | cons line rest induction =>
      have lineTrimmed := trimmed line List.mem_cons_self
      have restSpacing := fun afterText =>
        induction afterText fun other member => trimmed other (List.mem_cons_of_mem _ member)
      unfold tidyAfter
      split
      · rename_i empty
        obtain rfl : line = [] := List.isEmpty_iff.mp empty
        have void : Line.isVoid [] = true := rfl
        rw [spacing_cons_of_isVoid void]
        split
        · rename_i isAfter
          subst isAfter
          split
          · -- Nothing is left below, so there is no line that the blank could stand above.
            rename_i nothing
            have below := restSpacing false
            rw [nothing] at below
            cases spacings : spacing Line.isInked rest with
            | nil => rfl
            | cons first others => rw [spacings] at below; cases below
          · rw [spacing_cons_of_isVoid void, restSpacing false]
            cases spacing Line.isInked rest <;> rfl
        · rename_i isFirst
          rw [Bool.eq_false_iff.mpr isFirst, restSpacing false]
          cases spacing Line.isInked rest <;> rfl
      · rename_i inhabited
        have inked := Line.isInked_of_trimmed lineTrimmed (mt List.isEmpty_iff.mpr inhabited)
        rw [spacing_cons_of_isInked inked, spacing_cons_of_isInked inked, restSpacing true]
        cases spacing Line.isInked rest <;> simp

/-- The beginning is blank at most below text, and no two blank lines follow each other. -/
theorem alone_tidyAfter (afterText : Bool) (trimmed : ∀ line ∈ lines, trimEnd line = line) :
    (∀ line ∈ (tidyAfter afterText lines).head?, Line.isVoid line = true → afterText = true) ∧
      (tidyAfter afterText lines).IsChain Line.Apart := by
  induction lines generalizing afterText with
  | nil => exact ⟨by simp [tidyAfter], List.isChain_nil⟩
  | cons line rest induction =>
      have lineTrimmed := trimmed line List.mem_cons_self
      have restAlone := fun afterText =>
        induction afterText fun other member => trimmed other (List.mem_cons_of_mem _ member)
      unfold tidyAfter
      split
      · split
        · rename_i isAfter
          split
          · exact ⟨by simp, List.isChain_nil⟩
          · obtain ⟨below, alone⟩ := restAlone false
            refine ⟨fun _ _ _ => isAfter, List.isChain_cons.mpr ⟨?_, alone⟩⟩
            rintro lower isFirst ⟨_, void⟩
            cases below lower isFirst void
        · obtain ⟨below, alone⟩ := restAlone false
          exact ⟨fun lower member void => (by cases below lower member void), alone⟩
      · rename_i inhabited
        have inked := Line.isInked_of_trimmed lineTrimmed (mt List.isEmpty_iff.mpr inhabited)
        have notVoid := Bool.eq_false_iff.mp (Line.isInked_eq_true_iff.mp inked)
        refine ⟨?_, List.isChain_cons.mpr ⟨fun _ _ both => notVoid both.1, (restAlone true).2⟩⟩
        intro first isFirst void
        obtain rfl : line = first := by simpa using isFirst
        exact (notVoid void).elim

theorem isTidy_tidy (trimmed : ∀ line ∈ lines, trimEnd line = line) : IsTidy (tidy lines) := by
  obtain ⟨below, alone⟩ := alone_tidyAfter false trimmed
  have stillTrimmed : ∀ line ∈ tidy lines, trimEnd line = line :=
    fun line member => trimmed line ((tidyAfter_sublist false lines).subset member)
  refine { last := ?_, alone := alone, trimmed := stillTrimmed, first := ?_ }
  · intro line isLast
    exact Line.isInked_of_trimmed (stillTrimmed line (List.mem_of_getLast? isLast))
      (ne_nil_of_getLast?_tidyAfter isLast)
  · intro line isFirst
    rw [Line.isInked_eq_true_iff]
    exact Bool.eq_false_iff.mpr fun void => Bool.false_ne_true (below line isFirst void)

end

/-! ## The division -/

/-- A block divides a text: the import lines are taken out, all other lines that are not blank
make the body, and between two of them the body has a blank line where the text has some.  What
stands above all of them is left out of the spacing. -/
structure Divides (block : Block) (text : String) : Prop where
  imports : block.imports = (trimmedLines text).filter Line.isImport
  kept : block.body.filter Line.isInked = (trimmedLines text).filter Line.isKept
  spaced : (spacing Line.isInked block.body).tail = (spacing Line.isKept (trimmedLines text)).tail
  tidy : IsTidy block.body

theorem trimEnd_of_mem_trimmedLines {text : String} {line : List Char}
    (member : line ∈ trimmedLines text) : trimEnd line = line := by
  obtain ⟨raw, _, rfl⟩ := mem_trimmedLines.mp member
  exact trimEnd_trimEnd raw

theorem divides_ofText (text : String) : (ofText text).Divides text := by
  have trimmed : ∀ line ∈ (trimmedLines text).filter fun line => !Line.isImport line,
      trimEnd line = line :=
    fun line member => trimEnd_of_mem_trimmedLines (List.mem_filter.mp member).1
  refine { imports := rfl, kept := ?_, spaced := ?_, tidy := isTidy_tidy trimmed }
  · rw [ofText, tidy, filter_tidyAfter false trimmed, List.filter_filter]
    congr 1
    funext line
    exact Bool.and_comm _ _
  · rw [ofText, tidy, spacing_tidyAfter false trimmed, spacing_filter_not_isImport]
    cases spacing Line.isKept (trimmedLines text) <;> rfl

theorem Divides.eq {block other : Block} {text : String} (divides : block.Divides text)
    (otherDivides : other.Divides text) : block = other := by
  have sameImports := divides.imports.trans otherDivides.imports.symm
  have sameTexts := divides.kept.trans otherDivides.kept.symm
  have sameTail := divides.spaced.trans otherDivides.spaced.symm
  have sameBody : block.body = other.body :=
    divides.tidy.eq_of_spacing otherDivides.tidy.toIsSpaced sameTexts
      (divides.tidy.spacing_eq_of_tail otherDivides.tidy sameTexts sameTail)
  cases block
  cases other
  exact congrArg₂ Block.mk sameImports sameBody

/-- The body of a divided text has no imports and is tidy, so it is divided no further. -/
theorem ofText_bodyText (text : String) :
    ofText (ofText text).bodyText = { imports := [], body := (ofText text).body } := by
  have isTidy := (divides_ofText text).tidy
  have sameLines : trimmedLines (ofText text).bodyText = (ofText text).body := by
    rw [trimmedLines, lines_bodyText]
    exact (List.map_congr_left isTidy.trimmed).trans (List.map_id _)
  have noImports : ∀ line ∈ (ofText text).body, Line.isImport line = false :=
    fun line member => (mem_of_mem_body member).2
  have none : (ofText text).body.filter Line.isImport = [] :=
    List.filter_eq_nil_iff.mpr fun line member => Bool.eq_false_iff.mp (noImports line member)
  have all : (ofText text).body.filter (fun line => !Line.isImport line) = (ofText text).body :=
    List.filter_eq_self.mpr fun line member => by simp [noImports line member]
  rw [ofText, sameLines, none, all, isTidy.tidy_eq_self]

/-- A text is divided by one block only, the one that is made of it, and the body of that
block is its own division. -/
theorem divides_iff_and_settled (text : String) :
    (∀ block : Block, block.Divides text ↔ block = ofText text) ∧
      ofText (ofText text).bodyText = { imports := [], body := (ofText text).body } := by
  refine ⟨fun block => ⟨fun divides => divides.eq (divides_ofText text), ?_⟩,
    ofText_bodyText text⟩
  rintro rfl
  exact divides_ofText text

end Block

end StageGraph
