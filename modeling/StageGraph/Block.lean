import StageGraph.Text.Blank
import StageGraph.Text.Word

/-!
# Code blocks

The text of one stage is divided into its import lines, which move to the head of
the script, and its body.  A body begins and ends with a line that is not blank
and never has two blank lines in a row; all lines lose their trailing blanks.
-/

namespace StageGraph

namespace Line

/-- The rest after a run of at least one character of a class. -/
def afterSome (inClass : Char → Bool) (cs : List Char) : Option (List Char) :=
  match cs with
  | c :: rest => if inClass c then some (rest.dropWhile inClass) else none
  | [] => none

/-- The rest after a fixed word. -/
def afterWord (word : String) (cs : List Char) : Option (List Char) :=
  if word.toList.isPrefixOf cs then some (cs.drop word.toList.length) else none

/-- The characters of dotted module names. -/
def isModuleChar (c : Char) : Bool :=
  Text.isWord c || c = '.'

/-- The rest after a keyword and the blanks that follow it. -/
def afterKeyword (word : String) (cs : List Char) : Option (List Char) :=
  (afterWord word cs).bind (afterSome Text.isBlank)

/-- Whether a line begins with an import of a module. -/
def importsModule (cs : List Char) : Bool :=
  ((afterKeyword "import" cs).bind (afterSome isModuleChar)).isSome

/-- Whether a line begins with an import of names from a module. -/
def importsNames (cs : List Char) : Bool :=
  let imported := do
    let rest ← (afterKeyword "from" cs).bind (afterSome isModuleChar)
    afterKeyword "import" (← afterSome Text.isBlank rest)
  match imported with
  | some rest => !rest.isEmpty
  | none => false

/-- Whether a line, trailing blanks aside, is an import at the outermost level. -/
def isImport (cs : List Char) : Bool :=
  let line := Text.trimEnd cs
  importsModule line || importsNames line

end Line

/-- The import lines and the body of one stage's code. -/
structure Block where
  imports : List (List Char)
  body : List (List Char)
  deriving DecidableEq, Repr

namespace Block

/-- Drop blank lines at both ends and all but one between two other lines; `afterText` tells
whether a line that is not blank stands before. -/
def tidyAfter (afterText : Bool) : List (List Char) → List (List Char)
  | [] => []
  | line :: rest =>
    if line.isEmpty then
      if afterText then
        match tidyAfter false rest with
        | [] => []
        | more => [] :: more
      else
        tidyAfter false rest
    else
      line :: tidyAfter true rest

/-- Drop blank lines at both ends and all but one between two other lines. -/
def tidy (lines : List (List Char)) : List (List Char) :=
  tidyAfter false lines

/-- The lines of a text without their trailing blanks. -/
def trimmedLines (text : String) : List (List Char) :=
  (Text.lines text.toList).map Text.trimEnd

/-- Divide a text. -/
def ofText (text : String) : Block :=
  { imports := (trimmedLines text).filter Line.isImport
    body := tidy ((trimmedLines text).filter fun line => !Line.isImport line) }

/-- The import lines as texts. -/
def importTexts (block : Block) : List String :=
  block.imports.map String.ofList

/-- The lines of the body as texts. -/
def bodyTexts (block : Block) : List String :=
  block.body.map String.ofList

/-- The body as one text. -/
def bodyText (block : Block) : String :=
  Text.join "\n" block.bodyTexts

end Block

end StageGraph
