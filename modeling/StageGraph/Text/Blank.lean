import StageGraph.Text.Ranges

/-!
# Blanks and lines

Blank characters in the sense of Unicode white space together with the four
information separators, trimming, and the division of a text into lines.  The
operations work on character lists; `String` versions stand beside them.
-/

namespace StageGraph.Text

/-- The code points of blank characters. -/
def blankRanges : CodeRanges := [
  (9, 13), (28, 32), (133, 133), (160, 160), (5760, 5760), (8192, 8202), (8232, 8233),
  (8239, 8239), (8287, 8287), (12288, 12288)]

/-- A blank character: a space, tab, line break or separator of any width. -/
def isBlank (c : Char) : Bool :=
  blankRanges.contains c

/-- The code points at which a text is divided into lines. -/
def breakRanges : CodeRanges :=
  [(10, 13), (28, 30), (133, 133), (8232, 8233)]

/-- A character that ends a line. -/
def isBreak (c : Char) : Bool :=
  breakRanges.contains c

/-- Remove leading blanks. -/
def trimStart (cs : List Char) : List Char :=
  cs.dropWhile isBlank

/-- Remove trailing blanks. -/
def trimEnd (cs : List Char) : List Char :=
  (cs.reverse.dropWhile isBlank).reverse

/-- Remove leading and trailing blanks. -/
def trim (cs : List Char) : List Char :=
  trimEnd (trimStart cs)

/-- The lines of a text without their ends.  A carriage return followed by a
line feed is one end, and an end at the very end of the text opens no further
line. -/
def lines : List Char → List (List Char)
  | [] => []
  | '\r' :: '\n' :: rest => [] :: lines rest
  | c :: rest =>
    if isBreak c then
      [] :: lines rest
    else
      match lines rest with
      | [] => [[c]]
      | line :: others => (c :: line) :: others

/-- Trim a text on both sides. -/
def trimText (text : String) : String :=
  String.ofList (trim text.toList)

/-- A text with nothing but blanks in it. -/
def isBlankText (text : String) : Bool :=
  text.toList.all isBlank

/-- Join texts with a separator between neighbours. -/
def join (separator : String) : List String → String
  | [] => ""
  | [text] => text
  | text :: rest => text ++ separator ++ join separator rest

/-- Split a text at every occurrence of a character. -/
def splitAt (separator : Char) : List Char → List (List Char)
  | [] => [[]]
  | c :: rest =>
    if c = separator then
      [] :: splitAt separator rest
    else
      match splitAt separator rest with
      | [] => [[c]]
      | piece :: others => (c :: piece) :: others

/-- The pieces of a text between occurrences of a character. -/
def splitText (separator : Char) (text : String) : List String :=
  (splitAt separator text.toList).map String.ofList

/-- Whether the second text stands somewhere inside the first. -/
def hasPiece (piece : List Char) : List Char → Bool
  | [] => piece.isEmpty
  | c :: rest => piece.isPrefixOf (c :: rest) || hasPiece piece rest

end StageGraph.Text
