import StageGraph.Number.Basic
import StageGraph.Text.Blank

/-!
# Integers in texts

An integer is spelled in decimal digits, between blanks and with a sign or
without one.  Zeros may stand in front, a point with zeros behind, and single
underscores between digits; all of these are cleared away before the digits are
read.  A minus sign may stand before the zeros or behind them.
-/

namespace StageGraph.Spelling

/-- A blank that may stand around an integer; separators of information are none. -/
def isOuterBlank (c : Char) : Bool :=
  Text.isBlank c && !(28 ≤ c.toNat && c.toNat ≤ 31)

/-- A text without the blanks around it. -/
def withoutBlanks (cs : List Char) : List Char :=
  ((cs.dropWhile isOuterBlank).reverse.dropWhile isOuterBlank).reverse

/-- A text without a plus sign, which no other sign may follow. -/
def withoutPlus? : List Char → Option (List Char)
  | '+' :: '-' :: _ => none
  | '+' :: rest => some rest
  | cs => some cs

/-- Whether an integer may begin with a character, zeros aside. -/
def opensInteger (c : Char) : Bool :=
  c = '-' || (c.isDigit && c ≠ '0')

/-- A text without zeros, and underscores among them, in front.  Before a point or at the end
the last of them stays. -/
def withoutZeros? (cs : List Char) : Option (List Char) :=
  match cs with
  | [] => none
  | '0' :: rest =>
    let isFiller (c : Char) : Bool := c = '0' || c = '_'
    let last := ((rest.takeWhile isFiller).getLast?).getD '0'
    match rest.dropWhile isFiller with
    | [] => some [last]
    | c :: more =>
      if opensInteger c then some (c :: more)
      else if c = '.' then some (last :: c :: more)
      else none
  | c :: _ => if opensInteger c then some cs else none

/-- A text without a point and the zeros behind it. -/
def withoutFraction (cs : List Char) : List Char :=
  match cs.dropWhile (· ≠ '.') with
  | _ :: c :: fraction =>
    if (c :: fraction).all (· = '0') then cs.takeWhile (· ≠ '.') else cs
  | _ => cs

/-- Whether no underscore stands beside another or at an end. -/
def partsDigits (cs : List Char) : Bool :=
  (Text.splitAt '_' cs).all fun part => !part.isEmpty

/-- A text without the underscores that part its digits. -/
def withoutUnderscores (cs : List Char) : List Char :=
  if partsDigits cs then cs.filter (· ≠ '_') else cs

/-- The number of some digits: a zero stands alone. -/
def magnitude? (cs : List Char) : Option Nat :=
  if cs.isEmpty || !cs.all Char.isDigit then none
  else if (cs.head? = some '0' && 1 < cs.length) || Number.digitLimit < cs.length then none
  else some (cs.foldl (fun value c => value * 10 + (c.toNat - 48)) 0)

/-- The integer that cleared digits spell, with a minus sign or without one. -/
def signed? : List Char → Option Int
  | '-' :: digits => (magnitude? digits).map fun value => -(value : Int)
  | digits => (magnitude? digits).map fun value => (value : Int)

/-- The digits behind the sign, cleared of all that may stand around and between them. -/
def cleared? (cs : List Char) : Option (List Char) :=
  (withoutZeros? cs).map fun rest => withoutUnderscores (withoutFraction rest)

/-- The integer that a text spells. -/
def integer? (text : String) : Option Int :=
  (withoutPlus? (withoutBlanks text.toList)).bind fun cs =>
    match cs with
    | '-' :: rest => (cleared? rest).bind fun digits => signed? ('-' :: digits)
    | _ => (cleared? cs).bind signed?

end StageGraph.Spelling
