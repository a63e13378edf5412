import StageGraph.Text.Quoted

/-!
# Reading literals

The literals of texts and of lists of texts in a script, read by the rules of the script's
language.  A text stands between two quotes of one kind.  Behind a backslash a character is
named by a letter, by up to three octal digits, or by two, four or eight hexadecimal digits;
a line end stands for nothing there, and any other character for itself with the backslash.
A list has its texts between brackets with commas between them, and one may follow the last.
Names of characters and adjacent texts that run together are not read.
-/

namespace StageGraph.Text.Literal

open Quoted (hexValue?)

/-- The character that a letter or a mark names behind a backslash. -/
def named? (c : Char) : Option Char :=
  if c = '\\' || c = '\x27' || c = '\x22' then some c
  else if c = 'a' then some '\x07'
  else if c = 'b' then some '\x08'
  else if c = 'f' then some '\x0c'
  else if c = 'n' then some '\n'
  else if c = 'r' then some '\r'
  else if c = 't' then some '\t'
  else if c = 'v' then some '\x0b'
  else none

/-- The character that exactly `width` hexadecimal digits name, and the rest. -/
def hexEscape? : Nat → Nat → List Char → Option (Char × List Char)
  | 0, code, rest => if code.isValidChar then some (Char.ofNat code, rest) else none
  | _ + 1, _, [] => none
  | width + 1, code, c :: rest => do
    let digit ← hexValue? c
    hexEscape? width (code * 16 + digit) rest

def octalValue? (c : Char) : Option Nat :=
  if '0' ≤ c ∧ c ≤ '7' then some (c.toNat - 48) else none

/-- The character that at most `width` octal digits name, and the rest. -/
def octalEscape : Nat → Nat → List Char → Char × List Char
  | 0, code, rest => (Char.ofNat code, rest)
  | _ + 1, code, [] => (Char.ofNat code, [])
  | width + 1, code, c :: rest =>
    match octalValue? c with
    | some digit => octalEscape width (code * 8 + digit) rest
    | none => (Char.ofNat code, c :: rest)

/-- What the characters behind a backslash stand for, and the rest. -/
def readEscape? : List Char → Option (List Char × List Char)
  | [] => none
  | c :: rest =>
    match named? c with
    | some named => some ([named], rest)
    | none =>
      if c = 'x' then (hexEscape? 2 0 rest).map fun (named, rest) => ([named], rest)
      else if c = 'u' then (hexEscape? 4 0 rest).map fun (named, rest) => ([named], rest)
      else if c = 'U' then (hexEscape? 8 0 rest).map fun (named, rest) => ([named], rest)
      else if c = '\n' then some ([], rest)
      else if c = 'N' || c = '\r' || c = '\x00' then none
      else if (octalValue? c).isSome then
        let (named, rest) := octalEscape 3 0 (c :: rest)
        some ([named], rest)
      else some (['\\', c], rest)

/-- What a text begins with, and the rest of it.  No line ends inside a text. -/
def readPiece? : List Char → Option (List Char × List Char)
  | [] => none
  | c :: rest =>
    if c = '\\' then readEscape? rest
    else if c = '\n' || c = '\r' || c = '\x00' then none
    else some ([c], rest)

/-- A text up to its closing quote, and what follows it; `fuel` bounds the pieces. -/
def readBody? (quote : Char) : Nat → List Char → Option (List Char × List Char)
  | 0, _ => none
  | _ + 1, [] => none
  | fuel + 1, c :: rest =>
    if c = quote then
      some ([], rest)
    else do
      let (piece, rest) ← readPiece? (c :: rest)
      let (body, rest) ← readBody? quote fuel rest
      some (piece ++ body, rest)

/-- The literal of a text, and what follows it. -/
def readText? : List Char → Option (List Char × List Char)
  | [] => none
  | c :: rest =>
    if c = '\x27' || c = '\x22' then readBody? c (rest.length + 1) rest else none

/-- The text of a literal. -/
def text? (cs : List Char) : Option (List Char) :=
  match readText? cs with
  | some (text, []) => some text
  | _ => none

/-- What may stand between the parts of a list. -/
def isGap (c : Char) : Bool :=
  c = ' ' || c = '\t' || c = '\n' || c = '\r' || c = '\x0c'

def skipGap (cs : List Char) : List Char :=
  cs.dropWhile isGap

/-- The texts of a list up to its closing bracket, and what follows it; `fuel` bounds the
texts. -/
def readItems? : Nat → List Char → Option (List (List Char) × List Char)
  | 0, _ => none
  | fuel + 1, cs => do
    let (item, rest) ← readText? cs
    match skipGap rest with
    | ']' :: rest => some ([item], rest)
    | ',' :: rest =>
      match skipGap rest with
      | ']' :: rest => some ([item], rest)
      | rest => do
        let (items, rest) ← readItems? fuel rest
        some (item :: items, rest)
    | _ => none

/-- The literal of a list, and what follows it. -/
def readList? : List Char → Option (List (List Char) × List Char)
  | '[' :: rest =>
    match skipGap rest with
    | ']' :: rest => some ([], rest)
    | rest => readItems? (rest.length + 1) rest
  | _ => none

/-- The texts of the literal of a list. -/
def list? (cs : List Char) : Option (List (List Char)) :=
  match readList? cs with
  | some (items, []) => some items
  | _ => none

end StageGraph.Text.Literal
