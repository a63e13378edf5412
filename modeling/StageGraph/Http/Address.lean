import StageGraph.Text.Blank
import StageGraph.Text.Quoted

/-!
# Numerical addresses

The short form of an address has four decimal numbers between points.  The long
form has eight hexadecimal groups between colons; a double colon stands for one
or more groups of zeros, and the last two groups may be written in the short
form.
-/

namespace StageGraph.Http.Address

def isHexDigit (c : Char) : Bool :=
  (Text.Quoted.hexValue? c).isSome

/-- Whether digits write a number of one octet, without zeros in front. -/
def isOctet (digits : List Char) : Bool :=
  match digits with
  | [] => false
  | ['0'] => true
  | '0' :: _ => false
  | _ =>
    digits.all Char.isDigit && digits.length ≤ 3 &&
      digits.foldl (fun value c => value * 10 + (c.toNat - 48)) 0 < 256

/-- Whether a text is an address of the short form. -/
def isShort (cs : List Char) : Bool :=
  let parts := Text.splitAt '.' cs
  parts.length = 4 && parts.all isOctet

/-- Whether digits write a group. -/
def isGroup (digits : List Char) : Bool :=
  !digits.isEmpty && digits.length ≤ 4 && digits.all isHexDigit

/-- How many groups there are in a part of an address without a double colon; the part that
closes the address may end in the short form. -/
def groups? (closes : Bool) (cs : List Char) : Option Nat :=
  let parts := Text.splitAt ':' cs
  let last := parts.getLastD []
  if cs.isEmpty then some 0
  else if !parts.dropLast.all isGroup then none
  else if isGroup last then some parts.length
  else if closes && isShort last then some (parts.length + 1)
  else none

/-- What stands before the first double colon, and what stands behind it. -/
def splitDouble? : List Char → Option (List Char × List Char)
  | ':' :: ':' :: rest => some ([], rest)
  | c :: rest => (splitDouble? rest).map fun (before, behind) => (c :: before, behind)
  | [] => none

/-- Whether a text is an address of the long form. -/
def isLong (cs : List Char) : Bool :=
  match splitDouble? cs with
  | none => groups? true cs = some 8
  | some (before, behind) =>
    match groups? false before, groups? true behind with
    | some first, some second => first + second < 8
    | _, _ => false

end StageGraph.Http.Address
