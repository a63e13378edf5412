import StageGraph.Text.Blank
import StageGraph.Text.Quoted
import StageGraph.Text.Utf8

/-!
# Targets of requests

A target names a path and, after a question mark, a query.  Paths are kept with
their percent escapes undone; the query is kept as it was written, since an
answer may have to repeat it.
-/

namespace StageGraph.Http

/-- Undo the percent escapes; a percent sign without two digits stands for itself. -/
def unescape : Octets → Octets
  | [] => []
  | 0x25 :: high :: low :: rest =>
    match Text.Quoted.hexValue? (Char.ofNat high.toNat),
        Text.Quoted.hexValue? (Char.ofNat low.toNat) with
    | some high, some low => UInt8.ofNat (high * 16 + low) :: unescape rest
    | _, _ => 0x25 :: unescape (high :: low :: rest)
  | octet :: rest => octet :: unescape rest

/-- A text with its percent escapes undone. -/
def unescapeText (text : String) : String :=
  Text.Utf8.repair (unescape (Text.Utf8.encode text))

/-- The characters of a location that stand for themselves. -/
def isPlain (octet : UInt8) : Bool :=
  let c := Char.ofNat octet.toNat
  c.isAlphanum || "_.-~:/%#?=@[]!$&\x27()*+,;".toList.contains c

/-- An octet as it stands in a location. -/
def escapeOctet (octet : UInt8) : List Char :=
  if isPlain octet then [Char.ofNat octet.toNat]
  else '%' :: (Text.Quoted.hexDigits 2 octet.toNat).map Char.toUpper

/-- A location with escapes for the characters that it cannot hold. -/
def escapeText (text : String) : String :=
  String.ofList ((Text.Utf8.encode text).flatMap escapeOctet)

/-- What a request asks for. -/
structure Target where
  path : String
  query : String := ""
  deriving DecidableEq, Repr

namespace Target

/-- The names and values of a query.  A plus sign stands for a space. -/
def readQuery (query : String) : List (String × String) :=
  (Text.splitAt '&' query.toList).filterMap fun pair =>
    if pair.isEmpty then none
    else
      let reading (cs : List Char) : String :=
        unescapeText (String.ofList (cs.map fun c => if c = '+' then ' ' else c))
      some (reading (pair.takeWhile (· ≠ '=')), reading ((pair.dropWhile (· ≠ '=')).drop 1))

/-- The last value that the query gives to a name. -/
def parameter? (target : Target) (name : String) : Option String :=
  (readQuery target.query).reverse.lookup name

/-- The segments of a path. -/
def segments (path : String) : List String :=
  match path.toList with
  | '/' :: rest => (Text.splitAt '/' rest).map String.ofList
  | _ => []

/-- The path that differs in its closing slashes: without them, or with one where there is
none. -/
def neighbour (path : String) : String :=
  if path.toList.getLast? = some '/' then
    String.ofList (path.toList.reverse.dropWhile (· = '/')).reverse
  else path ++ "/"

/-- A path with escapes for the marks that would end it. -/
def closedPath (path : String) : String :=
  String.ofList (path.toList.flatMap fun c =>
    if c = '?' then ['%', '3', 'F'] else if c = '#' then ['%', '2', '3'] else [c])

/-- A path without line breaks and tabs, which are lost when a location is taken apart. -/
def smoothPath (path : String) : String :=
  String.ofList (path.toList.filter fun c => c ≠ '\t' && c ≠ '\n' && c ≠ '\r')

/-- A path with the query of the target, with escapes where a location needs them. -/
def location (target : Target) (path : String) : String :=
  closedPath path ++ (if target.query = "" then "" else "?" ++ target.query)

end Target

end StageGraph.Http
