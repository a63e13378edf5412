import StageGraph.Http.Address
import StageGraph.Http.Target
import StageGraph.Number.Spelling
import StageGraph.Text.Case
import StageGraph.Text.Punycode
import StageGraph.Text.Word

/-!
# References

What a client writes to reach a service: perhaps a scheme, perhaps an authority,
then a path and a query.  Only a reference with a scheme and a host says where it
leads; any other is taken relative to a server that is known.  Paths are freed
from dot segments, and their percent escapes are undone on the way to the service
and once more on arrival.
-/

namespace StageGraph.Http

/-- A reference in its parts.  The gate behind the host may be any integer. -/
structure Reference where
  scheme : String
  host : String
  gate : Option Int
  target : Target
  deriving DecidableEq, Repr

namespace Reference

/-! ### Paths -/

/-- The segments before the current one, nearest first, after one more segment: a single dot
stays, two dots go up. -/
def enter (before : List (List Char)) (segment : List Char) : List (List Char) :=
  if segment = ['.'] then before
  else if segment = ['.', '.'] then
    match before with
    | [] => []
    | [root] => if root.isEmpty then [root] else []
    | _ :: rest => rest
  else segment :: before

/-- A path from the root without dot segments. -/
def withoutDots (path : List Char) : List Char :=
  let segments := ((Text.splitAt '/' path).foldl enter []).reverse
  match ['/'].intercalate segments with
  | [] => ['/']
  | path => path

/-- A path with exactly one slash before it. -/
def rooted (path : List Char) : List Char :=
  '/' :: path.dropWhile (· = '/')

/-! ### Schemes and authorities -/

/-- A character of the names of schemes. -/
def isSchemeChar (c : Char) : Bool :=
  c.isAlphanum || c = '+' || c = '.' || c = '-'

/-- The name of a scheme before a colon, when a letter starts it or it is empty, and the rest. -/
def splitScheme (cs : List Char) : List Char × List Char :=
  match cs.dropWhile isSchemeChar with
  | ':' :: rest =>
    if cs.head?.all fun c => c = ':' || c.isAlpha then (cs.takeWhile isSchemeChar, rest)
    else ([], cs)
  | _ => ([], cs)

/-- The authority between two slashes and the path, and the rest. -/
def splitAuthority : List Char → List Char × List Char
  | '/' :: '/' :: rest => (rest.takeWhile (· ≠ '/'), rest.dropWhile (· ≠ '/'))
  | cs => ([], cs)

/-- The host of an authority, in its brackets if it has some, and what stands behind it.  Whoever
is named before an at sign is left out. -/
def splitHost (authority : List Char) : List Char × List Char :=
  let written := (authority.reverse.takeWhile (· ≠ '@')).reverse
  if written.head? = some '[' && written.contains ']' then
    let behind := (written.reverse.takeWhile (· ≠ ']')).reverse
    (written.take (written.length - behind.length), behind)
  else
    (written.takeWhile (· ≠ ':'), written.dropWhile (· ≠ ':'))

/-- The number that digits write, with single underscores between them. -/
def digits? (cs : List Char) : Option Nat :=
  let digits := cs.filter (· ≠ '_')
  if Spelling.partsDigits cs && digits.all Char.isDigit && digits.length ≤ Number.digitLimit then
    some (digits.foldl (fun value c => value * 10 + (c.toNat - 48)) 0)
  else
    none

/-- The integer that a text writes, between blanks and with a sign or without one. -/
def integer? (cs : List Char) : Option Int :=
  match Text.trim cs with
  | '-' :: digits => (digits? digits).map fun value => -(value : Int)
  | '+' :: digits => (digits? digits).map fun value => (value : Int)
  | digits => (digits? digits).map fun value => (value : Int)

/-- The gate behind a host, if there is one. -/
def readGate? (behind : List Char) : Option (Option Int) :=
  match (if behind.head? = some ':' then behind.tail else behind) with
  | [] => some none
  | cs => (integer? cs).map some

/-- Whether a name seems to be an address of the short form: four numbers with any three
characters between them. -/
def seemsShort (cs : List Char) : Bool :=
  let runs := Text.splitAt '.' (cs.map fun c => if c.isDigit then c else '.')
  runs.length ≤ 4 && runs.all (fun run => !run.isEmpty) &&
    4 ≤ runs.foldl (fun numbers run => numbers + (run.length + 1) / 2) 0

/-- Whether what stands in brackets is an address of the long form, perhaps with the name of a
zone behind a percent sign. -/
def isZoned (cs : List Char) : Bool :=
  Address.isLong (cs.takeWhile (· ≠ '%')) &&
    match cs.dropWhile (· ≠ '%') with
    | [] => true
    | _ :: zone => !zone.isEmpty && !zone.contains '%'

/-- A dot between the labels of a name, as some scripts write it or as the others do. -/
def isLabelDot (c : Char) : Bool :=
  c = '.' || c.toNat = 0x3002 || c.toNat = 0xFF0E || c.toNat = 0xFF61

/-- Whether a text is a label of a name: letters, digits, and hyphens within it that do not stand
at both its third and its fourth place. -/
def isLabel (label : List Char) : Bool :=
  !label.isEmpty && label.head? ≠ some '-' && label.getLast? ≠ some '-' &&
    (label.drop 2).take 2 ≠ ['-', '-'] &&
    label.all fun c => c = '-' || (Text.isWord c && c ≠ '_')

/-- The longest label in ASCII. -/
def labelLimit : Nat := 63

/-- A label in ASCII. -/
def readLabel? (label : List Char) : Option (List Char) :=
  let written :=
    if label.all Text.Punycode.isPlain then label
    else "xn--".toList ++ Text.Punycode.encode label
  if isLabel label && written.length ≤ labelLimit then some written else none

/-- A name with letters of any script, in ASCII.  A dot may end it. -/
def readName? (name : List Char) : Option String :=
  let labels := Text.splitAt '.' (name.map fun c => if isLabelDot c then '.' else c)
  let (labels, ending) :=
    if labels.getLast? = some [] then (labels.dropLast, ['.']) else (labels, [])
  (labels.mapM readLabel?).map fun labels => String.ofList (['.'].intercalate labels ++ ending)

/-- A character that stands for itself in a host. -/
def isHostChar (c : Char) : Bool :=
  c.isAlphanum || "-._~!$&\x27()*+,;=\x22\x60\x7b\x7d%|\\".toList.contains c

/-- A host in lower case, with escapes for the characters that it cannot hold.  One that seems
to be an address has to be one. -/
def readHost? (host : List Char) : Option String :=
  let lower := Text.lower (String.ofList host)
  if seemsShort host then
    if Address.isShort host then some lower else none
  else if host.head? = some '[' && host.getLast? = some ']' then
    if isZoned (host.drop 1).dropLast then some (String.ofList host) else none
  else if host.all fun c => c.toNat < 128 then
    some (String.ofList (lower.toList.flatMap fun c =>
      if isHostChar c then [c] else escapeOctet (UInt8.ofNat c.toNat)))
  else readName? lower.toList

/-! ### References as a whole -/

/-- The longest text of a reference. -/
def lengthLimit : Nat := 65536

/-- Whether a reference can hold a character: control characters are left out. -/
def isHeld (c : Char) : Bool :=
  '\x20' ≤ c && c ≠ '\x7f'

/-- The path of a reference.  One without a scheme and an authority is refused when it could be
taken for either. -/
def readPath? (scheme authority path : List Char) (isAbsolute : Bool) : Option (List Char) :=
  if authority.all fun c => c = ':' || c = '@' then
    if scheme.isEmpty && (['/', '/'].isPrefixOf path || path.head? = some ':') then none
    else some (withoutDots (rooted path))
  else if isAbsolute then some (withoutDots path)
  else some (withoutDots (rooted (withoutDots path)))

/-- The reference that a text writes.  What follows a number sign is not part of it. -/
def ofText? (text : String) : Option Reference := do
  let written := text.toList.takeWhile (· ≠ '#')
  let (scheme, rest) := splitScheme (written.takeWhile (· ≠ '?'))
  let (authority, path) := splitAuthority rest
  let (host, behind) := splitHost authority
  let host ← if host.isEmpty then some "" else readHost? host
  let gate ← readGate? behind
  let path ← readPath? scheme authority path (!scheme.isEmpty && host ≠ "")
  if lengthLimit < text.length || !text.toList.all isHeld then none
  else
    return {
      scheme := String.ofList scheme
      host := host
      gate := gate
      target := {
        path := unescapeText (unescapeText (String.ofList path))
        query := String.ofList ((written.dropWhile (· ≠ '?')).drop 1) } }

/-- Whether a reference says where it leads. -/
def isAbsolute (reference : Reference) : Bool :=
  reference.scheme ≠ "" && reference.host ≠ ""

end Reference

end StageGraph.Http
