import StageGraph.Http.Address
import StageGraph.Http.Message

/-!
# Hosts

A client names the host that it addresses, perhaps with the number of a gate.  A service
answers only under the names that its patterns allow; a name that is none is
refused, and a location is then written with the name of the server itself.
-/

namespace StageGraph.Http

/-- A host that a client addresses: a name or a bracketed address, and
perhaps the number of the gate behind a colon. -/
structure Host where
  name : String
  gate : Option Nat := none
  deriving DecidableEq, Repr

namespace Host

/-- A character of host names. -/
def isNameChar (c : Char) : Bool :=
  c.isAlphanum || "._-~!$&\x27()*+,;=".toList.contains c

/-- The characters and percent escapes of a name at the start of a text, and the rest. -/
def splitPlain : List Char → List Char × List Char
  | '%' :: high :: low :: rest =>
    if Address.isHexDigit high && Address.isHexDigit low then
      let (name, rest) := splitPlain rest
      ('%' :: high :: low :: name, rest)
    else
      ([], '%' :: high :: low :: rest)
  | c :: rest =>
    if isNameChar c then
      let (name, rest) := splitPlain rest
      (c :: name, rest)
    else
      ([], c :: rest)
  | [] => ([], [])

/-- Whether a text is an address of a form that is still to come: the letter v and the number of
a version before a point, and a name behind it. -/
def isFuture : List Char → Bool
  | 'v' :: rest =>
    let version := rest.takeWhile Address.isHexDigit
    match rest.drop version.length with
    | '.' :: name =>
      !version.isEmpty && !name.isEmpty && name.all fun c => isNameChar c || c = ':'
    | _ => false
  | _ => false

/-- The name at the start of a text, in its brackets if it has some, and the rest. -/
def splitName? (cs : List Char) : Option (List Char × List Char) :=
  match cs with
  | '[' :: inner =>
    match inner.dropWhile (· ≠ ']') with
    | ']' :: rest =>
      let address := inner.takeWhile (· ≠ ']')
      if Address.isLong address || isFuture address then some ('[' :: address ++ [']'], rest)
      else none
    | _ => none
  | _ =>
    let (name, rest) := splitPlain cs
    if name.isEmpty then none else some (name, rest)

/-- The host that a text names. -/
def ofText? (text : String) : Option Host := do
  let (name, rest) ← splitName? text.toList
  match rest with
  | [] => some { name := String.ofList name }
  | ':' :: digits =>
    if digits.isEmpty || !digits.all Char.isDigit then none
    else
      some {
        name := String.ofList name
        gate := some (digits.foldl (fun value c => value * 10 + (c.toNat - 48)) 0) }
  | _ => none

/-- The greatest number of a gate. -/
def gateLimit : Nat := 65535

/-- Whether the gate, if one is named, can exist. -/
def isReachable (host : Host) : Bool :=
  host.gate.all fun gate => gate ≤ gateLimit

/-- Whether a text is a pattern: a star stands only at its start, alone or before a point. -/
def isPattern (pattern : String) : Bool :=
  match pattern.toList with
  | ['*'] => true
  | '*' :: '.' :: rest => !rest.contains '*'
  | '*' :: _ => false
  | cs => !cs.contains '*'

/-- Whether a pattern names a host: `*` names all, `*.x` the hosts below `x`. -/
def matchedBy (name pattern : String) : Bool :=
  match pattern.toList with
  | ['*'] => true
  | '*' :: ending => ending.isSuffixOf name.toList
  | _ => name = pattern

/-- What is to be done about a host. -/
inductive Verdict where
  | admitted
  /-- The host is known with `www.` before its name. -/
  | moved
  | refused
  deriving DecidableEq, Repr

/-- The verdict about a host, regardless of case; without patterns every host is admitted. -/
def judge (patterns : List String) (host : String) : Verdict :=
  let patterns := patterns.map Text.lower
  if patterns.isEmpty || patterns.contains "*" then .admitted
  else
    match (ofText? host).map fun host => Text.lower host.name with
    | none => .refused
    | some name =>
      if patterns.any (matchedBy name) then .admitted
      else if patterns.contains ("www." ++ name) then .moved
      else .refused

/-- The answer to a host that is not admitted. -/
def refusal : Response :=
  Response.plain "Invalid host header" 400

end Host

/-- The host under which a request is answered: the addressed one, or the server itself when
there can be no such host. -/
def Request.answeringHost (request : Request) : String :=
  if (Host.ofText? request.host).any Host.isReachable then request.host else request.server

/-- A path on a host as the location where a request is to be repeated. -/
def Request.locationOn (request : Request) (host path : String) : String :=
  escapeText (request.scheme ++ "://" ++ host ++ request.target.location path)

end StageGraph.Http
