import StageGraph.Gate
import StageGraph.Http.Message
import StageGraph.Json.Reader
import StageGraph.Project
import StageGraph.Text.Encoding

/-!
# Bodies of requests

A body that its content type announces as JSON is read as a document in any
encoding; any other body counts as a text.  Either way it is checked against
what the request should carry.

Texts are in Unicode.  Half of a surrogate pair, which a document can spell as an
escape, is no character, and a document with one is answered like a text that cannot
be decoded: in general terms.  The service itself comes to this answer only when it
has to write the half, in an answer or in the report of an issue; a half that it drops
on the way, in a member that it does not look for, leaves its answer as it is.  So
nothing is stated of such documents.
-/

namespace StageGraph.Http

/-- Whether a content type announces JSON, in whatever case and with whatever parameters. -/
def announcesJson (contentType : String) : Bool :=
  let essence := Text.trim (contentType.toList.takeWhile (· ≠ ';'))
  match Text.splitText '/' (Text.lower (String.ofList essence)) with
  | ["application", subtype] =>
    subtype = "json" || "+json".toList.isSuffixOf subtype.toList
  | _ => false

/-- Why the body of a request is refused. -/
inductive Refusal where
  | invalid (issues : List Issue)
  /-- The octets make no text, or the document is beyond what is read. -/
  | unreadable
  /-- An undecodable text or half of a surrogate pair, which cannot even be reported. -/
  | unreportable

/-- Why a text that is not JSON is refused. -/
def Refusal.ofReadError (error : Json.ReadError) : Refusal :=
  match error.fault with
  | .tooManyDigits | .tooDeep => .unreadable
  | .loneSurrogate => .unreportable
  | fault =>
    .invalid [{
      problem := .malformed fault.message, path := [.index error.offset], input := .record [] }]

/-- The value of a document, or why there is none. -/
def readDocument (octets : Octets) : Except Refusal Value :=
  match Text.decodeDocument? octets with
  | none => .error .unreadable
  | some text =>
    match Json.read text .unicode with
    | .ok value => .ok value
    | .error error =>
      -- Whatever else is wrong with a document comes before its halves of surrogate pairs.
      match Json.read text .usual with
      | .ok _ => .error (.ofReadError error)
      | .error other => .error (.ofReadError other)

/-- The value that a body gives to check, if there is a body. -/
def Request.content (request : Request) : Except Refusal (Option Value) :=
  if request.body.isEmpty then .ok none
  else if announcesJson ((request.header? "content-type").getD "") then
    (readDocument request.body).map some
  else
    match Text.Utf8.decode? request.body with
    | some text => .ok (some (.text text))
    | none => .error .unreportable

/-- What a request carries. -/
def Request.carried {α : Type} (request : Request) (read : Value → Checked α) :
    Except Refusal α :=
  match request.content with
  | .ok (some value) => (read value).mapError .invalid
  | .ok none => (Checked.fail .missing .null).mapError .invalid
  | .error refusal => .error refusal

/-- A flow to judge. -/
def readFlow (value : Value) : Checked Flow := do
  Flow.readMembers .request (← Checked.model .request "PipelineRequest" value)

/-- A flow to compile, and whether its script has labels. -/
def readScriptOrder (value : Value) : Checked (Flow × Bool) := do
  let entries ← Checked.model .request "GenerateRequest" value
  Checked.both (Flow.readMembers .request entries)
    (Checked.withDefault entries "include_labels" true Checked.boolean)

/-- A flow to compile, and the name of its project. -/
def readNotebookOrder (value : Value) : Checked (Flow × Option String) := do
  let entries ← Checked.model .request "NotebookRequest" value
  Checked.both (Flow.readMembers .request entries)
    (Checked.withDefault entries "project_name" none (Checked.optional Checked.text))

/-- A configuration and its updates. -/
def readUpdate (value : Value) : Checked (Config × Config) := do
  let entries ← Checked.model .request "ConfigurationUpdate" value
  Checked.both (Checked.withDefault entries "current" [] Checked.record)
    (Checked.withDefault entries "updates" [] Checked.record)

end StageGraph.Http
