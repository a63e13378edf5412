import StageGraph.Http.Access
import StageGraph.Http.Body
import StageGraph.Http.Host
import StageGraph.Http.Listing
import StageGraph.Http.Route
import StageGraph.Settings.Basic
import StageGraph.Workshop

/-!
# The service over HTTP

A request passes through layers.  The outermost gives it an id and turns whatever
was not expected into a general answer; below it the time is noted, origins and
hosts are checked, and in the middle the request reaches an endpoint.  A layer
below the outermost adds its headers only to answers that come about.
-/

namespace StageGraph.Http

/-- A service under its settings. -/
structure App where
  settings : Settings
  catalog : Catalog := Catalog.builtin

/-- What answers calls. -/
abbrev Handler := Call → Action Response

namespace App

/-- The workshop in which projects are made. -/
def workshop (app : App) : Workshop :=
  { catalog := app.catalog
    defaultName := app.settings.storage.projectName
    defaultUser := app.settings.storage.userId }

/-- A service under settings, unless a pattern for its hosts is none. -/
def ofSettings? (settings : Settings) : Option App :=
  if settings.access.hosts.all Host.isPattern then some { settings := settings } else none

/-! ### Answers to what fails -/

/-- One step of a path as a value. -/
def placeValue : Place → Value
  | .name name => .text name
  | .index index => .int index

/-- An issue with the body of a request. -/
def issueValue (issue : Issue) : Value :=
  .record <|
    [("type", .text issue.problem.type),
      ("loc", .list (.text "body" :: issue.path.map placeValue)),
      ("msg", .text issue.problem.message), ("input", issue.input)] ++
    match issue.problem with
    | .malformed reason => [("ctx", .record [("error", .text reason)])]
    | _ => []

/-- The answer to a path that leads nowhere. -/
def notFound (call : Call) : Response :=
  Response.json (.record [
    ("success", .bool false), ("error", .text "Not Found"), ("message", .text "Not Found"),
    ("request_id", .text call.id)]) 404

/-- The answer to a method that the path does not have. -/
def wrongMethod (call : Call) : Response :=
  Response.json (.record [
    ("success", .bool false), ("error", .text "Method Not Allowed"),
    ("message", .text ("Method " ++ call.request.method ++ " not allowed")),
    ("status_code", .int 405)]) 405

/-- The answer to a body that cannot be read. -/
def unreadable : Response :=
  Response.json (.record [
    ("success", .bool false), ("error", .text "HTTP 400"),
    ("message", .text "There was an error parsing the body"), ("status_code", .int 400)]) 400

/-- The answer to a body that is refused. -/
def refusal (call : Call) : Refusal → Except Fault Response
  | .unreadable => .ok unreadable
  | .unreportable => .error .unencodable
  | .invalid issues =>
    Response.exactJson (.record [
      ("success", .bool false), ("error", .text "Unprocessable Entity"),
      ("message", .text "Request validation failed"),
      ("details", .list (issues.map issueValue)), ("request_id", .text call.id)]) 422

/-- The answer to a fault that the service announces. -/
def announcement (call : Call) (fault : Fault) : Except Fault Response :=
  Response.exactJson (.record [
    ("success", .bool false), ("error", .text fault.title), ("message", .text fault.message),
    ("details", .record fault.details), ("request_id", .text call.id)]) fault.status

/-- The answer to what nobody expected. -/
def unexpected (call : Call) : Response :=
  Response.json (.record [
    ("success", .bool false), ("message", .text "Internal server error"),
    ("error", .text "An unexpected error occurred. Please try again later."),
    ("request_id", .text call.id)]) 500

/-! ### Endpoints -/

/-- Do something with what a call carries, or refuse it. -/
def withBody {α : Type} (call : Call) (read : Value → Checked α)
    (use : α → Action Response) : Action Response :=
  match call.request.carried read with
  | .ok carried => use carried
  | .error reason => Action.ofResult (refusal call reason)

/-- What both health reports say. -/
def healthEntries (app : App) (status : String) (time : Moment) : Config :=
  [ ("status", .text status), ("timestamp", .text time.text),
    ("version", .text app.settings.application.version),
    ("environment", .text app.settings.environment),
    ("uptime_seconds", .number (.real .zero))]

def health (app : App) : Action Response := do
  return Response.json (.record (app.healthEntries "healthy" (← Action.now)))

/-- How many projects there are, unless the file system refuses to tell. -/
def countProjects : Action (Option Nat) :=
  tryCatch (do return some (← Store.list).length) fun fault =>
    match fault with
    | .file _ => return none
    | fault => throw fault

def detailedHealth (app : App) : Action Response := do
  let count ← countProjects
  let status := if count.isSome then "healthy" else "degraded"
  return Response.json (.record (app.healthEntries status (← Action.now) ++ [
    ("node_types", .int app.catalog.types.length),
    ("project_storage", .text app.settings.storage.type),
    ("project_count", .int (count.getD 0))]))

/-- The script that a call asks for, as a file. -/
def scriptFile (script : Script) : Except Fault Response :=
  (Response.text "text/x-python" script.source).saveAs Script.filename

/-- The notebook of a flow, as a file named after the project. -/
def notebookFile (app : App) (flow : Flow) (name : Option String) : Action Response := do
  let time ← Action.now
  let notebook ← Action.ofResult (Compiler.notebook app.catalog flow name time.civil)
  Action.ofResult ((Response.json notebook.toValue).saveAs (Notebook.filename name))

/-- A project as an answer. -/
def projectAnswer (project : Project) (status : Nat := 200) : Action Response :=
  Action.ofResult (Response.written project.isWritable project.toValue status)

/-- What an endpoint answers. -/
def answer (app : App) (call : Call) : Endpoint → Action Response
  | .home =>
    let docs := app.settings.access.docsUrl
    return Response.redirect (escapeText (if docs = "" then "/health" else docs))
  | .page media => return Response.text media ""
  | .health => app.health
  | .detailedHealth => app.detailedHealth
  | .ping => return Response.json (.record [("message", .text "pong")])
  | .kinds => return Response.json (.list ((Ledger.values app.catalog.kinds).map listKind))
  | .kind type => do
    return Response.json (listKind (← Action.ofResult (Compiler.kind app.catalog (.text type))))
  | .configure type => withBody call readUpdate fun (current, updates) => do
    let configured ← Action.ofResult
      (Compiler.configure app.catalog (.text type) (.record current) (.record updates))
    Action.ofResult
      (Response.written (Config.isWritable configured.configuration) configured.toValue)
  | .report => withBody call readFlow fun flow => do
    return Response.json (← Action.ofResult (Compiler.report app.catalog flow)).toValue
  | .script => withBody call readScriptOrder fun (flow, labels) => do
    return Response.json (← Action.ofResult (Compiler.script app.catalog flow labels)).toValue
  | .download => withBody call readScriptOrder fun (flow, labels) => do
    Action.ofResult (scriptFile (← Action.ofResult (Compiler.script app.catalog flow labels)))
  | .notebook => withBody call readNotebookOrder fun (flow, name) => app.notebookFile flow name
  | .projects => do
    let user := call.request.target.parameter? "user_id"
    let projects ← Store.list ((user.map Value.text).getD .null)
    Action.ofResult (Response.written (projects.all Project.isWritable)
      (.list (projects.map Project.toValue)))
  | .createProject => withBody call (Draft.read .request) fun draft => do
    projectAnswer (← app.workshop.create draft) 201
  | .project id => do projectAnswer (← Store.load id)
  | .updateProject id => withBody call (Amendment.read .request) fun amendment => do
    projectAnswer (← Workshop.update id amendment)
  | .deleteProject id => do
    Store.delete id
    return Response.done
  | .addStage id => withBody call (Placement.read .request) fun placement => do
    let stage ← app.workshop.addStage id placement
    Action.ofResult (Response.written stage.isWritable stage.toValue 201)
  | .removeStage id stageId => do projectAnswer (← Workshop.removeStage id stageId)
  | .projectReport id => do return Response.json (← app.workshop.report id).toValue
  | .projectScript id => do return Response.json (← app.workshop.script id).toValue

/-- The page to which a login from the documentation returns. -/
def returnPath : String :=
  "/docs/oauth2-redirect"

/-- The pages about the service, and its start page, which leads to them. -/
def pageRoutes (access : Settings.Access) : List Route :=
  let pages := [("application/json", access.openapiUrl), ("text/html", access.docsUrl),
    ("text/html", if access.docsUrl = "" then "" else returnPath),
    ("text/html", access.redocUrl)]
  (if access.openapiUrl = "" then []
    else (pages.filter fun page => page.2 ≠ "").flatMap fun page =>
      Route.pageRoutes page.1 page.2) ++ [Route.homeRoute]

/-- The routes of the service, with pages about it where its documentation is shown. -/
def routes (app : App) : List Route :=
  Route.serviceRoutes ++
    if app.settings.docsEnabled then pageRoutes app.settings.access else []

/-- Lead a call to its endpoint. -/
def dispatch (app : App) : Handler := fun call =>
  let request := call.request
  match Destination.find app.routes request.method request.target.path with
  | .reached endpoint => app.answer call endpoint
  | .wrongMethod => return wrongMethod call
  | .moved path =>
    return Response.redirect (request.locationOn request.answeringHost path)
  | .nowhere => return notFound call

/-! ### Layers -/

/-- Answer faults that the service announces; others pass. -/
def announcing (inner : Handler) : Handler := fun call =>
  tryCatch (inner call) fun fault =>
    if fault.isAnnounced then Action.ofResult (announcement call fault) else throw fault

/-- Answer only under the hosts of the service. -/
def guarding (hosts : List String) (inner : Handler) : Handler := fun call =>
  let request := call.request
  match Host.judge hosts request.host with
  | .admitted => inner call
  | .moved =>
    return Response.redirect
      (request.locationOn ("www." ++ request.answeringHost)
        (Target.smoothPath request.target.path))
  | .refused => return Host.refusal

/-- The header by which a page asks to reach into the service's own network. -/
def networkHeader : String :=
  "access-control-request-private-network"

/-- Let pages of other origins ask first, and read what they may. -/
def sharing (origins : List String) (inner : Handler) : Handler := fun call =>
  match call.request.header? "origin" with
  | none => inner call
  | some origin =>
    match call.request.method, call.request.header? "access-control-request-method" with
    | "OPTIONS", some method =>
      let otherNetwork := call.request.header? networkHeader
      return CrossOrigin.permission origins origin method otherNetwork.isSome
    | _, _ => return CrossOrigin.share origins origin (← inner call)

/-- The header with the seconds that an answer took. -/
def timeHeader : String :=
  "x-process-time"

/-- Note the time that an answer took; the clock stands still meanwhile. -/
def timing (inner : Handler) : Handler := fun call => do
  return (← inner call).setHeader timeHeader "0.000000"

/-- All layers below the outermost. -/
def handler (app : App) : Handler :=
  timing (sharing app.settings.access.origins
    (guarding app.settings.access.hosts (announcing app.dispatch)))

/-- The header with the id of a request. -/
def idHeader : String :=
  "x-request-id"

/-- An id with dashes, as the service gives it to requests that bring none. -/
def dashedId (number : Nat) : String :=
  let digits := Text.Quoted.hexDigits 32 number
  let part (start width : Nat) : String := String.ofList ((digits.drop start).take width)
  Text.join "-" [part 0 8, part 8 4, part 12 4, part 16 4, part 20 12]

/-- The id of a request: its own if it has one, otherwise a new one. -/
def identify (request : Request) : StateM World String := do
  let own := (request.header? idHeader).getD ""
  if own = "" then return dashedId (← World.issue) else return own

/-- Answer a request. -/
def serve (app : App) (request : Request) : StateM World Response := do
  let call : Call := { id := ← identify request, request := request }
  match ← (app.handler call).run with
  | .ok response => return response.setHeader idHeader call.id
  | .error _ => return (unexpected call).setHeader idHeader call.id

end App

end StageGraph.Http
