import StageGraph.Http.Target

/-!
# Routes

What the service offers under which method and path.  A path matches segment by
segment; where one name is asked for any will do except the empty one.  A single
line feed after a fixed last segment is let pass.
-/

namespace StageGraph.Http

/-- What a request can reach. -/
inductive Endpoint where
  | home
  /-- A page about the service, of a type of media. -/
  | page (media : String)
  | health
  | detailedHealth
  | ping
  | kinds
  | kind (type : String)
  | configure (type : String)
  | report
  | script
  | download
  | notebook
  | projects
  | createProject
  | project (id : String)
  | updateProject (id : String)
  | deleteProject (id : String)
  | addStage (id : String)
  | removeStage (id stageId : String)
  | projectReport (id : String)
  | projectScript (id : String)
  deriving DecidableEq, Repr

/-- A part of a route's path: a fixed name, or a place for any. -/
inductive Part where
  | fixed (name : String)
  | any
  deriving DecidableEq, Repr

/-- The names that segments give to the places of a path, if they match it. -/
def fit? : List Part → List String → Option (List String)
  | [], [] => some []
  | [.fixed name], [segment] =>
    if segment = name || segment = name ++ "\n" then some [] else none
  | .fixed name :: parts, segment :: rest =>
    if segment = name then fit? parts rest else none
  | .any :: parts, segment :: rest =>
    if segment = "" then none else (fit? parts rest).map (segment :: ·)
  | _, _ => none

/-- A method, a path, and what is reached with the names in its places. -/
structure Route where
  method : String
  parts : List Part
  endpoint : List String → Endpoint

namespace Route

private def name (names : List String) (place : Nat) : String :=
  names.getD place ""

/-- The path of the stage kinds, with more parts after it. -/
private def kindPath (parts : List Part) : List Part :=
  .fixed "api" :: .fixed "pipeline" :: .fixed "nodes" :: parts

private def flowPath (parts : List Part) : List Part :=
  .fixed "api" :: .fixed "pipeline" :: parts

private def projectPath (parts : List Part) : List Part :=
  .fixed "api" :: .fixed "projects" :: parts

/-- Whether the service is well. -/
def healthRoutes : List Route := [
  { method := "GET", parts := [.fixed "health"], endpoint := fun _ => .health },
  { method := "GET", parts := [.fixed "health", .fixed "detailed"]
    endpoint := fun _ => .detailedHealth },
  { method := "GET", parts := [.fixed "ping"], endpoint := fun _ => .ping }]

/-- Work on flows that come with the request. -/
def flowRoutes : List Route := [
  { method := "GET", parts := kindPath [], endpoint := fun _ => .kinds },
  { method := "GET", parts := kindPath [.any], endpoint := fun names => .kind (name names 0) },
  { method := "POST", parts := kindPath [.any, .fixed "config"]
    endpoint := fun names => .configure (name names 0) },
  { method := "POST", parts := flowPath [.fixed "validate"], endpoint := fun _ => .report },
  { method := "POST", parts := flowPath [.fixed "generate"], endpoint := fun _ => .script },
  { method := "POST", parts := flowPath [.fixed "generate", .fixed "download"]
    endpoint := fun _ => .download },
  { method := "POST", parts := flowPath [.fixed "export", .fixed "notebook"]
    endpoint := fun _ => .notebook }]

/-- Work on stored projects. -/
def projectRoutes : List Route := [
  { method := "GET", parts := projectPath [.fixed ""], endpoint := fun _ => .projects },
  { method := "POST", parts := projectPath [.fixed ""], endpoint := fun _ => .createProject },
  { method := "GET", parts := projectPath [.any]
    endpoint := fun names => .project (name names 0) },
  { method := "PUT", parts := projectPath [.any]
    endpoint := fun names => .updateProject (name names 0) },
  { method := "DELETE", parts := projectPath [.any]
    endpoint := fun names => .deleteProject (name names 0) },
  { method := "POST", parts := projectPath [.any, .fixed "nodes"]
    endpoint := fun names => .addStage (name names 0) },
  { method := "DELETE", parts := projectPath [.any, .fixed "nodes", .any]
    endpoint := fun names => .removeStage (name names 0) (name names 1) },
  { method := "GET", parts := projectPath [.any, .fixed "validate"]
    endpoint := fun names => .projectReport (name names 0) },
  { method := "GET", parts := projectPath [.any, .fixed "generate"]
    endpoint := fun names => .projectScript (name names 0) }]

/-- The start page, which leads to the documentation. -/
def homeRoute : Route :=
  { method := "GET", parts := [.fixed ""], endpoint := fun _ => .home }

/-- A page under a path, which may also be asked for without its text. -/
def pageRoutes (media path : String) : List Route :=
  ["GET", "HEAD"].map fun method =>
    { method := method
      parts := (Target.segments path).map .fixed
      endpoint := fun _ => .page media }

/-- The routes of the service itself. -/
def serviceRoutes : List Route :=
  healthRoutes ++ flowRoutes ++ projectRoutes

/-- What a path reaches on a route, whatever the method. -/
def reached? (route : Route) (path : String) : Option Endpoint :=
  (fit? route.parts (Target.segments path)).map route.endpoint

end Route

/-- Where a request leads. -/
inductive Destination where
  | reached (endpoint : Endpoint)
  /-- The path is there, but not for the method. -/
  | wrongMethod
  /-- The path with other closing slashes is there. -/
  | moved (path : String)
  | nowhere
  deriving DecidableEq, Repr

/-- Where a method and a path lead on some routes. -/
def Destination.find (routes : List Route) (method path : String) : Destination :=
  match routes.findSome? fun route =>
      if route.method = method then route.reached? path else none with
  | some endpoint => .reached endpoint
  | none =>
    let isThere (path : String) : Bool := routes.any fun route => (route.reached? path).isSome
    if isThere path then .wrongMethod
    else if path ≠ "/" && isThere (Target.neighbour path) then .moved (Target.neighbour path)
    else .nowhere

end StageGraph.Http
