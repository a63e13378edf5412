import StageGraph.Http.Message

/-!
# Access from other origins

A page of another origin may read an answer when its origin is allowed, and may
ask first what it is allowed to send.
-/

namespace StageGraph.Http

namespace CrossOrigin

/-- Whether an origin is among the allowed ones; `*` allows all. -/
def isAllowed (allowed : List String) (origin : String) : Bool :=
  allowed.contains "*" || allowed.contains origin

/-- The methods that pages of other origins may use. -/
def methods : List String :=
  ["GET", "POST", "PUT", "DELETE", "OPTIONS"]

/-- A response that a page of an origin may read, with credentials, if the origin is
allowed. -/
def share (allowed : List String) (origin : String) (response : Response) : Response :=
  let response := response.setHeader "access-control-allow-credentials" "true"
  if isAllowed allowed origin then response.setHeader "access-control-allow-origin" origin
  else response

/-- What keeps a page of an origin from using a method, from another network or the same. -/
def obstacles (allowed : List String) (origin method : String) (otherNetwork : Bool) :
    List String :=
  (if isAllowed allowed origin then [] else ["origin"]) ++
    (if methods.contains method then [] else ["method"]) ++
    (if otherNetwork then ["private-network"] else [])

/-- The answer to a page that asks whether it may use a method. -/
def permission (allowed : List String) (origin method : String) (otherNetwork : Bool) :
    Response :=
  let answer :=
    match obstacles allowed origin method otherNetwork with
    | [] => Response.plain "OK"
    | obstacles => Response.plain ("Disallowed CORS " ++ Text.join ", " obstacles) 400
  share allowed origin
    (answer.setHeader "access-control-allow-methods" (Text.join ", " methods))

end CrossOrigin

end StageGraph.Http
