import StageGraph.Settings.Basic

/-!
# Launching the server

How the server is started: reloading with every change while debugging, and
otherwise with workers and few words.
-/

namespace StageGraph

/-- A call of the server. -/
structure Launch where
  application : String
  options : Config

namespace Launch

/-- What the server serves. -/
def served : String :=
  "backend.main:app"

/-- The options while debugging. -/
def reloading (server : Settings.Server) : Config :=
  [ ("host", .text server.host), ("port", .int server.portNumber), ("reload", .bool true),
    ("reload_dirs", .list [.text "backend", .text "pipeline_compiler"]),
    ("log_level", .text "info"), ("access_log", .bool true), ("use_colors", .bool true)]

/-- The options of a service in use. -/
def serving (server : Settings.Server) : Config :=
  [ ("host", .text server.host), ("port", .int server.portNumber), ("workers", .int server.workers),
    ("log_level", .text "warning"), ("access_log", .bool false),
    ("server_header", .bool false), ("date_header", .bool false)]

/-- The call that settings ask for. -/
def ofSettings (settings : Settings) : Launch :=
  { application := served
    options := if settings.application.debug then reloading settings.server
      else serving settings.server }

/-- A call as a record. -/
def toValue (launch : Launch) : Value :=
  .record [("application", .text launch.application), ("options", .record launch.options)]

end Launch

end StageGraph
