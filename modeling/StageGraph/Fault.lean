import StageGraph.Gate

/-!
# Faults of the project service

Everything that can go wrong while projects are stored, changed and compiled.
The first four are answered to the caller with a status of their own; the others
are not expected by anyone.
-/

namespace StageGraph

/-- Why a file system refuses. -/
inductive FileFault where
  | notFound
  | alreadyThere
  | isFolder
  | notFolder
  | nameTooLong
  /-- No path holds a null character. -/
  | embeddedNull
  | other
  deriving DecidableEq, Repr

/-- The wording of a refusal. -/
def FileFault.message : FileFault → String
  | .notFound => "No such file or directory"
  | .alreadyThere => "File exists"
  | .isFolder => "Is a directory"
  | .notFolder => "Not a directory"
  | .nameTooLong => "File name too long"
  | .embeddedNull => "embedded null byte"
  | .other => "Input/output error"

/-- What went wrong. -/
inductive Fault where
  | projectNotFound (id : Value)
  | typeNotFound (type : Value)
  | configurationRejected (rejection : Rejection)
  /-- The store cannot read or write a project. -/
  | storage (message cause : String)
  /-- The file system refuses and nobody has expected it. -/
  | file (fault : FileFault)
  /-- An id is neither a text nor anything else that can be looked up. -/
  | unusableId
  /-- A project would not have the parts that projects have. -/
  | invalid (issues : List Issue)
  /-- A configuration is none. -/
  | entries (fault : EntriesFault)
  /-- A value of a configuration cannot be judged. -/
  | unjudged (fault : Unjudged)
  /-- A kind stands in the way of compiling a flow. -/
  | obstacle (obstacle : Obstacle)
  /-- A time leads out of the calendar. -/
  | beyondCalendar
  /-- The store is out of order. -/
  | broken
  /-- An answer holds what its form cannot hold. -/
  | unencodable
  /-- A value nests deeper than can be written. -/
  | tooDeep

namespace Fault

/-- What a refusal of the gate means to the caller. -/
def ofGate : GateError → Fault
  | .rejected rejection => .configurationRejected rejection
  | .malformed fault => .entries fault
  | .unjudged fault => .unjudged fault

/-- Whether the fault is one that the service announces. -/
def isAnnounced : Fault → Bool
  | .projectNotFound _ | .typeNotFound _ | .configurationRejected _ | .storage _ _ => true
  | _ => false

/-- The wording of a fault. -/
def message : Fault → String
  | .projectNotFound id => "Project not found: " ++ id.display
  | .typeNotFound type => "Unknown node type: " ++ type.display
  | .configurationRejected rejection => "Invalid configuration for " ++ rejection.type.display
  | .storage message _ => message
  | .file fault => fault.message
  | .unusableId => "not an id"
  | .invalid _ => "not a project"
  | .entries fault => fault.message
  | .unjudged .outOfRange => "number too large"
  | .unjudged .incomparable => "not a bound"
  | .obstacle .limit => "not a limit"
  | .obstacle (.rule _) => "not a rule"
  | .obstacle .template => "not a template"
  | .beyondCalendar => "date value out of range"
  | .broken => "out of order"
  | .unencodable => "cannot be encoded"
  | .tooDeep => "Maximum serialization depth exceeded"

/-- What is known about a fault. -/
def details : Fault → Config
  | .projectNotFound id => [("project_id", id)]
  | .typeNotFound type => [("node_type", type)]
  | .configurationRejected rejection =>
    [("node_type", rejection.type), ("issues", .list (rejection.issues.map .text))]
  | .storage _ cause => [("error", .text cause)]
  | _ => []

/-- The status with which a fault is answered. -/
def status : Fault → Nat
  | .projectNotFound _ | .typeNotFound _ => 404
  | .configurationRejected _ => 422
  | _ => 500

/-- The name under which a fault is announced. -/
def title : Fault → String
  | .projectNotFound _ => "ProjectNotFoundError"
  | .typeNotFound _ => "NodeTypeNotFoundError"
  | .configurationRejected _ => "ConfigurationRejectedError"
  | .storage _ _ => "ProjectStoreError"
  | _ => "Internal Server Error"

end Fault

end StageGraph
