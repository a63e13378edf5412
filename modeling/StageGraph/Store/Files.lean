import StageGraph.Fresh
import StageGraph.Json.Printer
import StageGraph.Json.Reader
import StageGraph.Project
import StageGraph.Store.Directory

/-!
# Projects in files

A project is kept as one document in a directory, in a file that is named by the
project's id.  Only ids of ASCII letters, digits, hyphens and underscores name
files, so no id leads out of the directory.  A document is first written under a
scratch name and then moved to its place.
-/

namespace StageGraph.Files

/-- A character of the ids that name files. -/
def isSafe (c : Char) : Bool :=
  c.isAlphanum || c = '_' || c = '-'

/-- An id that names a file; one line feed may end it. -/
def isSafeId (id : List Char) : Bool :=
  let body := if id.getLast? = some '\n' then id.dropLast else id
  !body.isEmpty && body.all isSafe

/-- The ending of the files that hold projects. -/
def ending : String :=
  ".json"

/-- The name of a project's file, unless the id names none. -/
def fileName? (id : String) : Option String :=
  if isSafeId id.toList then some (id ++ ending) else none

/-- The name of a project's file by any value that is given for the id.  What is empty or zero
names no project, and nothing else but a text can be read as an id. -/
def fileName (id : Value) : Except Fault String :=
  match id.asText? with
  | some text =>
    match fileName? text with
    | some name => .ok name
    | none => .error (.projectNotFound id)
  | none => .error (if id.truthy then .unusableId else .projectNotFound id)

/-- Whether a file may hold a project, by its name. -/
def holdsProject (name : String) : Bool :=
  ending.toList.isSuffixOf name.toList && name.toList.head? ≠ some '.'

/-- The document of a project. -/
def document (project : Project) : String :=
  Json.document project.toValue

/-- The project in a document. -/
def ofDocument (text : String) (clock : Clock) : Except ProjectFault Project × Clock :=
  match Json.read text .stored with
  | .ok value => Project.read .given value clock
  | .error _ =>
    (.error (.invalid [{ problem := .malformed "", path := [], input := .text text }]), clock)

/-- The refusal of a file that holds no readable project. -/
def unreadable (name cause : String) : Fault :=
  .storage ("Could not read project file " ++ name) cause

/-- The project in a file. -/
def readFile (directory : Directory) (name : String) (clock : Clock) :
    Except Fault Project × Clock :=
  match directory.read name with
  | .error fault => (.error (unreadable name fault.message), clock)
  | .ok text =>
    match ofDocument text clock with
    | (.ok project, clock) => (.ok project, clock)
    | (.error .beyondCalendar, clock) => (.error .beyondCalendar, clock)
    | (.error (.invalid _), clock) => (.error (unreadable name "not a project"), clock)

/-- The name under which a document is written first. -/
def scratchName (directory : Directory) : String :=
  Fresh.pick ".tmp" (Ledger.keys directory.entries)

/-- Write a document under a scratch name and move it to its place. -/
def place (directory : Directory) (project : Project) (name : String) :
    Except Fault Unit × Directory :=
  let scratch := scratchName directory
  match directory.write scratch (document project) with
  | .error fault => (.error (.file fault), directory)
  | .ok written =>
    match written.rename scratch name with
    | .ok renamed => (.ok (), renamed)
    | .error fault =>
      (.error (.storage ("Could not save project " ++ project.id) fault.message),
        match written.unlink scratch with
        | .ok cleaned => cleaned
        | .error _ => written)

/-- Write a project's document to its file. -/
def save (directory : Directory) (project : Project) : Except Fault Unit × Directory :=
  match fileName (.text project.id) with
  | .error fault => (.error fault, directory)
  | .ok name =>
    if project.isWritable then place directory project name
    else (.error .unencodable, directory)

/-- Whether a project has a file. -/
def exists? (directory : Directory) (id : Value) : Except Fault Bool :=
  match fileName id with
  | .ok name => .ok (directory.entry? name).isSome
  | .error (.projectNotFound _) => .ok false
  | .error fault => .error fault

/-- The project under an id. -/
def load (directory : Directory) (id : Value) (clock : Clock) : Except Fault Project × Clock :=
  match fileName id with
  | .error fault => (.error fault, clock)
  | .ok name =>
    match directory.entry? name with
    | none => (.error (.projectNotFound id), clock)
    | some _ => readFile directory name clock

/-- The projects in some files; files that hold none are passed over. -/
def readAll (directory : Directory) : List String → Clock → Except Fault (List Project) × Clock
  | [], clock => (.ok [], clock)
  | name :: names, clock =>
    match readFile directory name clock with
    | (.ok project, clock) =>
      match readAll directory names clock with
      | (.ok projects, clock) => (.ok (project :: projects), clock)
      | (.error fault, clock) => (.error fault, clock)
    | (.error (.storage _ _), clock) => readAll directory names clock
    | (.error fault, clock) => (.error fault, clock)

/-- The projects of the directory by file name. -/
def all (directory : Directory) (clock : Clock) : Except Fault (List Project) × Clock :=
  readAll directory (directory.names.filter holdsProject) clock

/-- Take the project under an id away. -/
def delete (directory : Directory) (id : Value) : Except Fault Unit × Directory :=
  match fileName id with
  | .error fault => (.error fault, directory)
  | .ok name =>
    match directory.entry? name with
    | none => (.error (.projectNotFound id), directory)
    | some _ =>
      match directory.unlink name with
      | .ok rest => (.ok (), rest)
      | .error fault =>
        (.error (.storage ("Could not delete project " ++ id.display) fault.message), directory)

end StageGraph.Files
