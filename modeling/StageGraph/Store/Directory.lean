import StageGraph.Fault
import StageGraph.Location

/-!
# Directories

A directory holds files and folders, and the folders hold more of them.  A path
leads from the directory step by step through folders; its ways back may lead out
of the directory, into the folders around it.  The directory may be removed as a
whole, after which nothing can be written into it until it is made again.

Every file holds a text.  A file whose octets are no text in UTF-8, which nothing here
writes but a reader may come upon, has no place in these directories.
-/

namespace StageGraph

/-- What stands at a location: a file with the text it holds, or a folder. -/
inductive Entry where
  | file (content : String)
  | folder
  deriving DecidableEq, Repr

/-- A directory that may have been removed, with what stands in it and around it under the texts
of the locations. -/
structure Directory where
  present : Bool := true
  entries : Ledger Entry := []
  deriving DecidableEq, Repr

namespace Directory

/-- The longest file name, in bytes. -/
def nameLimit : Nat := 255

/-- The step that stays where it is. -/
def here : String :=
  "."

/-- What stands at a location.  The directory and the folders around it are folders. -/
def at? (directory : Directory) (location : Location) : Option Entry :=
  match location.name? with
  | some _ => Ledger.get? directory.entries location.text
  | none => if directory.present then some .folder else none

/-- What stands under a name in the directory, if anything. -/
def entry? (directory : Directory) (name : String) : Option Entry :=
  if directory.present && name.utf8ByteSize ≤ nameLimit then
    Ledger.get? directory.entries name
  else
    none

/-- Whether a step can be taken from a location. -/
def accept (directory : Directory) (location : Location) : Except FileFault Unit :=
  match directory.at? location with
  | none => .error .notFound
  | some (.file _) => .error .notFolder
  | some .folder => .ok ()

/-- Where a step leads. -/
def follow (location : Location) (step : String) : Location :=
  if step = here then location else location.step step

/-- Where some steps lead through folders. -/
def walk (directory : Directory) (location : Location) :
    List String → Except FileFault Location
  | [] => .ok location
  | step :: rest => do
    directory.accept location
    if nameLimit < step.utf8ByteSize then throw .nameTooLong
    directory.walk (follow location step) rest

/-- A path within the directory: the steps to a folder, the last step, which the directory
itself has none of, and whether a slash closes the path. -/
structure Path where
  outer : List String
  last : Option String
  isClosed : Bool
  deriving DecidableEq, Repr

/-- The path that a text writes; no path holds a null character. -/
def Path.ofText (text : String) : Except FileFault Path :=
  let steps := (Text.splitText '/' text).filter (· ≠ "")
  if text.toList.contains '\x00' then .error .embeddedNull
  else .ok {
    outer := steps.dropLast
    last := steps.getLast?
    isClosed := text.toList.getLast? = some '/' }

/-- Whether a last step leads to a folder whatever stands where. -/
def leadsToFolder (step : String) : Bool :=
  step = here || step = Location.back

/-- Write a file, over another file if there is one.  A path that is closed names a folder. -/
def write (directory : Directory) (name content : String) : Except FileFault Directory := do
  let path ← Path.ofText name
  match path.last with
  | none => throw .isFolder
  | some step =>
    let outer ← directory.walk {} path.outer
    directory.accept outer
    if path.isClosed || leadsToFolder step then throw .isFolder
    let target ← directory.walk outer [step]
    if directory.at? target = some .folder then throw .isFolder
    return { directory with entries := Ledger.put directory.entries target.text (.file content) }

/-- Make an empty folder, or the directory itself. -/
def makeFolder (directory : Directory) (name : String) : Except FileFault Directory := do
  let path ← Path.ofText name
  match path.last with
  | none =>
    if directory.present then throw .alreadyThere
    return { directory with present := true }
  | some step =>
    let outer ← directory.walk {} path.outer
    directory.accept outer
    if leadsToFolder step then throw .alreadyThere
    let target ← directory.walk outer [step]
    if (directory.at? target).isSome then throw .alreadyThere
    return { directory with entries := Ledger.put directory.entries target.text .folder }

/-- Where a path leads. -/
def target (directory : Directory) (path : Path) : Except FileFault Location :=
  directory.walk {} (path.outer ++ path.last.toList)

/-- The content of a file. -/
def content (directory : Directory) (name : String) : Except FileFault String := do
  let path ← Path.ofText name
  match directory.at? (← directory.target path) with
  | some (.file content) => if path.isClosed then throw .notFolder else return content
  | some .folder => throw .isFolder
  | none => throw .notFound

/-- A text in which every line break is a line feed. -/
def withLineFeeds : List Char → List Char
  | [] => []
  | '\r' :: '\n' :: rest => '\n' :: withLineFeeds rest
  | '\r' :: rest => '\n' :: withLineFeeds rest
  | c :: rest => c :: withLineFeeds rest

/-- The text of a file. -/
def read (directory : Directory) (name : String) : Except FileFault String :=
  (directory.content name).map fun content => String.ofList (withLineFeeds content.toList)

/-- Take a file away. -/
def unlink (directory : Directory) (name : String) : Except FileFault Directory := do
  discard (directory.content name)
  let target ← directory.target (← Path.ofText name)
  return { directory with entries := Ledger.erase directory.entries target.text }

/-- Give a file another name, over another file if there is one. -/
def rename (directory : Directory) (source target : String) : Except FileFault Directory := do
  let content ← directory.content source
  let emptied ← directory.unlink source
  emptied.write target content

/-- The names in the directory, sorted. -/
def names (directory : Directory) : List String :=
  if directory.present then
    ((Ledger.keys directory.entries).filter fun name => !name.toList.contains '/').mergeSort
      fun left right => left ≤ right
  else
    []

/-- Remove the directory with all that is in it. -/
def drop (directory : Directory) : Except FileFault Directory :=
  if directory.present then
    .ok {
      present := false
      entries := directory.entries.filter fun entry => !(Location.ofPath entry.1).isWithin }
  else
    .error .notFound

end Directory

end StageGraph
