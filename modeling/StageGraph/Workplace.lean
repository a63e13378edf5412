import StageGraph.Location
import StageGraph.Store.Directory

/-!
# The working directory

Which files and folders are made while the service starts, most of them below the
directory that it works in.  What is made outside of it is known here as well and
is not shown.
-/

namespace StageGraph

/-- What has been made, under the path of its location. -/
structure Workplace where
  made : Ledger Entry := []
  deriving DecidableEq, Repr

namespace Workplace

/-- The folders that every file system has at its root. -/
def rootFolders : List String :=
  [ "bin", "boot", "dev", "etc", "home", "lib", "media", "mnt", "opt", "proc", "root", "run",
    "sbin", "srv", "sys", "tmp", "usr", "var"]

/-- The device that takes all that is written to it. -/
def nullDevice : String :=
  "/dev/null"

/-- What stands at a location before anything is made. -/
def standing? (location : Location) : Option Entry :=
  match location.name? with
  | none => some .folder
  | some name =>
    if location.text = nullDevice then some (.file "")
    else if location.absolute && location.outer.reversed.isEmpty && rootFolders.contains name then
      some .folder
    else
      none

/-- What stands at a location. -/
def entry? (workplace : Workplace) (location : Location) : Option Entry :=
  (Ledger.get? workplace.made location.text).orElse fun _ => standing? location

/-- Whether something can stand under a name in what is at a location. -/
def accept (workplace : Workplace) (location : Location) (name : String) :
    Except FileFault Unit :=
  if name.toList.contains '\x00' then .error .embeddedNull
  else
    match workplace.entry? location with
    | none => .error .notFound
    | some (.file _) => .error .notFolder
    | some .folder =>
      if Directory.nameLimit < name.utf8ByteSize then .error .nameTooLong else .ok ()

/-- Take a step, and make the folder that it leads to unless something stands there. -/
def enter (workplace : Workplace) (location : Location) (name : String) :
    Except FileFault (Location × Workplace) := do
  workplace.accept location name
  let inner := location.step name
  match workplace.entry? inner with
  | some _ => return (inner, workplace)
  | none => return (inner, { made := Ledger.put workplace.made inner.text .folder })

/-- Follow steps, and make the folders on the way; what is made before a fault stays. -/
def follow (workplace : Workplace) (location : Location) :
    List String → Except FileFault Location × Workplace
  | [] => (.ok location, workplace)
  | name :: rest =>
    match workplace.enter location name with
    | .ok (inner, workplace) => follow workplace inner rest
    | .error fault => (.error fault, workplace)

/-- Make the folders of a path; what is made before a fault stays. -/
def makeFolders (workplace : Workplace) (path : String) : Except FileFault Unit × Workplace :=
  match workplace.follow (Location.start path) (Location.steps path) with
  | (.ok location, workplace) =>
    match workplace.entry? location with
    | some (.file _) => (.error .alreadyThere, workplace)
    | _ => (.ok (), workplace)
  | (.error fault, workplace) => (.error fault, workplace)

/-- Open a file for writing; the folder that it is in has to be there. -/
def openFile (workplace : Workplace) (target : Location) : Except FileFault Workplace :=
  match target.name? with
  | none => .error .isFolder
  | some name => do
    workplace.accept target.outer name
    match workplace.entry? target with
    | some .folder => .error .isFolder
    | some (.file _) => return workplace
    | none => return { made := Ledger.put workplace.made target.text (.file "") }

/-- Move a file to its first backup and begin it anew, where a backup can be. -/
def backUp (workplace : Workplace) (target : Location) : Workplace :=
  match Ledger.get? workplace.made target.text, target.name? with
  | some (.file _), some name =>
    (workplace.openFile (target.outer.step (name ++ ".1"))).toOption.getD workplace
  | _, _ => workplace

/-- Whether steps lead to a folder, through folders that are there. -/
def leadsToFolder (workplace : Workplace) (location : Location) : List String → Bool
  | [] => workplace.entry? location = some .folder
  | name :: rest =>
    workplace.entry? location = some .folder &&
      leadsToFolder workplace (location.step name) rest

/-- Whether a path leads to a folder. -/
def isFolder (workplace : Workplace) (path : String) : Bool :=
  workplace.leadsToFolder (Location.start path) (Location.steps path)

/-- Everything that has been made in the working directory, sorted by path. -/
def paths (workplace : Workplace) : List String :=
  ((Ledger.keys workplace.made).filter fun path => (Location.ofPath path).isWithin).mergeSort
    fun left right => left ≤ right

end Workplace

end StageGraph
