import StageGraph.Text.Blank

/-!
# Locations

A path names a location by steps from the working directory or from the root of
the file system.  The way back cancels the step before it, so a location is a
list of names; only a location outside of the working directory begins with ways
back.
-/

namespace StageGraph

/-- A place in the file system. -/
structure Location where
  /-- Whether the steps start at the root. -/
  absolute : Bool := false
  /-- The steps, from the last to the first. -/
  reversed : List String := []
  deriving DecidableEq, Repr

namespace Location

/-- The step that leads one folder back. -/
def back : String :=
  ".."

/-- The steps of a path: names, and ways back. -/
def steps (path : String) : List String :=
  (Text.splitText '/' path).filter fun step => step ≠ "" && step ≠ "."

/-- Whether a path starts at the root. -/
def isAbsolute (path : String) : Bool :=
  path.toList.head? = some '/'

/-- Where a path starts. -/
def start (path : String) : Location :=
  { absolute := isAbsolute path }

/-- Take a step. -/
def step (location : Location) (name : String) : Location :=
  { location with
    reversed :=
      if name = back then
        match location.reversed with
        | [] => if location.absolute then [] else [back]
        | last :: outer => if last = back then back :: last :: outer else outer
      else
        name :: location.reversed }

/-- The location that a path names. -/
def ofPath (path : String) : Location :=
  (steps path).foldl step (start path)

/-- The location without its last step. -/
def outer (location : Location) : Location :=
  { location with reversed := location.reversed.tail }

/-- The name at the end of a location; none where it is the start or a way back from it. -/
def name? (location : Location) : Option String :=
  location.reversed.head?.filter (· ≠ back)

/-- The path of a location. -/
def text (location : Location) : String :=
  (if location.absolute then "/" else "") ++ Text.join "/" location.reversed.reverse

/-- Whether a location lies in the working directory. -/
def isWithin (location : Location) : Bool :=
  !location.absolute && location.reversed.getLast? ≠ some back

/-- The path that components lead to from the working directory; one that starts at the root
begins anew. -/
def join (components : List String) : String :=
  components.foldl (fun path name => if isAbsolute name then name else path ++ "/" ++ name) "."

/-- The part of a path before its last slash. -/
def folderPart (path : String) : String :=
  String.ofList (path.toList.reverse.dropWhile (· ≠ '/')).reverse

/-- The path without its last step. -/
def parent (path : String) : String :=
  (if isAbsolute path then "/" else "") ++ Text.join "/" (steps path).dropLast

end Location

end StageGraph
