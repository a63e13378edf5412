import StageGraph.Proofs.Ledger
import StageGraph.Proofs.Text.Pieces
import StageGraph.Store.Directory

/-!
# Files in a directory

A simple name leads to a place in the directory itself, with no folder on the way.
Under such names a directory that is there behaves like a ledger of files: writing
puts an entry, reading looks it up, and unlinking erases it.  Only a name that is
too long cannot be written.
-/

namespace StageGraph

namespace Directory

/-- The name stands for a place in the directory itself, whatever its length. -/
structure IsSimple (name : String) : Prop where
  inhabited : name ≠ ""
  leads : leadsToFolder name = false
  noSlash : '/' ∉ name.toList
  noNull : '\x00' ∉ name.toList

/-- The place in the directory that a name stands for. -/
def place (name : String) : Location :=
  { reversed := [name] }

variable {directory : Directory} {name content : String}

namespace IsSimple

theorem path_eq (simple : IsSimple name) :
    Path.ofText name = .ok { outer := [], last := some name, isClosed := false } := by
  have steps : (Text.splitText '/' name).filter (· ≠ "") = [name] := by
    rw [Text.splitText, Text.splitAt_eq_singleton simple.noSlash]
    simp [simple.inhabited]
  have notClosed : decide (name.toList.getLast? = some '/') = false :=
    decide_eq_false fun last => simple.noSlash (List.mem_of_getLast? last)
  have noNull : name.toList.contains '\x00' = false := by
    simpa using simple.noNull
  simp only [Path.ofText, steps, noNull, notClosed, Bool.false_eq_true, if_false]
  rfl

theorem ne_steps (simple : IsSimple name) : name ≠ here ∧ name ≠ Location.back := by
  simpa [leadsToFolder] using simple.leads

theorem follow_eq (simple : IsSimple name) : follow {} name = place name := by
  obtain ⟨notHere, notBack⟩ := simple.ne_steps
  simp [follow, notHere, Location.step, notBack, place]

theorem at?_place (simple : IsSimple name) (directory : Directory) :
    directory.at? (place name) = Ledger.get? directory.entries name := by
  have named : (place name).name? = some name := by
    simp [place, Location.name?, simple.ne_steps.2]
  have text : (place name).text = name := by
    simp [place, Location.text, Text.join]
  rw [at?, named, text]

end IsSimple

@[simp] theorem text_place (name : String) : (place name).text = name := by
  simp [place, Location.text, Text.join]

theorem walk_nil (location : Location) : directory.walk location [] = .ok location := by
  rw [walk]

theorem accept_start (present : directory.present = true) :
    directory.accept {} = .ok () := by
  simp [accept, at?, Location.name?, present]

theorem walk_name (present : directory.present = true) (simple : IsSimple name)
    (short : name.utf8ByteSize ≤ nameLimit) :
    directory.walk {} [name] = .ok (place name) := by
  have fits : ¬ nameLimit < name.utf8ByteSize := Nat.not_lt.mpr short
  simp [walk, accept_start present, fits, simple.follow_eq, bind, Except.bind]

theorem entry?_eq (present : directory.present = true)
    (short : name.utf8ByteSize ≤ nameLimit) :
    directory.entry? name = Ledger.get? directory.entries name := by
  simp [Directory.entry?, present, short]

theorem entry?_eq_none (absent : Ledger.get? directory.entries name = none) :
    directory.entry? name = none := by
  simp [Directory.entry?, absent]

theorem write_eq (present : directory.present = true) (simple : IsSimple name)
    (short : name.utf8ByteSize ≤ nameLimit)
    (noFolder : Ledger.get? directory.entries name ≠ some .folder) (content : String) :
    directory.write name content =
      .ok { directory with entries := Ledger.put directory.entries name (.file content) } := by
  have target := walk_name present simple short
  simp [write, simple.path_eq, walk_nil, accept_start present, simple.leads, target,
    simple.at?_place, noFolder, bind, Except.bind, pure, Except.pure]

/-- Nothing can be written under a name that is too long. -/
theorem write_of_long (present : directory.present = true) (simple : IsSimple name)
    (long : nameLimit < name.utf8ByteSize) (content : String) :
    directory.write name content = .error .nameTooLong := by
  simp [write, simple.path_eq, walk, accept_start present, simple.leads, long, bind,
    Except.bind, throw, throwThe, MonadExceptOf.throw]

section

variable (present : directory.present = true) (simple : IsSimple name)
  (short : name.utf8ByteSize ≤ nameLimit)
  (found : Ledger.get? directory.entries name = some (.file content))

include present simple short found

theorem content_eq : directory.content name = .ok content := by
  have target := walk_name present simple short
  simp [Directory.content, simple.path_eq, Directory.target, target, simple.at?_place, found,
    bind, Except.bind, pure, Except.pure]

theorem read_eq :
    directory.read name = .ok (String.ofList (withLineFeeds content.toList)) := by
  rw [read, content_eq present simple short found]
  rfl

theorem unlink_eq :
    directory.unlink name =
      .ok { directory with entries := Ledger.erase directory.entries name } := by
  have target := walk_name present simple short
  simp [unlink, content_eq present simple short found, simple.path_eq, Directory.target,
    target, bind, Except.bind, pure, Except.pure, discard, Functor.mapConst, Except.map]

end

theorem withLineFeeds_eq_self {cs : List Char} (absent : '\r' ∉ cs) :
    withLineFeeds cs = cs := by
  fun_induction withLineFeeds cs with
  | case1 => rfl
  | case2 rest induction => simp at absent
  | case3 rest _ induction => simp at absent
  | case4 c rest _ _ induction =>
      rw [induction fun member => absent (List.mem_cons_of_mem _ member)]

end Directory

end StageGraph
