import StageGraph.Notebook
import StageGraph.Proofs.Script.Parts
import StageGraph.Proofs.Text.Pieces

/-!
# Notebooks and scripts hold the same code

The script of a flow and its notebook are put together apart from each other.
`Mirrors` says what they have in common: the imports, and for every stage with a
body, in execution order, a section of the script and two cells of the notebook.
The cells hold their texts line by line.
-/

namespace StageGraph

namespace Cell

/-! ## Texts of cells -/

/-- Every piece but the last is a line with its line feed, and the last one is a
line without. -/
structure Lined (pieces : List String) : Prop where
  ended : ∀ piece ∈ pieces.dropLast, ∃ line, '\n' ∉ line.toList ∧ piece = line ++ "\n"
  last : ∀ piece ∈ pieces.getLast?, '\n' ∉ piece.toList

theorem terminated_eq (lines : List String) :
    sourceLines.terminated lines =
      lines.dropLast.map (· ++ "\n") ++ lines.getLast?.toList := by
  induction lines with
  | nil => rfl
  | cons line rest induction =>
      cases rest with
      | nil => rfl
      | cons next rest => simp [sourceLines.terminated, induction]

theorem join_terminated (lines : List String) :
    String.join (sourceLines.terminated lines) = Text.join "\n" lines := by
  induction lines with
  | nil => rfl
  | cons line rest induction =>
      cases rest with
      | nil => simp [sourceLines.terminated, Text.join]
      | cons next rest => simp [sourceLines.terminated, Text.join, induction]

theorem join_sourceLines (text : String) : String.join (sourceLines text) = text := by
  rw [sourceLines, join_terminated]
  exact Text.join_splitText '\n' text

theorem lined_sourceLines (text : String) : Lined (sourceLines text) := by
  have free : ∀ line ∈ Text.splitText '\n' text, '\n' ∉ line.toList := by
    intro line member
    obtain ⟨piece, pieceMember, rfl⟩ := List.mem_map.mp member
    rw [String.toList_ofList]
    exact Text.not_mem_of_mem_splitAt pieceMember
  have inhabited : Text.splitText '\n' text ≠ [] := by
    simpa [Text.splitText] using Text.splitAt_ne_nil '\n' text.toList
  rw [sourceLines, terminated_eq, List.getLast?_eq_some_getLast inhabited,
    Option.toList_some]
  constructor
  · intro piece member
    rw [List.dropLast_concat] at member
    obtain ⟨line, lineMember, rfl⟩ := List.mem_map.mp member
    exact ⟨line, free line (List.mem_of_mem_dropLast lineMember), rfl⟩
  · intro piece member
    rw [List.getLast?_concat] at member
    cases member
    exact free _ (List.getLast_mem inhabited)

theorem lined_ofProse (text : String) : Lined (ofProse text).source :=
  lined_sourceLines text

theorem lined_ofCode (text : String) : Lined (ofCode text).source :=
  lined_sourceLines text

end Cell

/-- What stands above a body in a script. -/
def Script.sectionHead (catalog : Catalog) (labels : Bool) (stage : Stage) : String :=
  if labels then labelLine (catalog.labelOf stage).display ++ "\n" else ""

namespace Notebook

/-- The text above the code of the stage with this number. -/
def headingText (catalog : Catalog) (number : Nat) (stage : Stage) : String :=
  "## " ++ toString number ++ ". " ++ (catalog.labelOf stage).display ++ "\n\n" ++
    "Category: " ++
      (if catalog.categoryOf stage = "" then "unknown" else catalog.categoryOf stage)

/-- The stages whose bodies the script has, in execution order. -/
def bearers (flow : Flow) (script : Script) : List Stage :=
  flow.order.filter fun stage => Ledger.has script.bodies stage.id

/-- What script and notebook have of the stage with this place among the bearers:
a section in the one, a heading and the code in the other. -/
structure MirrorsStage (catalog : Catalog) (labels : Bool) (script : Script)
    (sections : List String) (notebook : Notebook) (place : Nat) (stage : Stage)
    (body : String) : Prop where
  entry : script.bodies[place]? = some (stage.id, body)
  part : sections[place]? = some (Script.sectionHead catalog labels stage ++ body)
  heading : ∃ pieces, notebook.cells[2 * (place + 1)]? = some (.prose pieces) ∧
    String.join pieces = headingText catalog (place + 1) stage
  code : ∃ pieces, notebook.cells[2 * (place + 1) + 1]? = some (.code pieces) ∧
    String.join pieces = body

/-- The notebook of a flow shows what its script holds. -/
structure Mirrors (catalog : Catalog) (flow : Flow) (labels : Bool) (script : Script)
    (notebook : Notebook) : Prop where
  count : notebook.cells.length = 2 + 2 * script.bodies.length
  imports : ∃ pieces, notebook.cells[1]? = some (.code pieces) ∧
    String.join pieces =
      Text.join "\n" ("# Import required libraries" :: script.imports)
  keys : (bearers flow script).map Stage.id = Ledger.keys script.bodies
  stages : ∃ sections, sections.length = script.bodies.length ∧
    (flow.stages ≠ [] → script.source = Script.assemble script.imports sections) ∧
    ∀ place stage, (bearers flow script)[place]? = some stage →
      ∃ body, MirrorsStage catalog labels script sections notebook place stage body
  lined : ∀ cell ∈ notebook.cells, Cell.Lined cell.source

variable {catalog : Catalog} {flow : Flow} {labels : Bool} {bodies : Ledger String}

/-! ## The cells of the stages -/

/-- The stages under whose ids some bodies stand, with these bodies. -/
def withBodies (bodies : Ledger String) (stages : List Stage) : List (Stage × String) :=
  stages.filterMap fun stage => (Ledger.get? bodies stage.id).map fun body => (stage, body)

theorem withBodies_cons_of_some {stage : Stage} {body : String} (rest : List Stage)
    (found : Ledger.get? bodies stage.id = some body) :
    withBodies bodies (stage :: rest) = (stage, body) :: withBodies bodies rest := by
  simp [withBodies, found]

theorem withBodies_cons_of_none {stage : Stage} (rest : List Stage)
    (missing : Ledger.get? bodies stage.id = none) :
    withBodies bodies (stage :: rest) = withBodies bodies rest := by
  simp [withBodies, missing]

theorem length_stageCells (number : Nat) (stages : List Stage) :
    (stageCells catalog bodies number stages).length =
      2 * (withBodies bodies stages).length := by
  induction stages generalizing number with
  | nil => rfl
  | cons stage rest induction =>
      unfold stageCells
      split
      · rename_i body found
        rw [withBodies_cons_of_some rest found]
        simp only [List.length_cons, induction]
        omega
      · rename_i missing
        rw [withBodies_cons_of_none rest missing, induction]

theorem getElem?_stageCells (catalog : Catalog) {stages : List Stage} {place : Nat}
    {stage : Stage} {body : String} (number : Nat)
    (found : (withBodies bodies stages)[place]? = some (stage, body)) :
    (stageCells catalog bodies number stages)[2 * place]? =
        some (headingCell catalog (number + place) stage) ∧
      (stageCells catalog bodies number stages)[2 * place + 1]? =
        some (Cell.ofCode body) := by
  induction stages generalizing number place with
  | nil => cases found
  | cons head rest induction =>
      unfold stageCells
      split
      · rename_i headBody headFound
        rw [withBodies_cons_of_some rest headFound] at found
        cases place with
        | zero =>
            cases found
            exact ⟨rfl, rfl⟩
        | succ place =>
            have shifted : number + (place + 1) = number + 1 + place := by omega
            rw [shifted]
            exact induction (number + 1) found
      · rename_i missing
        rw [withBodies_cons_of_none rest missing] at found
        exact induction number found

/-! ## The bodies of a script -/

theorem bearers_eq_map_withBodies (flow : Flow) (script : Script) :
    bearers flow script = (withBodies script.bodies flow.order).map Prod.fst := by
  unfold bearers withBodies
  induction flow.order with
  | nil => rfl
  | cons stage rest induction =>
      cases found : Ledger.get? script.bodies stage.id with
      | none => simpa [Ledger.has, found] using induction
      | some body => simpa [Ledger.has, found] using induction

theorem withBodies_order (nodup : (flow.stages.map Stage.id).Nodup) :
    withBodies (Script.ofFlow catalog flow labels).bodies flow.order =
      flow.order.filterMap fun stage =>
        (Script.bodyOf? catalog stage).map fun body => (stage, body) := by
  apply List.filterMap_congr
  intro stage member
  rw [Script.get?_bodies_ofFlow nodup (flow.order_perm_stages.mem_iff.mp member)]

/-- With ids that do not repeat, the bodies of the script are those of its
bearers. -/
theorem bodies_eq_map_withBodies (catalog : Catalog) (labels : Bool)
    (nodup : (flow.stages.map Stage.id).Nodup) :
    (Script.ofFlow catalog flow labels).bodies =
      (withBodies (Script.ofFlow catalog flow labels).bodies flow.order).map
        fun entry => (entry.1.id, entry.2) := by
  rw [withBodies_order nodup, Script.bodies_ofFlow nodup, List.map_filterMap]
  apply List.filterMap_congr
  intro stage _
  cases found : Script.bodyOf? catalog stage <;> simp [Script.placedBody?, found]

end Notebook

namespace Script

variable {catalog : Catalog} {flow : Flow} {labels : Bool}

theorem sections_ofFlow (catalog : Catalog) (flow : Flow) (labels : Bool) :
    (bodied (blocks catalog flow)).map (sectionText catalog labels) =
      (flow.order.filterMap fun stage =>
        (bodyOf? catalog stage).map fun body => (stage, body)).map
          fun entry => sectionHead catalog labels entry.1 ++ entry.2 := by
  unfold bodied blocks
  induction flow.order with
  | nil => rfl
  | cons stage rest induction =>
      cases found : block? catalog stage with
      | none => simpa [found, bodyOf?] using induction
      | some block =>
          by_cases empty : block.body = []
          · simpa [found, bodyOf?, empty] using induction
          · have same : sectionText catalog labels (stage, block) =
                sectionHead catalog labels stage ++ block.bodyText := by
              cases labels <;> simp [sectionText, sectionHead]
            simpa [found, bodyOf?, empty, same] using induction

theorem bodies_ofFlow_labels (catalog : Catalog) (flow : Flow) (labels : Bool) :
    (ofFlow catalog flow labels).bodies = (ofFlow catalog flow).bodies := by
  unfold ofFlow
  split <;> rfl

theorem imports_ofFlow_labels (catalog : Catalog) (flow : Flow) (labels : Bool) :
    (ofFlow catalog flow labels).imports = (ofFlow catalog flow).imports := by
  unfold ofFlow
  split <;> rfl

end Script

namespace Notebook

variable {catalog : Catalog} {flow : Flow} {labels : Bool}

theorem join_headingCell (catalog : Catalog) (number : Nat) (stage : Stage) :
    ∃ pieces, headingCell catalog number stage = .prose pieces ∧
      String.join pieces = headingText catalog number stage :=
  ⟨_, rfl, Cell.join_sourceLines _⟩

theorem lined_of_mem_stageCells {bodies : Ledger String} {number : Nat}
    {stages : List Stage} {cell : Cell}
    (member : cell ∈ stageCells catalog bodies number stages) :
    Cell.Lined cell.source := by
  induction stages generalizing number with
  | nil => cases member
  | cons stage rest induction =>
      unfold stageCells at member
      split at member
      · rcases List.mem_cons.mp member with rfl | member
        · exact Cell.lined_ofProse _
        · rcases List.mem_cons.mp member with rfl | member
          · exact Cell.lined_ofCode _
          · exact induction member
      · exact induction member

theorem cells_ofFlow (catalog : Catalog) (flow : Flow) (labels : Bool)
    (name : Option String) (time : Civil) :
    (ofFlow catalog flow name time).cells =
      titleCell name time ::
        importsCell (Script.ofFlow catalog flow labels).imports ::
        stageCells catalog (Script.ofFlow catalog flow labels).bodies 1 flow.order := by
  rw [Script.bodies_ofFlow_labels, Script.imports_ofFlow_labels]
  rfl

/-- The sections of a script stand in the order of its bearers. -/
theorem source_ofFlow (catalog : Catalog) (labels : Bool)
    (nodup : (flow.stages.map Stage.id).Nodup)
    (inhabited : flow.stages ≠ []) :
    (Script.ofFlow catalog flow labels).source =
      Script.assemble (Script.ofFlow catalog flow labels).imports
        ((withBodies (Script.ofFlow catalog flow labels).bodies flow.order).map
          fun entry => Script.sectionHead catalog labels entry.1 ++ entry.2) := by
  have notEmpty : flow.stages.isEmpty = false := by simpa using inhabited
  rw [withBodies_order nodup, ← Script.sections_ofFlow]
  simp [Script.ofFlow, notEmpty]

theorem mirrors_ofFlow (nodup : (flow.stages.map Stage.id).Nodup)
    (name : Option String) (time : Civil) :
    Mirrors catalog flow labels (Script.ofFlow catalog flow labels)
      (ofFlow catalog flow name time) := by
  have cells := cells_ofFlow catalog flow labels name time
  have bodies := bodies_eq_map_withBodies catalog labels nodup
  have bearersPlaced := bearers_eq_map_withBodies flow (Script.ofFlow catalog flow labels)
  have source := source_ofFlow catalog labels nodup
  -- From here on only the stages with their bodies matter, not how they were found.
  generalize Script.ofFlow catalog flow labels = script at *
  generalize placedEq : withBodies script.bodies flow.order = placed at *
  have sameLength : placed.length = script.bodies.length := by simp [bodies]
  constructor
  · rw [cells, List.length_cons, List.length_cons, length_stageCells, placedEq, sameLength]
    omega
  · exact ⟨_, congrArg (·[1]?) cells, Cell.join_sourceLines _⟩
  · simp [bearersPlaced, bodies, Ledger.keys]
  · refine ⟨_, by rw [List.length_map, sameLength], source, ?_⟩
    intro place stage bearer
    rw [bearersPlaced, List.getElem?_map] at bearer
    obtain ⟨⟨stage, body⟩, found, rfl⟩ := Option.map_eq_some_iff.mp bearer
    rw [← placedEq] at found
    obtain ⟨heading, code⟩ := getElem?_stageCells catalog 1 found
    rw [placedEq] at found
    obtain ⟨pieces, prose, text⟩ := join_headingCell catalog (place + 1) stage
    refine ⟨body, ?_, ?_, ⟨pieces, ?_, text⟩, ⟨_, ?_, Cell.join_sourceLines body⟩⟩
    · simp [bodies, found]
    · simp [found]
    · rw [cells, ← prose, Nat.add_comm place 1, ← heading, Nat.add_comm 1 place]
      rfl
    · rw [cells]
      exact code
  · intro cell member
    rw [cells] at member
    rcases List.mem_cons.mp member with rfl | member
    · exact Cell.lined_ofProse _
    · rcases List.mem_cons.mp member with rfl | member
      · exact Cell.lined_ofCode _
      · exact lined_of_mem_stageCells member

/-! ## Notebooks that are made -/

/-- Data that are loaded in a cycle with a stage of an unknown type, and then
explored. -/
def circling : Flow :=
  { stages := [
      { id := "explore", type := TypeName.exploration },
      { id := "other", type := "unknown" },
      { id := "load", type := TypeName.ingest }]
    links := [
      Link.make "" "load" "other", Link.make "" "other" "load",
      Link.make "" "load" "explore"] }

end Notebook

end StageGraph
