import StageGraph.Script
import StageGraph.Proofs.Block
import StageGraph.Proofs.Catalog
import StageGraph.Proofs.Distinct
import StageGraph.Proofs.Graph.ExecutionOrder

/-!
# What each stage brings to a script

The imports and the bodies of a script are put together from what every stage
brings by itself: `importsIn` and `bodyOf?` depend on the stage and the catalog
only.  The order of the flow decides where they stand, and with ids that do not
repeat no stage writes over the body of another.
-/

namespace StageGraph

/-- The flow of a stage by itself. -/
def Flow.single (stage : Stage) : Flow :=
  { stages := [stage] }

@[simp] theorem Flow.order_single (stage : Stage) :
    (Flow.single stage).order = [stage] :=
  List.perm_singleton.mp (order_perm_stages _)

namespace Script

/-- The script of a stage by itself. -/
def alone (catalog : Catalog) (labels : Bool) (stage : Stage) : Script :=
  ofFlow catalog (Flow.single stage) labels

variable {catalog : Catalog} {flow : Flow} {labels : Bool} {stage : Stage}

/-! ## Obstacles -/

/-- Only the stages by themselves can stand in the way of a script. -/
theorem obstacle?_eq_none_iff : obstacle? catalog flow = none ↔
    ∀ stage ∈ flow.stages, obstacle?.givesNoCode catalog stage = false := by
  unfold obstacle?
  split
  · rename_i blocked
    obtain ⟨stage, member, gives⟩ := List.any_eq_true.mp blocked
    simp only [reduceCtorEq, false_iff, not_forall]
    exact ⟨stage, flow.order_perm_stages.mem_iff.mp member, by simp [gives]⟩
  · rename_i free
    simp only [true_iff]
    intro stage member
    have inOrder := flow.order_perm_stages.mem_iff.mpr member
    simpa using List.any_eq_false.mp (Bool.not_eq_true _ ▸ free) stage inOrder

theorem givesNoCode_eq_true_iff : obstacle?.givesNoCode catalog stage = true ↔
    ∃ kind value, catalog.lookup stage.type = some kind ∧
      kind.render stage.configuration = .error (.notCode value) ∧
      value.truthy = true := by
  unfold obstacle?.givesNoCode
  cases found : catalog.lookup stage.type with
  | none => simp
  | some kind =>
      simp only [Option.some.injEq, exists_and_left, exists_eq_left']
      split
      · rename_i value given
        simp [given]
      · rename_i otherwise
        simp only [Bool.false_eq_true, false_iff, not_exists, not_and]
        intro value given
        exact (otherwise value given).elim

theorem obstacle?_eq_none (givesCode : catalog.GivesCode) (flow : Flow) :
    obstacle? catalog flow = none := by
  apply obstacle?_eq_none_iff.mpr
  intro stage _
  apply Bool.eq_false_iff.mpr
  intro gives
  obtain ⟨kind, value, found, given, truthy⟩ := givesNoCode_eq_true_iff.mp gives
  have inCatalog : kind ∈ Ledger.values catalog.kinds :=
    List.mem_map.mpr ⟨_, Ledger.mem_of_get?_eq_some found, rfl⟩
  obtain ⟨config, instead⟩ := Kind.exists_template_eq_notCode given
  rw [givesCode kind inCatalog config value instead] at truthy
  cases truthy

theorem make_eq_ok_iff {script : Script} : make catalog flow labels = .ok script ↔
    obstacle? catalog flow = none ∧ ofFlow catalog flow labels = script := by
  unfold make Obstacle.pass
  cases obstacle? catalog flow <;> simp

theorem exists_make_eq_ok (givesCode : catalog.GivesCode) (flow : Flow)
    (labels : Bool) : ∃ script, make catalog flow labels = .ok script :=
  ⟨_, make_eq_ok_iff.mpr ⟨obstacle?_eq_none givesCode flow, rfl⟩⟩

/-- A flow that has a script has one for each of its stages. -/
theorem make_single {script : Script} (made : make catalog flow labels = .ok script)
    (member : stage ∈ flow.stages) :
    make catalog (Flow.single stage) labels = .ok (alone catalog labels stage) := by
  have free := obstacle?_eq_none_iff.mp (make_eq_ok_iff.mp made).1
  refine make_eq_ok_iff.mpr ⟨obstacle?_eq_none_iff.mpr ?_, rfl⟩
  intro other otherMember
  obtain rfl := List.mem_singleton.mp otherMember
  exact free other member

/-! ## Blocks -/

theorem block?_eq_some_iff {block : Block} : block? catalog stage = some block ↔
    ∃ kind text, catalog.lookup stage.type = some kind ∧
      kind.render stage.configuration = .ok text ∧ Block.ofText text = block := by
  unfold block?
  cases catalog.lookup stage.type with
  | none => simp
  | some kind => cases rendered : kind.render stage.configuration <;> simp [rendered]

theorem mem_bodied_blocks {block : Block} :
    (stage, block) ∈ bodied (blocks catalog flow) ↔
      stage ∈ flow.stages ∧ block? catalog stage = some block ∧ block.body ≠ [] := by
  simp [bodied, blocks, flow.order_perm_stages.mem_iff, and_assoc]

/-- The import lines that a stage brings. -/
def importsIn (catalog : Catalog) (stage : Stage) : List String :=
  match block? catalog stage with
  | none => []
  | some block => block.importTexts

/-- The body that a stage brings, when something is left of its code. -/
def bodyOf? (catalog : Catalog) (stage : Stage) : Option String :=
  match block? catalog stage with
  | none => none
  | some block => if block.body.isEmpty then none else some block.bodyText

theorem bodyOf?_eq_some_iff {body : String} : bodyOf? catalog stage = some body ↔
    ∃ block, block? catalog stage = some block ∧ block.body ≠ [] ∧
      block.bodyText = body := by
  unfold bodyOf?
  cases block? catalog stage with
  | none => simp
  | some block => simp

/-- No import stays in a body. -/
theorem not_isImport_of_mem_body {body : String} {line : List Char}
    (brings : bodyOf? catalog stage = some body)
    (member : line ∈ Text.lines body.toList) : Line.isImport line = false := by
  obtain ⟨block, found, _, rfl⟩ := bodyOf?_eq_some_iff.mp brings
  obtain ⟨kind, text, _, _, rfl⟩ := block?_eq_some_iff.mp found
  rw [Block.lines_bodyText] at member
  exact (Block.mem_of_mem_body member).2

/-- The imports that a stage brings are imports, and each is one line. -/
theorem of_mem_importsIn {line : String} (brought : line ∈ importsIn catalog stage) :
    Line.isImport line.toList = true ∧ Text.Unbroken line.toList := by
  unfold importsIn at brought
  split at brought
  · cases brought
  · rename_i block found
    obtain ⟨kind, text, _, _, rfl⟩ := block?_eq_some_iff.mp found
    obtain ⟨part, partMember, rfl⟩ := List.mem_map.mp brought
    obtain ⟨trimmed, imported⟩ := Block.mem_imports.mp partMember
    rw [String.toList_ofList]
    exact ⟨imported, Block.unbroken_of_mem_trimmedLines trimmed⟩

/-- A body under the id of its stage. -/
def placedBody? (catalog : Catalog) (stage : Stage) : Option (String × String) :=
  (bodyOf? catalog stage).map fun body => (stage.id, body)

theorem importsOf_blocks : importsOf (blocks catalog flow) =
    distinct (flow.order.flatMap (importsIn catalog)) := by
  unfold importsOf blocks
  congr 1
  induction flow.order with
  | nil => rfl
  | cons stage rest induction =>
      cases found : block? catalog stage with
      | none => simpa [found, importsIn] using induction
      | some block => simpa [found, importsIn] using induction

theorem bodiesOf_blocks : bodiesOf (blocks catalog flow) =
    Ledger.putAll [] (flow.order.filterMap (placedBody? catalog)) := by
  unfold bodiesOf blocks bodied
  congr 1
  induction flow.order with
  | nil => rfl
  | cons stage rest induction =>
      cases found : block? catalog stage with
      | none => simpa [found, placedBody?, bodyOf?] using induction
      | some block =>
          by_cases empty : block.body = [] <;>
            simpa [found, placedBody?, bodyOf?, empty] using induction

/-! ## The parts of a script -/

theorem imports_ofFlow : (ofFlow catalog flow labels).imports =
    distinct (flow.order.flatMap (importsIn catalog)) := by
  unfold ofFlow
  split
  · rename_i none
    simp [Flow.order_eq_nil (List.isEmpty_iff.mp none), distinct]
  · exact importsOf_blocks

theorem imports_alone :
    (alone catalog labels stage).imports = distinct (importsIn catalog stage) := by
  simp [alone, imports_ofFlow]

theorem keys_placedBodies_sublist (stages : List Stage) :
    (Ledger.keys (stages.filterMap (placedBody? catalog))).Sublist
      (stages.map Stage.id) := by
  induction stages with
  | nil => exact .slnil
  | cons stage rest induction =>
      cases found : bodyOf? catalog stage with
      | none => simpa [placedBody?, found] using induction.cons stage.id
      | some body => simpa [placedBody?, found, Ledger.keys] using induction

/-- With ids that do not repeat, the bodies stand in the order of the stages. -/
theorem bodies_ofFlow (nodup : (flow.stages.map Stage.id).Nodup) :
    (ofFlow catalog flow labels).bodies =
      flow.order.filterMap (placedBody? catalog) := by
  unfold ofFlow
  split
  · rename_i none
    simp [Flow.order_eq_nil (List.isEmpty_iff.mp none)]
  · have keysNodup :
        (Ledger.keys (flow.order.filterMap (placedBody? catalog))).Nodup :=
      (Flow.nodup_map_id_order nodup).sublist (keys_placedBodies_sublist flow.order)
    refine bodiesOf_blocks.trans (Ledger.putAll_of_nodup ?_)
    simpa [Ledger.keys] using keysNodup

/-- Under the id of a stage stands what the stage brings, and nothing when it
brings none. -/
theorem get?_bodies_ofFlow (nodup : (flow.stages.map Stage.id).Nodup)
    (member : stage ∈ flow.stages) :
    Ledger.get? (ofFlow catalog flow labels).bodies stage.id =
      bodyOf? catalog stage := by
  have inOrder := flow.order_perm_stages.mem_iff.mpr member
  have orderNodup := Flow.nodup_map_id_order nodup
  rw [bodies_ofFlow nodup]
  cases found : bodyOf? catalog stage with
  | some body =>
      apply Ledger.get?_eq_some_of_mem
      · exact orderNodup.sublist (keys_placedBodies_sublist flow.order)
      · exact List.mem_filterMap.mpr ⟨stage, inOrder, by simp [placedBody?, found]⟩
  | none =>
      apply Ledger.get?_eq_none_iff.mpr
      intro key
      obtain ⟨entry, entryMember, sameKey⟩ := List.mem_map.mp key
      obtain ⟨other, otherMember, otherFound⟩ := List.mem_filterMap.mp entryMember
      obtain ⟨body, otherBody, rfl⟩ := Option.map_eq_some_iff.mp otherFound
      -- The key belongs to one stage only, and this one brings no body.
      have same := List.inj_on_of_nodup_map orderNodup otherMember inOrder sameKey
      rw [same, found] at otherBody
      cases otherBody

theorem get?_bodies_alone :
    Ledger.get? (alone catalog labels stage).bodies stage.id =
      bodyOf? catalog stage :=
  get?_bodies_ofFlow (List.nodup_singleton _) List.mem_cons_self

end Script

end StageGraph
