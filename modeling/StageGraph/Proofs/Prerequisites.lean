import StageGraph.Proofs.Report
import StageGraph.Proofs.Script.Composition

/-!
# What a valid flow does before it trains

A flow that is reported valid has a stage of every type that one of its stages
needs: data are split where a model is trained, and a model is trained where one
is judged.  The rules look for the type only.  It is the links that decide which
of two stages comes first, so the needed stage is known to run before the other
when links lead from the one to the other, and not otherwise.
-/

namespace StageGraph

open Relation

/-! ## Earlier and later -/

theorem Precedes.trans {stages : List Stage} {first second third : String}
    (one : Precedes stages first second) (two : Precedes stages second third) :
    Precedes stages first third :=
  ⟨one.1.trans two.1, two.2⟩

/-- A part of a list without repeats keeps the order of the whole. -/
theorem idxOf_lt_idxOf_of_sublist {part whole : List String} {first second : String}
    (inWhole : part.Sublist whole) (nodup : whole.Nodup)
    (firstMember : first ∈ part) (secondMember : second ∈ part)
    (forward : whole.idxOf first < whole.idxOf second) :
    part.idxOf first < part.idxOf second := by
  induction inWhole with
  | slnil => cases firstMember
  | cons head inRest induction =>
      obtain ⟨fresh, restNodup⟩ := List.nodup_cons.mp nodup
      have firstOther : head ≠ first := by
        rintro rfl
        exact fresh (inRest.subset firstMember)
      have secondOther : head ≠ second := by
        rintro rfl
        exact fresh (inRest.subset secondMember)
      rw [List.idxOf_cons_ne _ firstOther, List.idxOf_cons_ne _ secondOther] at forward
      exact induction restNodup firstMember secondMember (Nat.lt_of_succ_lt_succ forward)
  | cons_cons head inRest induction =>
      have restNodup := (List.nodup_cons.mp nodup).2
      have secondOther : head ≠ second := by
        rintro rfl
        rw [List.idxOf_cons_self] at forward
        exact Nat.not_lt_zero _ forward
      have secondInRest := List.mem_of_ne_of_mem secondOther.symm secondMember
      rw [List.idxOf_cons_ne _ secondOther] at forward ⊢
      by_cases same : head = first
      · rw [same, List.idxOf_cons_self]
        exact Nat.succ_pos _
      · have firstInRest := List.mem_of_ne_of_mem (Ne.symm same) firstMember
        rw [List.idxOf_cons_ne _ same] at forward ⊢
        apply Nat.succ_lt_succ
        apply induction restNodup firstInRest secondInRest
        exact Nat.lt_of_succ_lt_succ forward

namespace Flow

/-- What leads to an id over any number of arrows stands before it in the order. -/
theorem precedes_order_of_transGen {flow : Flow} (acyclic : flow.Acyclic)
    (nodup : (flow.stages.map Stage.id).Nodup) {first second : String}
    (leads : TransGen flow.Arrow first second) : Precedes flow.order first second := by
  have follows := follows_order acyclic nodup
  induction leads with
  | single arrow => exact follows _ _ arrow
  | tail _ arrow induction => exact induction.trans (follows _ _ arrow)

/-- In every script of the flow one stage comes before another, when both have code
in it. -/
def ScriptsBefore (flow : Flow) (first second : Stage) : Prop :=
  ∀ labels, ∃ script, Script.make Catalog.builtin flow labels = .ok script ∧
    (first.id ∈ Ledger.keys script.bodies → second.id ∈ Ledger.keys script.bodies →
      (Ledger.keys script.bodies).idxOf first.id <
        (Ledger.keys script.bodies).idxOf second.id)

theorem scriptsBefore_of_precedes {flow : Flow}
    (nodup : (flow.stages.map Stage.id).Nodup) {first second : Stage}
    (precedes : Precedes flow.order first.id second.id) :
    flow.ScriptsBefore first second := by
  intro labels
  obtain ⟨script, made⟩ :=
    Script.exists_make_eq_ok Catalog.givesCode_builtin flow labels
  refine ⟨script, made, ?_⟩
  intro firstMember secondMember
  obtain ⟨free, rfl⟩ := Script.make_eq_ok_iff.mp made
  apply idxOf_lt_idxOf_of_sublist (Script.composedOf_ofFlow nodup free).keys
  · exact nodup_map_id_order nodup
  · exact firstMember
  · exact secondMember
  · exact precedes.1

/-! ## Stages that others need -/

/-- A type that a stage needs is there, and what leads to the stage from the stages of
that type makes them run first. -/
structure Prepares (flow : Flow) (needed : String) (stage : Stage) : Prop where
  present : ∃ earlier ∈ flow.order, earlier.type = needed
  before : ∀ earlier ∈ flow.order, earlier.type = needed →
    TransGen flow.Arrow earlier.id stage.id →
      Precedes flow.order earlier.id stage.id ∧ flow.ScriptsBefore earlier stage

theorem Sound.prepares {flow : Flow} (sound : flow.Sound)
    (nodup : (flow.stages.map Stage.id).Nodup) {stage : Stage}
    (member : stage ∈ flow.order) {needed : String}
    (pair : (stage.type, needed) ∈ Catalog.prerequisites) :
    flow.Prepares needed stage := by
  have inStages := flow.order_perm_stages.mem_iff.mp member
  constructor
  · have present : ∃ earlier ∈ flow.stages, earlier.type = needed := by
      simp only [Catalog.prerequisites, List.mem_cons, List.not_mem_nil, or_false,
        Prod.mk.injEq] at pair
      rcases pair with ⟨type, rfl⟩ | ⟨type, rfl⟩
      · exact sound.trainingNeeds ⟨stage, inStages, type⟩
      · exact sound.evaluationNeeds ⟨stage, inStages, type⟩
    obtain ⟨earlier, earlierMember, type⟩ := present
    exact ⟨earlier, flow.order_perm_stages.mem_iff.mpr earlierMember, type⟩
  · intro earlier _ _ leads
    have precedes := precedes_order_of_transGen sound.acyclic nodup leads
    exact ⟨precedes, scriptsBefore_of_precedes nodup precedes⟩

end Flow

namespace Report

/-- In a flow that is reported valid, every stage that needs another type is prepared
by the stages of that type. -/
theorem make_valid_prepares {flow : Flow} (full : flow.HasFullTypes)
    (nodup : (flow.stages.map Stage.id).Nodup) :
    ∃ report, make Catalog.builtin flow = .ok report ∧
      (report.isValid = true →
        ∀ stage ∈ flow.order, ∀ needed, (stage.type, needed) ∈ Catalog.prerequisites →
          flow.Prepares needed stage) := by
  obtain ⟨report, made, sound⟩ := make_isValid_iff_sound full
  refine ⟨report, made, ?_⟩
  intro valid stage member needed pair
  exact (sound.mp valid).prepares nodup member pair

theorem returning_valid_prepares :
    returning.HasFullTypes ∧ (returning.stages.map Stage.id).Nodup ∧
      ∃ report, make Catalog.builtin returning = .ok report ∧ report.isValid = true ∧
        ∃ stage ∈ returning.order, stage.id = "train" ∧
          returning.Prepares TypeName.dataSplit stage := by
  have full : returning.HasFullTypes := by decide
  have nodup : (returning.stages.map Stage.id).Nodup := by decide
  obtain ⟨report, made, prepares⟩ := make_valid_prepares full nodup
  have valid : report.isValid = true := by
    obtain ⟨other, otherMade, sound⟩ := make_isValid_iff_sound full
    obtain rfl : report = other := Except.ok.inj (made.symm.trans otherMade)
    exact sound.mpr returning_sound
  refine ⟨full, nodup, report, made, valid, ?_⟩
  have member : { id := "train", type := TypeName.training } ∈ returning.order :=
    returning.order_perm_stages.mem_iff.mpr (.tail _ (.head _))
  exact ⟨_, member, rfl, prepares valid _ member _ (.head _)⟩

/-- The stages of a flow that splits, trains and judges, the last one first and no
link between them. -/
def unlinked : Flow :=
  { stages := [
      { id := "judge", type := TypeName.evaluation },
      { id := "train", type := TypeName.training },
      { id := "split", type := TypeName.dataSplit }] }

theorem unlinked_sound : unlinked.Sound :=
  { hasData := ⟨_, .tail _ (.tail _ (.head _)), by decide⟩
    acyclic := unlinked.hasCycle_eq_false_iff.mp (by cbv)
    singleIngest := by decide
    singleDataSplit := by decide
    trainingNeeds := fun _ => ⟨_, .tail _ (.tail _ (.head _)), rfl⟩
    evaluationNeeds := fun _ => ⟨_, .tail _ (.head _), rfl⟩
    linksFit := by
      intro link member
      cases member }

/-- The flow is reported valid, and still no data are split before the training, and
no model is trained before the judging. -/
theorem unlinked_valid_unprepared :
    unlinked.HasFullTypes ∧ (unlinked.stages.map Stage.id).Nodup ∧
      (∃ report, make Catalog.builtin unlinked = .ok report ∧ report.isValid = true) ∧
      unlinked.order.map Stage.id = ["judge", "train", "split"] ∧
      (¬ ∃ earlier ∈ unlinked.order, earlier.type = TypeName.dataSplit ∧
        Precedes unlinked.order earlier.id "train") ∧
      ¬ ∃ earlier ∈ unlinked.order, earlier.type = TypeName.training ∧
        Precedes unlinked.order earlier.id "judge" := by
  have full : unlinked.HasFullTypes := by decide
  obtain ⟨report, made, valid⟩ := make_isValid_iff_sound full
  have kept : unlinked.order = unlinked.stages := by cbv
  refine ⟨full, by decide, ⟨report, made, valid.mpr unlinked_sound⟩, ?_⟩
  rw [kept]
  decide

end Report

end StageGraph
