import StageGraph.Proofs.Connection
import StageGraph.Proofs.Gate.Testing
import StageGraph.Proofs.Graph.CycleSearch
import StageGraph.Proofs.Reading
import StageGraph.Proofs.Structure
import StageGraph.Report

/-!
# When a flow is reported valid

A report has an error only for the reasons that `Flow.Sound` lists: no stage of
the data phase, a cycle, a second stage of a type that admits one, a stage whose
type needs another type, and a link with a missing end or between types that do
not follow each other.  Under the built-in catalog nothing else is an error, and
nothing keeps the report from being made.
-/

namespace StageGraph

namespace Report

/-! ## What is found -/

theorem flatten_values_put_perm {α : Type} (found : Ledger (List α)) (key : String)
    (more : List α) :
    (Ledger.values
        (Ledger.put found key ((Ledger.get? found key).getD [] ++ more))).flatten.Perm
      ((Ledger.values found).flatten ++ more) := by
  induction found with
  | nil => simp [Ledger.put, Ledger.get?, Ledger.values]
  | cons entry rest induction =>
      obtain ⟨other, held⟩ := entry
      by_cases same : other = key
      · simp only [Ledger.put, Ledger.get?, if_pos same, Ledger.values,
          List.map_cons, List.flatten_cons, Option.getD_some, List.append_assoc]
        exact List.perm_append_comm.append_left held
      · simp only [Ledger.values] at induction
        simp only [Ledger.put, Ledger.get?, if_neg same, Ledger.values,
          List.map_cons, List.flatten_cons, List.append_assoc]
        exact induction.append_left held

theorem addFindings_perm (catalog : Catalog) (flow : Flow) (found : Ledger (List Finding))
    (stage : Stage) :
    (Ledger.values (addFindings catalog flow found stage)).flatten.Perm
      ((Ledger.values found).flatten ++ stageFindings catalog flow stage) := by
  unfold addFindings
  split
  · rename_i none
    simp [none]
  · exact flatten_values_put_perm found stage.id _

/-- The findings about stages are those of every single stage. -/
theorem ruleFindings_perm (catalog : Catalog) (flow : Flow) :
    (Ledger.values (ruleFindings catalog flow)).flatten.Perm
      (flow.stages.flatMap (stageFindings catalog flow)) := by
  -- Each finding is about the flow as a whole, so only the list that the fold
  -- runs over may vary.
  have general : ∀ (stages : List Stage) (found : Ledger (List Finding)),
      (Ledger.values (stages.foldl (addFindings catalog flow) found)).flatten.Perm
        ((Ledger.values found).flatten ++
          stages.flatMap (stageFindings catalog flow)) := by
    intro stages
    induction stages with
    | nil => simp
    | cons stage rest induction =>
        intro found
        rw [List.foldl_cons, List.flatMap_cons, ← List.append_assoc]
        exact (induction _).trans ((addFindings_perm catalog flow found stage).append_right _)
  exact general flow.stages []

theorem mem_ruleFindings {catalog : Catalog} {flow : Flow} {finding : Finding} :
    finding ∈ (Ledger.values (ruleFindings catalog flow)).flatten ↔
      ∃ stage ∈ flow.stages, finding ∈ stageFindings catalog flow stage := by
  rw [(ruleFindings_perm catalog flow).mem_iff, List.mem_flatMap]

theorem isValid_iff {catalog : Catalog} {flow : Flow} :
    (ofFlow catalog flow).isValid = true ↔
      (∀ finding ∈ Structure.findings catalog flow, finding.isError = false) ∧
      (∀ stage ∈ flow.stages, ∀ finding ∈ stageFindings catalog flow stage,
        finding.isError = false) ∧
      ∀ link ∈ flow.links, (linkFinding catalog flow link).isError = false := by
  have noErrors :
      (ofFlow catalog flow).isValid = true ↔
        ∀ finding ∈ allFindings catalog flow, finding.isError = false := by
    simp [isValid, ofFlow, ofFindings, List.filter_eq_nil_iff]
  rw [noErrors]
  simp only [allFindings, List.mem_append, mem_ruleFindings, or_imp, forall_and,
    List.mem_map, forall_exists_index, and_imp, forall_apply_eq_imp_iff₂, and_assoc]
  refine and_congr_right fun _ => and_congr_left fun _ => ?_
  constructor
  · intro clean stage member finding reported
    exact clean finding stage member reported
  · intro clean finding stage member reported
    exact clean stage member finding reported

/-! ## The rules of the built-in kinds -/

/-- The finding that a violated rule reports. -/
def ruleFinding (rule : Rule) : Finding :=
  { severity := rule.severity
    message := rule.message
    suggestion := rule.suggestion }

theorem finding?_eq_some_iff {config : Config} {flow : Flow} {rule : Rule}
    {finding : Finding} :
    Kind.finding? config flow rule = some finding ↔
      rule.violated config flow = .ok true ∧ finding = ruleFinding rule := by
  unfold Kind.finding?
  split
  · rename_i violated
    simp [violated, ruleFinding, eq_comm]
  · rename_i other
    constructor
    · intro found
      cases found
    · rintro ⟨violated, _⟩
      exact (other violated).elim

theorem mem_stageFindings {catalog : Catalog} {flow : Flow} {stage : Stage}
    {finding : Finding} :
    finding ∈ stageFindings catalog flow stage ↔
      ∃ kind, catalog.lookup stage.type = some kind ∧
        ∃ rule ∈ kind.rules,
          Kind.finding? (kind.effective stage.configuration) flow rule =
            some finding := by
  unfold stageFindings
  cases found : catalog.lookup stage.type with
  | none => simp
  | some kind => simp [Kind.findings]

/-- A stage has no error by the rules of its kind exactly when the flow has
every type that its own type needs. -/
theorem stageFindings_no_errors_iff {flow : Flow} {stage : Stage}
    (full : TypeName.canonical stage.type = stage.type) :
    (∀ finding ∈ stageFindings Catalog.builtin flow stage,
        finding.isError = false) ↔
      ∀ needed, (stage.type, needed) ∈ Catalog.prerequisites →
        flow.hasType needed = true := by
  constructor
  · intro clean needed pair
    obtain ⟨kind, found, rule, member, grave, violated⟩ :=
      Catalog.demand_of_prerequisite pair
    cases present : flow.hasType needed with
    | true => rfl
    | false =>
        have reported :
            ruleFinding rule ∈ stageFindings Catalog.builtin flow stage := by
          apply mem_stageFindings.mpr
          refine ⟨kind, found, rule, member, finding?_eq_some_iff.mpr ⟨?_, rfl⟩⟩
          rw [violated, present]
          rfl
        have mild := clean (ruleFinding rule) reported
        simp [Finding.isError, ruleFinding, grave] at mild
  · intro present finding reported
    obtain ⟨kind, found, rule, member, judged⟩ := mem_stageFindings.mp reported
    obtain ⟨violated, rfl⟩ := finding?_eq_some_iff.mp judged
    obtain ⟨kindMember, sameType⟩ := Catalog.of_lookup_builtin found
    apply Bool.eq_false_iff.mpr
    intro isError
    have grave : rule.severity = .error := of_decide_eq_true isError
    obtain ⟨needed, pair, _, demand⟩ :=
      Catalog.builtin_error_rules kind kindMember rule member grave
    rw [sameType, full] at pair
    rw [demand, present needed pair] at violated
    cases violated

/-! ## Links -/

/-- No error is found about a link when both ends are stages of the flow and
their phases decide or their types allow the link. -/
theorem linkFinding_no_error_iff {catalog : Catalog} {flow : Flow}
    (full : flow.HasFullTypes) (link : Link) :
    (linkFinding catalog flow link).isError = false ↔
      ∃ source target, flow.stage? link.source = some source ∧
        flow.stage? link.target = some target ∧
        ((∃ sourcePhase targetPhase,
            Phase.ofCategory? (catalog.categoryOf source) = some sourcePhase ∧
            Phase.ofCategory? (catalog.categoryOf target) = some targetPhase ∧
            Connection.PhasesDecide sourcePhase targetPhase) ∨
          Connection.TypesAllow catalog source.type target.type) := by
  have missing : missingEnd.isError = true := rfl
  unfold linkFinding
  cases sourceFound : flow.stage? link.source with
  | none => simp [missing]
  | some source =>
      cases targetFound : flow.stage? link.target with
      | none => simp [missing]
      | some target =>
          have sourceFull := full source (List.mem_of_find?_eq_some sourceFound)
          have targetFull := full target (List.mem_of_find?_eq_some targetFound)
          have sourcePhase := Connection.phase?_categoryOf catalog source
          have targetPhase := Connection.phase?_categoryOf catalog target
          rw [sourceFull] at sourcePhase
          rw [targetFull] at targetPhase
          simp only [Connection.isError_judge_iff, sourceFull, targetFull,
            sourcePhase, targetPhase, Option.some.injEq, exists_and_left,
            exists_eq_left']

/-! ## Nothing stands in the way -/

variable {catalog : Catalog}

theorem limits_free (wellFormed : catalog.WellFormed) (flow : Flow) :
    Structure.obstacle? catalog flow = none := by
  apply if_pos
  apply List.all_eq_true.mpr
  intro type _
  cases found : catalog.lookup type with
  | none => rfl
  | some kind =>
      rcases (wellFormed kind (Catalog.mem_values_of_lookup found)).limit with
        unlimited | ⟨number, limited⟩
      · simp [Structure.hasSoundLimit, unlimited]
      · simp only [Option.all_some, Structure.hasSoundLimit]
        split
        · rfl
        · simp [limited]

theorem rules_free (wellFormed : catalog.WellFormed) {flow : Flow}
    (steady : flow.IsSteady catalog) :
    flow.stages.findSome? (ruleObstacle? catalog flow) = none := by
  apply List.findSome?_eq_none_iff.mpr
  intro stage member
  unfold ruleObstacle?
  cases found : catalog.lookup stage.type with
  | none => rfl
  | some kind =>
      have sound := wellFormed kind (Catalog.mem_values_of_lookup found)
      rw [Option.bind_some, Kind.obstacle?_of_steady (steady stage member kind found)]
      exact List.findSome?_eq_none_iff.mpr fun rule ruleMember =>
        sound.ruleObstacle?_eq_none ruleMember _ flow

theorem obstacle?_eq_none (wellFormed : catalog.WellFormed) {flow : Flow}
    (steady : flow.IsSteady catalog) : obstacle? catalog flow = none := by
  rw [obstacle?, limits_free wellFormed, rules_free wellFormed steady]
  rfl

theorem obstacle?_builtin (flow : Flow) :
    obstacle? Catalog.builtin flow = none :=
  obstacle?_eq_none Catalog.wellFormed_builtin flow.isSteady_builtin

end Report

/-! ## Sound flows -/

/-- What a flow has to be like to be reported valid. -/
structure Flow.Sound (flow : Flow) : Prop where
  /-- Some stage belongs to the data phase. -/
  hasData : ∃ stage ∈ flow.stages,
    Catalog.builtin.categoryOf stage = Phase.data.text
  acyclic : flow.Acyclic
  singleIngest : Structure.countOf flow TypeName.ingest ≤ 1
  singleDataSplit : Structure.countOf flow TypeName.dataSplit ≤ 1
  trainingNeeds : (∃ stage ∈ flow.stages, stage.type = TypeName.training) →
    ∃ stage ∈ flow.stages, stage.type = TypeName.dataSplit
  evaluationNeeds : (∃ stage ∈ flow.stages, stage.type = TypeName.evaluation) →
    ∃ stage ∈ flow.stages, stage.type = TypeName.training
  /-- Every link joins two stages whose phases decide or whose types allow it. -/
  linksFit : ∀ link ∈ flow.links, ∃ source target,
    flow.stage? link.source = some source ∧ flow.stage? link.target = some target ∧
      ((∃ sourcePhase targetPhase,
          Phase.ofCategory? (Catalog.builtin.categoryOf source) = some sourcePhase ∧
          Phase.ofCategory? (Catalog.builtin.categoryOf target) = some targetPhase ∧
          Connection.PhasesDecide sourcePhase targetPhase) ∨
        Connection.TypesAllow Catalog.builtin source.type target.type)

namespace Report

theorem hasType_iff {flow : Flow} {type : String}
    (fullName : TypeName.canonical type = type) :
    flow.hasType type = true ↔ ∃ stage ∈ flow.stages, stage.type = type := by
  simp [Flow.hasType, fullName]

/-- All needs of all stages are met when training and evaluation have theirs. -/
theorem prerequisites_met_iff {flow : Flow} :
    (∀ stage ∈ flow.stages, ∀ needed, (stage.type, needed) ∈ Catalog.prerequisites →
        flow.hasType needed = true) ↔
      ((∃ stage ∈ flow.stages, stage.type = TypeName.training) →
        ∃ stage ∈ flow.stages, stage.type = TypeName.dataSplit) ∧
      ((∃ stage ∈ flow.stages, stage.type = TypeName.evaluation) →
        ∃ stage ∈ flow.stages, stage.type = TypeName.training) := by
  have dataSplitFull : TypeName.canonical TypeName.dataSplit = TypeName.dataSplit := by
    decide
  have trainingFull : TypeName.canonical TypeName.training = TypeName.training := by
    decide
  constructor
  · intro met
    constructor
    · rintro ⟨stage, member, type⟩
      apply (hasType_iff dataSplitFull).mp
      exact met stage member _ (by simp [type, Catalog.prerequisites])
    · rintro ⟨stage, member, type⟩
      apply (hasType_iff trainingFull).mp
      exact met stage member _ (by simp [type, Catalog.prerequisites])
  · rintro ⟨training, evaluation⟩ stage member needed pair
    simp only [Catalog.prerequisites, List.mem_cons, List.not_mem_nil, or_false,
      Prod.mk.injEq] at pair
    rcases pair with ⟨type, rfl⟩ | ⟨type, rfl⟩
    · exact (hasType_iff dataSplitFull).mpr (training ⟨stage, member, type⟩)
    · exact (hasType_iff trainingFull).mpr (evaluation ⟨stage, member, type⟩)

theorem isValid_builtin_iff_sound {flow : Flow} (full : flow.HasFullTypes) :
    (ofFlow Catalog.builtin flow).isValid = true ↔ flow.Sound := by
  have rules :
      (∀ stage ∈ flow.stages, ∀ finding ∈ stageFindings Catalog.builtin flow stage,
        finding.isError = false) ↔
      ∀ stage ∈ flow.stages, ∀ needed, (stage.type, needed) ∈ Catalog.prerequisites →
        flow.hasType needed = true := by
    refine forall_congr' fun stage => forall_congr' fun member => ?_
    exact stageFindings_no_errors_iff (full stage member)
  rw [isValid_iff, Structure.no_errors_iff, Structure.hasPhase_iff,
    flow.hasCycle_eq_false_iff, Structure.cardinality_builtin_eq_nil_iff full,
    rules, prerequisites_met_iff]
  simp only [linkFinding_no_error_iff full]
  constructor
  · rintro ⟨⟨hasData, acyclic, few⟩, ⟨trainingNeeds, evaluationNeeds⟩, linksFit⟩
    exact {
      hasData
      acyclic
      singleIngest := few TypeName.ingest (by decide)
      singleDataSplit := few TypeName.dataSplit (by decide)
      trainingNeeds
      evaluationNeeds
      linksFit }
  · intro sound
    refine ⟨⟨sound.hasData, sound.acyclic, ?_⟩,
      ⟨sound.trainingNeeds, sound.evaluationNeeds⟩, sound.linksFit⟩
    intro type single
    simp only [Catalog.singleTypes, List.mem_cons, List.not_mem_nil, or_false] at single
    rcases single with rfl | rfl
    · exact sound.singleIngest
    · exact sound.singleDataSplit

/-- The report on a flow can always be made, and it is valid exactly for sound
flows.  Every flow that was read has full type names. -/
theorem make_isValid_iff_sound {flow : Flow} (full : flow.HasFullTypes) :
    ∃ report, make Catalog.builtin flow = .ok report ∧
      (report.isValid = true ↔ flow.Sound) := by
  refine ⟨ofFlow Catalog.builtin flow, ?_, isValid_builtin_iff_sound full⟩
  rw [make, obstacle?_builtin]
  rfl

/-- Data that is split and trained on, with a link that goes back to it. -/
def returning : Flow :=
  { stages := [
      { id := "split", type := TypeName.dataSplit },
      { id := "train", type := TypeName.training },
      { id := "judge", type := TypeName.evaluation, category := "model" },
      { id := "explore", type := TypeName.exploration }]
    links := [
      Link.make "" "split" "train", Link.make "" "train" "judge",
      Link.make "" "judge" "explore"] }

theorem returning_sound : returning.Sound :=
  { hasData := ⟨_, List.mem_cons_self, by decide⟩
    acyclic := returning.hasCycle_eq_false_iff.mp (by cbv)
    singleIngest := by decide
    singleDataSplit := by decide
    trainingNeeds := fun _ => ⟨_, List.mem_cons_self, rfl⟩
    evaluationNeeds := fun _ => ⟨_, List.mem_cons_of_mem _ List.mem_cons_self, rfl⟩
    linksFit := by
      intro link member
      simp only [returning, List.mem_cons, List.not_mem_nil, or_false] at member
      rcases member with rfl | rfl | rfl
      · exact ⟨_, _, rfl, rfl, .inr (.inr (.inr ⟨_, rfl, by decide⟩))⟩
      · exact ⟨_, _, rfl, rfl, .inr (.inr (.inr ⟨_, rfl, by decide⟩))⟩
      · exact ⟨_, _, rfl, rfl, .inl ⟨.model, .data, by decide⟩⟩ }

theorem returning_isValid :
    returning.HasFullTypes ∧ ∃ report,
      make Catalog.builtin returning = .ok report ∧ report.isValid = true := by
  have full : returning.HasFullTypes := by decide
  obtain ⟨report, made, valid⟩ := make_isValid_iff_sound full
  exact ⟨full, report, made, valid.mpr returning_sound⟩

end Report

end StageGraph
