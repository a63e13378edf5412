import StageGraph.Proofs.Categories
import StageGraph.Proofs.Report

/-!
# Links only add errors

What is found about stages, and about every other link, does not depend on a link, and
a cycle stays when links are added.  So all errors of a report stay in their order when a
link is added to the flow, whatever the link is; warnings need not stay, since the link may
touch a loose stage.  Read backward, a valid flow stays valid when links are taken away.
-/

namespace StageGraph

open Relation

namespace Flow

/-- A flow with one more link, the last one. -/
def withLink (flow : Flow) (link : Link) : Flow :=
  { flow with links := flow.links ++ [link] }

/-- A flow has the stages of another one and, in their order, all of its links. -/
structure Extends (more flow : Flow) : Prop where
  stages : more.stages = flow.stages
  links : flow.links.Sublist more.links

theorem extends_withLink (flow : Flow) (link : Link) : (flow.withLink link).Extends flow :=
  ⟨rfl, List.sublist_append_left flow.links [link]⟩

namespace Extends

variable {flow more : Flow}

theorem hasId (extension : more.Extends flow) (id : String) :
    more.HasId id ↔ flow.HasId id := by
  rw [HasId, extension.stages, HasId]

theorem arrow (extension : more.Extends flow) {source target : String}
    (arrow : flow.Arrow source target) : more.Arrow source target := by
  obtain ⟨sourceHas, targetHas, link, member, ends⟩ := arrow
  exact ⟨(extension.hasId source).mpr sourceHas, (extension.hasId target).mpr targetHas,
    link, extension.links.subset member, ends⟩

theorem acyclic (extension : more.Extends flow) (acyclic : more.Acyclic) : flow.Acyclic := by
  intro id cycle
  exact acyclic id (TransGen.mono (fun _ _ => extension.arrow) id id cycle)

/-- A cycle that is found stays, and so it is found again. -/
theorem hasCycle (extension : more.Extends flow) (cyclic : flow.hasCycle = true) :
    more.hasCycle = true := by
  apply Bool.of_not_eq_false
  intro none
  have acyclic := extension.acyclic (more.hasCycle_eq_false_iff.mp none)
  rw [flow.hasCycle_eq_false_iff.mpr acyclic] at cyclic
  cases cyclic

theorem contents (extension : more.Extends flow) : more.contents = flow.contents := by
  rw [Flow.contents, extension.stages, Flow.contents]

end Extends

end Flow

namespace Report

variable {catalog : Catalog} {flow more : Flow}

theorem ruleFindings_eq (looks : catalog.LooksAtContents) (extension : more.Extends flow) :
    ruleFindings catalog more = ruleFindings catalog flow := by
  unfold ruleFindings
  rw [extension.stages]
  congr 1
  funext found stage
  rw [addFindings, looks.stageFindings_eq extension.contents, addFindings]

theorem linkFinding_eq (extension : more.Extends flow) :
    linkFinding catalog more = linkFinding catalog flow := by
  funext link
  unfold linkFinding Flow.stage?
  rw [extension.stages]

/-- Of the findings about the structure only the one on loose stages may go, which is a
warning. -/
theorem structure_errors_sublist (extension : more.Extends flow) :
    ((Structure.findings catalog flow).filter Finding.isError).Sublist
      ((Structure.findings catalog more).filter Finding.isError) := by
  have sameCardinality : Structure.cardinality catalog more =
      Structure.cardinality catalog flow := by
    unfold Structure.cardinality Structure.usedTypes Structure.countOf
    rw [extension.stages]
  have samePhase (phase : Phase) : Structure.hasPhase catalog more phase =
      Structure.hasPhase catalog flow phase := by
    rw [Structure.hasPhase, extension.stages, Structure.hasPhase]
  have noLoose (flow : Flow) (condition : Bool) (message : String) (hint : Option String) :
      (Structure.when condition (.warning message hint)).filter Finding.isError = [] := by
    cases condition <;> rfl
  have cycles (finding : Finding) :
      (Structure.when flow.hasCycle finding).Sublist (Structure.when more.hasCycle finding) := by
    cases cyclic : flow.hasCycle with
    | false => exact List.nil_sublist _
    | true => rw [extension.hasCycle cyclic]
  simp only [Structure.findings, List.filter_append, samePhase, sameCardinality, noLoose flow]
  refine List.Sublist.append (List.Sublist.append (List.Sublist.refl _) ?_) (List.Sublist.refl _)
  exact (cycles _).filter _

theorem errors_sublist (looks : catalog.LooksAtContents) (extension : more.Extends flow) :
    (ofFlow catalog flow).errors.Sublist (ofFlow catalog more).errors := by
  have links : ((flow.links.map (linkFinding catalog flow)).filter Finding.isError).Sublist
      ((more.links.map (linkFinding catalog flow)).filter Finding.isError) :=
    (extension.links.map _).filter _
  simp only [ofFlow, ofFindings, allFindings, List.filter_append, ruleFindings_eq looks extension,
    linkFinding_eq extension]
  exact ((structure_errors_sublist extension).append (List.Sublist.refl _)).append links

theorem byLink_withLink (catalog : Catalog) (flow : Flow) (link : Link) :
    (ofFlow catalog (flow.withLink link)).byLink =
      Ledger.put (ofFlow catalog flow).byLink link.id (linkFinding catalog flow link) := by
  have byLink (flow : Flow) : (ofFlow catalog flow).byLink = linkFindings catalog flow := rfl
  rw [byLink, byLink, linkFindings, linkFinding_eq (flow.extends_withLink link),
    Flow.withLink, List.foldl_append, List.foldl_cons, List.foldl_nil, linkFindings]

/-- A report has the errors of another one in their order, and the same judgements about all
stages and about all links with other ids. -/
structure KeepsButLink (id : String) (report more : Report) : Prop where
  errors : report.errors.Sublist more.errors
  byStage : more.byStage = report.byStage
  byLink : ∀ other, other ≠ id → Ledger.get? more.byLink other = Ledger.get? report.byLink other

theorem keepsButLink_withLink (looks : catalog.LooksAtContents) (flow : Flow) (link : Link) :
    KeepsButLink link.id (ofFlow catalog flow) (ofFlow catalog (flow.withLink link)) where
  errors := errors_sublist looks (flow.extends_withLink link)
  byStage := ruleFindings_eq looks (flow.extends_withLink link)
  byLink := by
    intro other different
    rw [byLink_withLink, Ledger.get?_put, if_neg (Ne.symm different)]

theorem isValid_of_extends (looks : catalog.LooksAtContents) (extension : more.Extends flow)
    (valid : (ofFlow catalog more).isValid = true) : (ofFlow catalog flow).isValid = true := by
  have none : (ofFlow catalog more).errors = [] := List.isEmpty_iff.mp valid
  have errors := errors_sublist looks extension
  rw [none] at errors
  exact List.isEmpty_iff.mpr (List.sublist_nil.mp errors)

/-- Adding a link clears no error and changes no judgement about anything else, and a valid
flow stays valid with some of its links only. -/
theorem make_withLink_keeps (flow : Flow) (link : Link) :
    ∃ report more, make Catalog.builtin flow = .ok report ∧
      make Catalog.builtin (flow.withLink link) = .ok more ∧
      KeepsButLink link.id report more ∧
      ∀ fewer, flow.Extends fewer → report.isValid = true →
        ∃ thinned, make Catalog.builtin fewer = .ok thinned ∧ thinned.isValid = true := by
  have made (flow : Flow) : make Catalog.builtin flow = .ok (ofFlow Catalog.builtin flow) := by
    rw [make, obstacle?_builtin]
    rfl
  have looks := Catalog.looksAtContents_builtin
  refine ⟨_, _, made flow, made (flow.withLink link), keepsButLink_withLink looks flow link, ?_⟩
  intro fewer extension valid
  exact ⟨_, made fewer, isValid_of_extends looks extension valid⟩

/-- The valid flow that leads back, without its link from the data to the training. -/
def returningOnly : Flow :=
  { returning with links := [Link.make "" "train" "judge", Link.make "" "judge" "explore"] }

/-- A link that closes a cycle is added, and one is taken away. -/
theorem returning_withLink_keeps :
    returning.Extends returningOnly ∧
    ∃ report more thinned, make Catalog.builtin returning = .ok report ∧
      make Catalog.builtin (returning.withLink (Link.make "" "explore" "split")) = .ok more ∧
      make Catalog.builtin returningOnly = .ok thinned ∧ report.isValid = true ∧
      KeepsButLink "e-explore-split" report more ∧ thinned.isValid = true := by
  have extension : returning.Extends returningOnly := ⟨rfl, List.sublist_cons_self _ _⟩
  obtain ⟨report, more, made, madeMore, keeps, thins⟩ :=
    make_withLink_keeps returning (Link.make "" "explore" "split")
  have same : ofFlow Catalog.builtin returning = report := by
    rw [make, obstacle?_builtin] at made
    exact Except.ok.inj made
  have valid : report.isValid = true := by
    rw [← same]
    exact (isValid_builtin_iff_sound (by decide)).mpr returning_sound
  obtain ⟨thinned, madeThinned, thinnedValid⟩ := thins returningOnly extension valid
  exact ⟨extension, report, more, thinned, made, madeMore, madeThinned, valid, keeps,
    thinnedValid⟩

end Report

end StageGraph
