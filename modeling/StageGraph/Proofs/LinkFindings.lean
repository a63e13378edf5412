import StageGraph.Proofs.Ledger
import StageGraph.Proofs.Report

/-!
# What a report says about single links

The judgements about links stand under the ids of the links, so a report keeps
all of them exactly when no id repeats.  A link that is given no id takes one from
its ends, joined by hyphens.  Links with different ends may then still share an
id, when hyphens stand in the ids of stages on both sides.
-/

namespace StageGraph

namespace Link

/-- The ids of the stages that a link joins. -/
def ends (link : Link) : String × String :=
  (link.source, link.target)

/-- The link was given no id. -/
def Unnamed (link : Link) : Prop :=
  link = make "" link.source link.target

theorem Unnamed.id_eq {link : Link} (unnamed : link.Unnamed) :
    link.id = defaultId link.source link.target := by
  rw [unnamed]
  rfl

/-! ## Links that share a default id -/

theorem toList_defaultId (source target : String) :
    (defaultId source target).toList =
      'e' :: '-' :: (source.toList ++ '-' :: target.toList) := by
  simp [defaultId]

/-- What stands before the first separator is determined by the whole. -/
theorem eq_of_append_cons_eq {separator : Char} {first second : List Char}
    {firstRest secondRest : List Char}
    (firstFree : separator ∉ first) (secondFree : separator ∉ second)
    (same : first ++ separator :: firstRest = second ++ separator :: secondRest) :
    first = second ∧ firstRest = secondRest := by
  induction first generalizing second with
  | nil =>
      cases second with
      | nil => exact ⟨rfl, (List.cons.inj same).2⟩
      | cons c others =>
          obtain ⟨rfl, _⟩ := List.cons.inj same
          exact (secondFree List.mem_cons_self).elim
  | cons c rest induction =>
      cases second with
      | nil =>
          obtain ⟨rfl, _⟩ := List.cons.inj same
          exact (firstFree List.mem_cons_self).elim
      | cons d others =>
          obtain ⟨rfl, tails⟩ := List.cons.inj same
          have restFree := fun member => firstFree (List.mem_cons_of_mem c member)
          have othersFree := fun member => secondFree (List.mem_cons_of_mem c member)
          obtain ⟨rfl, after⟩ := induction restFree othersFree tails
          exact ⟨rfl, after⟩

/-- One side without hyphens is enough for the default id to tell the ends. -/
theorem ends_eq_of_defaultId_eq {first second : Link}
    (free : '-' ∉ first.source.toList ∧ '-' ∉ second.source.toList ∨
      '-' ∉ first.target.toList ∧ '-' ∉ second.target.toList)
    (same : defaultId first.source first.target =
      defaultId second.source second.target) : first.ends = second.ends := by
  have characters := congrArg String.toList same
  rw [toList_defaultId, toList_defaultId] at characters
  have joined : first.source.toList ++ '-' :: first.target.toList =
      second.source.toList ++ '-' :: second.target.toList := by
    simpa using characters
  have parts : first.source.toList = second.source.toList ∧
      first.target.toList = second.target.toList := by
    rcases free with ⟨firstFree, secondFree⟩ | ⟨firstFree, secondFree⟩
    · exact eq_of_append_cons_eq firstFree secondFree joined
    · -- Read backward, the target stands before the first hyphen.
      have backward := congrArg List.reverse joined
      simp only [List.reverse_append, List.reverse_cons, List.append_assoc,
        List.singleton_append] at backward
      obtain ⟨targets, sources⟩ := eq_of_append_cons_eq
        (mt List.mem_reverse.mp firstFree) (mt List.mem_reverse.mp secondFree) backward
      exact ⟨List.reverse_inj.mp sources, List.reverse_inj.mp targets⟩
  exact Prod.ext (String.toList_inj.mp parts.1) (String.toList_inj.mp parts.2)

end Link

namespace Flow

/-- No link of the flow was given an id. -/
def LinksUnnamed (flow : Flow) : Prop :=
  ∀ link ∈ flow.links, link.Unnamed

/-- The ids of all sources, or those of all targets, hold no hyphens. -/
def OneSideUnhyphened (flow : Flow) : Prop :=
  (∀ link ∈ flow.links, '-' ∉ link.source.toList) ∨
    ∀ link ∈ flow.links, '-' ∉ link.target.toList

theorem nodup_map_id_links {flow : Flow} (unnamed : flow.LinksUnnamed)
    (ends : (flow.links.map Link.ends).Nodup) (free : flow.OneSideUnhyphened) :
    (flow.links.map Link.id).Nodup := by
  refine List.Nodup.map_on ?_ (ends.of_map _)
  intro first firstMember second secondMember same
  apply List.inj_on_of_nodup_map ends firstMember secondMember
  apply Link.ends_eq_of_defaultId_eq
  · exact free.imp (fun free => ⟨free _ firstMember, free _ secondMember⟩)
      (fun free => ⟨free _ firstMember, free _ secondMember⟩)
  · rw [← (unnamed _ firstMember).id_eq, ← (unnamed _ secondMember).id_eq, same]

end Flow

namespace Report

/-- The report has one entry for every link, and the entry under the id of a link
judges this very link. -/
structure JudgesEach (catalog : Catalog) (flow : Flow) (report : Report) : Prop where
  count : report.byLink.length = flow.links.length
  missing : ∀ link ∈ flow.links, ¬ (flow.HasId link.source ∧ flow.HasId link.target) →
    Ledger.get? report.byLink link.id = some missingEnd
  joined : ∀ link ∈ flow.links, ∀ source target,
    flow.stage? link.source = some source → flow.stage? link.target = some target →
      Ledger.get? report.byLink link.id =
        some (Connection.judge catalog source.type target.type
          (catalog.categoryOf source) (catalog.categoryOf target))

theorem linkFindings_eq_putAll (catalog : Catalog) (flow : Flow) :
    linkFindings catalog flow = Ledger.putAll []
      (flow.links.map fun link => (link.id, linkFinding catalog flow link)) := by
  simp [linkFindings, Ledger.putAll, List.foldl_map]

theorem hasId_of_stage? {flow : Flow} {id : String} {stage : Stage}
    (found : flow.stage? id = some stage) : flow.HasId id :=
  ⟨stage, List.mem_of_find?_eq_some found, by simpa using List.find?_some found⟩

theorem linkFinding_of_missing {catalog : Catalog} {flow : Flow} {link : Link}
    (missing : ¬ (flow.HasId link.source ∧ flow.HasId link.target)) :
    linkFinding catalog flow link = missingEnd := by
  unfold linkFinding
  split
  · rename_i source target sourceFound targetFound
    exact (missing ⟨hasId_of_stage? sourceFound, hasId_of_stage? targetFound⟩).elim
  · rfl

/-- A report judges each link exactly when no id of a link repeats. -/
theorem judgesEach_ofFlow_iff (catalog : Catalog) (flow : Flow) :
    JudgesEach catalog flow (ofFlow catalog flow) ↔ (flow.links.map Link.id).Nodup := by
  let entries := flow.links.map fun link => (link.id, linkFinding catalog flow link)
  have byLink : (ofFlow catalog flow).byLink = Ledger.putAll [] entries :=
    linkFindings_eq_putAll catalog flow
  have keys : Ledger.keys entries = flow.links.map Link.id := by
    simp [entries, Ledger.keys]
  have size : entries.length = flow.links.length := List.length_map _
  constructor
  · intro judges
    have count := judges.count
    rwa [byLink, ← size, Ledger.length_putAll_eq_iff, keys] at count
  · intro nodup
    have entriesNodup : (Ledger.keys entries).Nodup := keys ▸ nodup
    have written : (ofFlow catalog flow).byLink = entries := by
      rw [byLink, Ledger.putAll_of_nodup (by simpa [Ledger.keys] using entriesNodup)]
      exact List.nil_append _
    have found : ∀ link ∈ flow.links,
        Ledger.get? (ofFlow catalog flow).byLink link.id =
          some (linkFinding catalog flow link) := by
      intro link member
      rw [written]
      exact Ledger.get?_eq_some_of_mem entriesNodup
        (List.mem_map.mpr ⟨link, member, rfl⟩)
    constructor
    · rw [written, size]
    · intro link member missing
      rw [found link member, linkFinding_of_missing missing]
    · intro link member source target sourceFound targetFound
      rw [found link member, linkFinding, sourceFound, targetFound]

/-- The report on a flow whose links were given no ids and differ in their ends
judges each link exactly when their default ids differ, and so whenever one side
is free of hyphens. -/
theorem make_judgesEach_iff {flow : Flow} (unnamed : flow.LinksUnnamed)
    (ends : (flow.links.map Link.ends).Nodup) :
    ∃ report, make Catalog.builtin flow = .ok report ∧
      (JudgesEach Catalog.builtin flow report ↔ (flow.links.map Link.id).Nodup) ∧
      (flow.OneSideUnhyphened → JudgesEach Catalog.builtin flow report) := by
  have iff := judgesEach_ofFlow_iff Catalog.builtin flow
  refine ⟨ofFlow Catalog.builtin flow, ?_, iff, ?_⟩
  · rw [make, obstacle?_builtin]
    rfl
  · intro free
    exact iff.mpr (Flow.nodup_map_id_links unnamed ends free)

/-- Two stages that are linked to a third one, and a link with a missing end. -/
def gathering : Flow :=
  { stages := [
      { id := "load-1", type := TypeName.ingest },
      { id := "load-2", type := TypeName.exploration },
      { id := "clean", type := TypeName.preprocess }]
    links := [
      Link.make "" "load-1" "clean", Link.make "" "load-2" "clean",
      Link.make "" "load-1" "split"] }

theorem gathering_judgesEach :
    gathering.LinksUnnamed ∧ (gathering.links.map Link.ends).Nodup ∧
      ∃ report, make Catalog.builtin gathering = .ok report ∧
        JudgesEach Catalog.builtin gathering report := by
  have unnamed : gathering.LinksUnnamed := by
    simp [Flow.LinksUnnamed, gathering, Link.Unnamed, Link.make]
  have ends : (gathering.links.map Link.ends).Nodup := by decide
  obtain ⟨report, made, _, judges⟩ := make_judgesEach_iff unnamed ends
  exact ⟨unnamed, ends, report, made, judges (.inr (by decide))⟩

/-- Two links with different ends and one default id.  The first is wrong. -/
def sharedDefault : Flow :=
  { stages := [
      { id := "a", type := TypeName.featureEngineering },
      { id := "b-c", type := TypeName.preprocess },
      { id := "a-b", type := TypeName.ingest },
      { id := "c", type := TypeName.preprocess }]
    links := [Link.make "" "a" "b-c", Link.make "" "a-b" "c"] }

/-- The report has one entry for both links, and the error about the first one
stands under no link. -/
theorem sharedDefault_not_judgesEach :
    sharedDefault.LinksUnnamed ∧ (sharedDefault.links.map Link.ends).Nodup ∧
      ∃ report, make Catalog.builtin sharedDefault = .ok report ∧
        ¬ JudgesEach Catalog.builtin sharedDefault report ∧
        report.byLink.length = 1 ∧
        ∃ finding ∈ report.errors, ∀ entry ∈ report.byLink, entry.2 ≠ finding := by
  have unnamed : sharedDefault.LinksUnnamed := by
    simp [Flow.LinksUnnamed, sharedDefault, Link.Unnamed, Link.make]
  refine ⟨unnamed, by decide, ofFlow Catalog.builtin sharedDefault, ?_, ?_, ?_, ?_⟩
  · rw [make, obstacle?_builtin]
    rfl
  · rw [judgesEach_ofFlow_iff]
    decide
  · decide
  · let lost := linkFinding Catalog.builtin sharedDefault (Link.make "" "a" "b-c")
    have reported : lost ∈ allFindings Catalog.builtin sharedDefault :=
      List.mem_append_right _ (List.mem_map.mpr ⟨_, List.mem_cons_self, rfl⟩)
    refine ⟨lost, List.mem_filter.mpr ⟨reported, ?_⟩, ?_⟩
    · decide
    · decide

end Report

end StageGraph
