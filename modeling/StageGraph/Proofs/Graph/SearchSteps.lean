import Mathlib.Data.Finset.Insert
import StageGraph.Proofs.Graph.CycleSearch
import StageGraph.Proofs.Graph.Lookups

/-!
# How many steps a search takes

A search for cycles goes on in steps over a stack, with the ids that were entered and
those that are on the path as two sets beside it and the targets in a table.  The sets
stay in step with the stack, no lookup fails, and every step uses up an id to start
from, an id that is not entered, or a target that is still to be tried.  So the search
ends within twice as many steps as there are ids, one for each link, and one more, and
its answer is that of the definition without sets.  The answer is a property of the
graph: it depends on which ids and arrows there are, and on nothing else of the flow.
-/

namespace StageGraph.Graph

open StageGraph.Flow

section

variable {next : String → List String} {id target : String} {others fresh : List String}
  {rest : List Frame}

/-- A target that is neither on the path nor fresh is passed over. -/
theorem walk_cons_of_not_mem
    (notClosing : ¬ (target = id || rest.any fun frame => frame.id = target) = true)
    (notFresh : target ∉ fresh) :
    walk next ({ id, pending := target :: others } :: rest) fresh =
      walk next ({ id, pending := others } :: rest) fresh := by
  rw [walk, if_neg notClosing, if_neg notFresh]

/-- A fresh target that is not on the path is entered. -/
theorem walk_cons_of_mem
    (notClosing : ¬ (target = id || rest.any fun frame => frame.id = target) = true)
    (isFresh : target ∈ fresh) :
    walk next ({ id, pending := target :: others } :: rest) fresh =
      walk next ({ id := target, pending := next target } :: { id, pending := others } :: rest)
        (fresh.erase target) := by
  rw [walk, if_neg notClosing, if_pos isFresh]

end

/-- A search on its way: the ids that it may still start from, those that it has entered,
those of them that are on the path, and the frames of the path, the last one first. -/
structure Progress where
  starts : List String
  entered : Finset String
  onPath : Finset String
  path : List Frame

/-- What a step of a search comes to. -/
inductive Outcome where
  | further (progress : Progress)
  | answer (closes : Bool)

namespace Progress

/-- A search before its first step. -/
def start (ids : List String) : Progress :=
  { starts := ids, entered := ∅, onPath := ∅, path := [] }

/-- A search that enters an id and puts it on the path, with the targets to try from there. -/
def entering (progress : Progress) (id : String) (targets : List String) : Progress :=
  { starts := progress.starts
    entered := insert id progress.entered
    onPath := insert id progress.onPath
    path := { id := id, pending := targets } :: progress.path }

/-- Enter an id, with its targets out of the table. -/
def enter (progress : Progress) (successors : Ledger (List String)) (id : String) :
    Option Outcome :=
  (Ledger.get? successors id).map fun targets => .further (progress.entering id targets)

/-- Try one target, leave an id whose targets were all tried, or start anew. -/
def step (successors : Ledger (List String)) : Progress → Option Outcome
  | { starts := [], entered := _, onPath := _, path := [] } => some (.answer false)
  | { starts := start :: starts, entered, onPath, path := [] } =>
    if start ∈ entered then some (.further { starts, entered, onPath, path := [] })
    else enter { starts, entered, onPath, path := [] } successors start
  | { starts, entered, onPath, path := { id, pending := [] } :: rest } =>
    some (.further { starts, entered, onPath := onPath.erase id, path := rest })
  | { starts, entered, onPath, path := { id, pending := target :: others } :: rest } =>
    let tried := { starts, entered, onPath, path := { id, pending := others } :: rest }
    if target ∈ onPath then some (.answer true)
    else if target ∈ entered then some (.further tried)
    else enter tried successors target

/-- The answer of a search, when it comes within a number of steps. -/
def answerWithin (successors : Ledger (List String)) : Nat → Progress → Option Bool
  | 0, _ => none
  | steps + 1, progress =>
    match step successors progress with
    | some (.further next) => answerWithin successors steps next
    | some (.answer closes) => some closes
    | none => none

/-- The answer that the search without sets gives from here. -/
def verdict (next : String → List String) (progress : Progress) (fresh : List String) : Bool :=
  match walk next progress.path fresh with
  | none => true
  | some remaining => closes next progress.starts remaining

/-- How many steps are left at most before the last one. -/
def weight (next : String → List String) (progress : Progress) (fresh : List String) : Nat :=
  progress.starts.length + pathWeight progress.path + fresh.length + (fresh.flatMap next).length

/-- The sets of a search are in step with its stack, and it stays among the ids of the
flow. -/
structure InStep (flow : Flow) (progress : Progress) (fresh : List String) : Prop where
  entered : ∀ id ∈ flow.ids, id ∈ fresh ↔ id ∉ progress.entered
  onPath : ∀ id, id ∈ progress.onPath ↔ ∃ frame ∈ progress.path, frame.id = id
  pathEntered : ∀ frame ∈ progress.path, frame.id ∈ progress.entered
  nodup : (progress.path.map Frame.id).Nodup
  freshNodup : fresh.Nodup
  starts : ∀ id ∈ progress.starts, id ∈ flow.ids
  pending : PendingInside flow progress.path

section

variable {flow : Flow} {progress : Progress} {fresh : List String}

namespace InStep

variable {id target : String} {starts others : List String} {rest : List Frame}

/-- The test of the search without sets. -/
theorem mem_onPath_iff (inStep : InStep flow progress fresh)
    (path : progress.path = { id, pending := target :: others } :: rest) :
    target ∈ progress.onPath ↔
      (target = id || rest.any fun frame => frame.id = target) = true := by
  rw [inStep.onPath, path]
  simp [@eq_comm _ target]

theorem restart (inStep : InStep flow progress fresh)
    (left : progress.starts = id :: starts) :
    InStep flow { progress with starts := starts } fresh :=
  { inStep with
    starts := fun other member =>
      inStep.starts other (left ▸ List.mem_cons_of_mem _ member) }

theorem skip (inStep : InStep flow progress fresh)
    (path : progress.path = { id, pending := target :: others } :: rest) :
    InStep flow { progress with path := { id, pending := others } :: rest } fresh where
  entered := inStep.entered
  onPath := by simpa [path] using inStep.onPath
  pathEntered := by simpa [path] using inStep.pathEntered
  nodup := by simpa [path] using inStep.nodup
  freshNodup := inStep.freshNodup
  starts := inStep.starts
  pending := by
    have pending := inStep.pending
    rw [path] at pending
    obtain ⟨top, below⟩ := List.forall_mem_cons.mp pending
    exact List.forall_mem_cons.mpr ⟨(List.forall_mem_cons.mp top).2, below⟩

theorem pop (inStep : InStep flow progress fresh)
    (path : progress.path = { id, pending := [] } :: rest) :
    InStep flow { progress with onPath := progress.onPath.erase id, path := rest } fresh where
  entered := inStep.entered
  onPath := by
    intro other
    have nodup := inStep.nodup
    rw [path, List.map_cons] at nodup
    have gone := (List.nodup_cons.mp nodup).1
    rw [Finset.mem_erase, inStep.onPath, path]
    constructor
    · rintro ⟨different, frame, member, rfl⟩
      exact ⟨frame, List.mem_of_ne_of_mem (by rintro rfl; exact different rfl) member, rfl⟩
    · rintro ⟨frame, member, rfl⟩
      have inRest : frame.id ∈ rest.map Frame.id := List.mem_map_of_mem member
      refine ⟨?_, frame, List.mem_cons_of_mem _ member, rfl⟩
      rintro rfl
      exact gone inRest
  pathEntered := fun frame member =>
    inStep.pathEntered frame (path ▸ List.mem_cons_of_mem _ member)
  nodup := by
    have nodup := inStep.nodup
    rw [path, List.map_cons] at nodup
    exact (List.nodup_cons.mp nodup).2
  freshNodup := inStep.freshNodup
  starts := inStep.starts
  pending := fun frame member => inStep.pending frame (path ▸ List.mem_cons_of_mem _ member)

theorem entering (inStep : InStep flow progress fresh) (unentered : id ∉ progress.entered) :
    InStep flow (progress.entering id (targets flow.innerLinks id)) (fresh.erase id) where
  entered := by
    intro other has
    rw [inStep.freshNodup.mem_erase_iff, inStep.entered other has, Progress.entering,
      Finset.mem_insert, not_or]
  onPath := by
    intro other
    simp [Progress.entering, inStep.onPath, @eq_comm _ other]
  pathEntered := by
    intro frame member
    rcases List.mem_cons.mp member with rfl | member
    · exact Finset.mem_insert_self _ _
    · exact Finset.mem_insert_of_mem (inStep.pathEntered frame member)
  nodup := by
    refine List.nodup_cons.mpr ⟨?_, inStep.nodup⟩
    intro member
    obtain ⟨frame, frameMember, rfl⟩ := List.mem_map.mp member
    exact unentered (inStep.pathEntered frame frameMember)
  freshNodup := inStep.freshNodup.erase id
  starts := inStep.starts
  pending := List.forall_mem_cons.mpr
    ⟨fun _ member => mem_ids_of_mem_targets member, inStep.pending⟩

end InStep

/-- Entering an id takes it from those that are not entered, and leaves its targets to try
instead. -/
theorem weight_entering {next : String → List String} {id : String} (member : id ∈ fresh) :
    (progress.entering id (next id)).weight next (fresh.erase id) =
      progress.weight next fresh := by
  have ids := (List.perm_cons_erase member).length_eq
  have targets := ((List.perm_cons_erase member).flatMap_right next).length_eq
  rw [List.flatMap_cons, List.length_append] at targets
  rw [List.length_cons] at ids
  simp only [weight, entering, pathWeight]
  omega

/-- A step answers what the search without sets answers, or leads to a search that gives
the same answer with less weight. -/
theorem InStep.step (inStep : InStep flow progress fresh) :
    (step flow.successorMap progress =
        some (.answer (progress.verdict (targets flow.innerLinks) fresh))) ∨
      ∃ next less, step flow.successorMap progress = some (.further next) ∧
        InStep flow next less ∧
        next.verdict (targets flow.innerLinks) less =
          progress.verdict (targets flow.innerLinks) fresh ∧
        next.weight (targets flow.innerLinks) less <
          progress.weight (targets flow.innerLinks) fresh := by
  obtain ⟨starts, entered, onPath, path⟩ := progress
  -- The cases are those of a step: no path and nothing to start from, no path and an id to
  -- start from, an id whose targets were tried, and an id with a target to try.
  match path, starts with
  | [], [] =>
      left
      simp [Progress.step, verdict, walk, closes]
  | [], start :: starts =>
      right
      have has : start ∈ flow.ids := inStep.starts start List.mem_cons_self
      have restarted := inStep.restart rfl
      by_cases known : start ∈ entered
      · refine ⟨_, fresh, by rw [Progress.step, if_pos known], restarted, ?_, ?_⟩
        · have notFresh : start ∉ fresh := fun isFresh =>
            (inStep.entered _ has).mp isFresh known
          simp [verdict, walk, closes, notFresh]
        · simp [weight]
      · have isFresh : start ∈ fresh := (inStep.entered _ has).mpr known
        refine ⟨_, fresh.erase start, ?_, restarted.entering known, ?_, ?_⟩
        · simp only [Progress.step, if_neg known, enter, get?_successorMap has, Option.map_some]
        · have started : verdict (targets flow.innerLinks)
              { starts := start :: starts, entered, onPath, path := [] } fresh =
                closes (targets flow.innerLinks) (start :: starts) fresh := by
            rw [verdict, walk]
          rw [started, closes, if_pos isFresh]
          rfl
        · rw [weight_entering isFresh]
          simp [weight]
  | { id, pending := [] } :: rest, starts =>
      right
      refine ⟨_, fresh, by rw [Progress.step], inStep.pop rfl, ?_, ?_⟩
      · simp [verdict, walk]
      · simp [weight, pathWeight]
  | { id, pending := target :: others } :: rest, starts =>
      have onPathIff := inStep.mem_onPath_iff rfl
      have has : target ∈ flow.ids :=
        inStep.pending _ List.mem_cons_self target List.mem_cons_self
      have skipped := inStep.skip rfl
      by_cases closing : target ∈ onPath
      · left
        rw [Progress.step, if_pos closing, verdict, walk, if_pos (onPathIff.mp closing)]
      · right
        have notClosing := mt onPathIff.mpr closing
        by_cases known : target ∈ entered
        · refine ⟨_, fresh, by rw [Progress.step, if_neg closing, if_pos known], skipped, ?_, ?_⟩
          · have notFresh : target ∉ fresh := fun isFresh =>
              (inStep.entered _ has).mp isFresh known
            simp only [verdict]
            rw [walk_cons_of_not_mem notClosing notFresh]
          · simp [weight, pathWeight]
        · have isFresh : target ∈ fresh := (inStep.entered _ has).mpr known
          refine ⟨_, fresh.erase target, ?_, skipped.entering known, ?_, ?_⟩
          · simp only [Progress.step, if_neg closing, if_neg known, enter,
              get?_successorMap has, Option.map_some]
          · simp only [verdict, Progress.entering]
            rw [walk_cons_of_mem notClosing isFresh]
          · rw [weight_entering isFresh]
            simp [weight, pathWeight]

/-- A search answers within its weight and one step. -/
theorem InStep.answerWithin (inStep : InStep flow progress fresh) {steps : Nat}
    (enough : progress.weight (targets flow.innerLinks) fresh < steps) :
    progress.answerWithin flow.successorMap steps =
      some (progress.verdict (targets flow.innerLinks) fresh) := by
  induction steps generalizing progress fresh with
  | zero => exact absurd enough (Nat.not_lt_zero _)
  | succ steps induction =>
      rw [Progress.answerWithin]
      rcases inStep.step with answered | ⟨next, less, stepped, nextInStep, same, lighter⟩
      · rw [answered]
      · rw [stepped, ← same]
        exact induction nextInStep (by omega)

end

/-! ## From the first step on -/

/-- Nothing is entered yet. -/
theorem InStep.start (flow : Flow) : InStep flow (start flow.ids) flow.ids where
  entered := by simp [Progress.start]
  onPath := by simp [Progress.start]
  pathEntered := by simp [Progress.start]
  nodup := List.nodup_nil
  freshNodup := flow.nodup_ids
  starts _ member := member
  pending := by simp [Progress.start, PendingInside]

theorem weight_start (flow : Flow) :
    (start flow.ids).weight (targets flow.innerLinks) flow.ids =
      2 * flow.ids.length + flow.innerLinks.length := by
  have inside : ∀ link ∈ flow.innerLinks, link.source ∈ flow.ids := fun link member =>
    mem_ids.mpr (mem_innerLinks.mp member).2.1
  have tried := (flatMap_targets_perm flow.nodup_ids inside).length_eq
  rw [List.length_map] at tried
  simp only [weight, start, pathWeight, tried]
  omega

theorem verdict_start (flow : Flow) :
    (start flow.ids).verdict (targets flow.innerLinks) flow.ids = flow.hasCycle := by
  rw [verdict, start, walk, Flow.hasCycle]

end Progress

end StageGraph.Graph

namespace StageGraph.Flow

open Relation StageGraph.Graph

/-- Whether there is a cycle, when the search over a stack tells within a number of steps. -/
def hasCycleWithin (flow : Flow) (steps : Nat) : Option Bool := do
  let successors ← flow.successorTable
  (Progress.start (Ledger.keys successors)).answerWithin successors steps

/-- Two flows have the same ids, and between these the same links up to order, repetition
and all that is not an end of a link. -/
structure SameGraph (flow other : Flow) : Prop where
  hasId : ∀ id, flow.HasId id ↔ other.HasId id
  joined : ∀ source target, flow.HasId source → flow.HasId target →
    ((∃ link ∈ flow.links, link.source = source ∧ link.target = target) ↔
      ∃ link ∈ other.links, link.source = source ∧ link.target = target)

theorem SameGraph.arrow_eq {flow other : Flow} (same : SameGraph flow other) :
    flow.Arrow = other.Arrow := by
  funext source target
  apply propext
  rw [Arrow, Arrow, ← same.hasId, ← same.hasId]
  constructor
  · rintro ⟨sourceHas, targetHas, joined⟩
    exact ⟨sourceHas, targetHas, (same.joined source target sourceHas targetHas).mp joined⟩
  · rintro ⟨sourceHas, targetHas, joined⟩
    exact ⟨sourceHas, targetHas, (same.joined source target sourceHas targetHas).mpr joined⟩

theorem hasCycleWithin_eq {flow : Flow} {steps : Nat}
    (enough : 2 * flow.ids.length + flow.innerLinks.length < steps) :
    flow.hasCycleWithin steps = some flow.hasCycle := by
  rw [hasCycleWithin, successorTable_eq, Option.bind_eq_bind, Option.bind_some,
    keys_successorMap, ← Progress.verdict_start]
  apply (Progress.InStep.start flow).answerWithin
  rw [Progress.weight_start]
  exact enough

/-- Some stage is on a cycle, when there is one. -/
theorem hasCycle_iff (flow : Flow) :
    flow.hasCycle = true ↔ ∃ id, flow.HasId id ∧ TransGen flow.Arrow id id := by
  rw [← Bool.not_eq_false, hasCycle_eq_false_iff, Acyclic, Classical.not_forall_not]
  constructor
  · rintro ⟨id, cycle⟩
    exact ⟨id, hasId_of_transGen cycle, cycle⟩
  · rintro ⟨id, _, cycle⟩
    exact ⟨id, cycle⟩

/-- Flows that are the same graph have a cycle both or neither. -/
theorem SameGraph.hasCycle_eq {flow other : Flow} (same : SameGraph flow other) :
    other.hasCycle = flow.hasCycle := by
  rw [Bool.eq_iff_iff, hasCycle_iff, hasCycle_iff, same.arrow_eq]
  simp only [same.hasId]

/-- The search over a stack ends with the answer to whether some stage can be reached from
itself, and this is an answer about the graph alone. -/
theorem search_answers_about_graph (flow : Flow) :
    (∀ steps, 2 * flow.ids.length + flow.innerLinks.length < steps →
        flow.hasCycleWithin steps = some flow.hasCycle) ∧
      (flow.hasCycle = true ↔ ∃ id, flow.HasId id ∧ TransGen flow.Arrow id id) ∧
      ∀ other, SameGraph flow other → other.hasCycle = flow.hasCycle :=
  ⟨fun _ enough => hasCycleWithin_eq enough, flow.hasCycle_iff, fun _ same => same.hasCycle_eq⟩

/-- Two stages that lead to each other, with an id that repeats and a link to nowhere. -/
def knot : Flow :=
  { stages := [
      { id := "train", type := TypeName.training },
      { id := "judge", type := TypeName.evaluation },
      { id := "train", type := TypeName.dataSplit }]
    links := [
      Link.make "" "train" "gone",
      Link.make "" "train" "judge",
      Link.make "" "judge" "train"] }

/-- The same graph, in another order, with a link twice and without the link to nowhere. -/
def knotAgain : Flow :=
  { stages := [
      { id := "judge", type := TypeName.evaluation },
      { id := "train", type := TypeName.training }]
    links := [
      Link.make "" "judge" "train",
      Link.make "" "train" "judge",
      Link.make "" "judge" "train"] }

theorem knot_searched :
    SameGraph knot knotAgain ∧ knot.hasCycleWithin 7 = some true ∧
      knotAgain.hasCycle = true := by
  have same : SameGraph knot knotAgain := by
    constructor
    · intro id
      simp only [HasId, knot, knotAgain, List.mem_cons, List.not_mem_nil]
      grind
    · rintro source target ⟨first, firstMember, rfl⟩ ⟨second, secondMember, rfl⟩
      simp only [knot, List.mem_cons, List.not_mem_nil, or_false] at firstMember secondMember
      rcases firstMember with rfl | rfl | rfl <;> rcases secondMember with rfl | rfl | rfl <;>
        simp [knot, knotAgain, Link.make]
  have closes : knot.hasCycle = true := by cbv
  obtain ⟨ends, _, asGraph⟩ := knot.search_answers_about_graph
  exact ⟨same, closes ▸ ends 7 (by decide), closes ▸ asGraph knotAgain same⟩

end StageGraph.Flow
