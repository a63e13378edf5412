import StageGraph.Proofs.Distinct
import StageGraph.Proofs.Graph.CycleSearch
import StageGraph.Proofs.Graph.Draining

/-!
# The execution order follows the arrows

In an acyclic flow every id is emitted, each once and behind all that leads to
it.  The emitted ids become the order of the stages only when there are as many
ids as stages: a flow in which an id repeats keeps its own order, whether or not
that order follows the arrows.  `order_follows_iff` says exactly when the order
of an acyclic flow does.
-/

namespace StageGraph

/-- The place of the first stage with an id; behind all stages when there is
none. -/
def placeOf (stages : List Stage) (id : String) : Nat :=
  (stages.map Stage.id).idxOf id

/-- The first stage with one id stands before the first stage with another. -/
def Precedes (stages : List Stage) (first second : String) : Prop :=
  placeOf stages first < placeOf stages second ∧
    placeOf stages second < stages.length

instance (stages : List Stage) (first second : String) :
    Decidable (Precedes stages first second) :=
  inferInstanceAs (Decidable (_ ∧ _))

namespace Flow

/-- Every arrow of the flow leads forward in a list of stages. -/
def Follows (flow : Flow) (stages : List Stage) : Prop :=
  ∀ source target, flow.Arrow source target → Precedes stages source target

/-! ## Stages by their ids -/

theorem stage?_of_hasId {flow : Flow} {id : String} (has : flow.HasId id) :
    ∃ stage ∈ flow.stages, flow.stage? id = some stage ∧ stage.id = id := by
  obtain ⟨bearer, bearerMember, bearerId⟩ := has
  cases found : flow.stage? id with
  | none =>
      have unborne := List.find?_eq_none.mp found bearer bearerMember
      simp [bearerId] at unborne
  | some stage =>
      have same : stage.id = id := by
        simpa using List.find?_some found
      exact ⟨stage, List.mem_of_find?_eq_some found, rfl, same⟩

theorem map_id_filterMap_stage? {flow : Flow} {ids : List String}
    (inside : ∀ id ∈ ids, flow.HasId id) :
    (ids.filterMap flow.stage?).map Stage.id = ids := by
  induction ids with
  | nil => rfl
  | cons id rest induction =>
      obtain ⟨stage, _, found, same⟩ := stage?_of_hasId (inside id List.mem_cons_self)
      have restInside : ∀ other ∈ rest, flow.HasId other := by
        intro other member
        exact inside other (List.mem_cons_of_mem _ member)
      rw [List.filterMap_cons_some found, List.map_cons, same,
        induction restInside]

theorem length_ids_eq_iff (flow : Flow) :
    flow.ids.length = flow.stages.length ↔ (flow.stages.map Stage.id).Nodup := by
  rw [← length_distinct_eq_iff, List.length_map, ids]

/-! ## The emitted ids -/

theorem ready_sources (flow : Flow) : Graph.Ready flow.sources flow.innerLinks := by
  constructor
  · exact (nodup_distinct _).filter _
  · intro link member source
    have unled := (List.mem_filter.mp source).2
    simp only [Bool.not_eq_true', List.any_eq_false, decide_eq_true_eq] at unled
    exact unled link member rfl

theorem nodup_emitted (flow : Flow) : flow.emitted.Nodup :=
  Graph.nodup_drain flow.ready_sources

theorem hasId_of_mem_emitted {flow : Flow} {id : String}
    (member : id ∈ flow.emitted) : flow.HasId id := by
  rcases Graph.mem_queue_or_target_of_mem_drain member with
    source | ⟨link, linkMember, rfl⟩
  · exact mem_ids.mp (List.mem_filter.mp source).1
  · exact (arrow_of_mem_innerLinks linkMember).2.1

theorem length_emitted_le (flow : Flow) :
    flow.emitted.length ≤ flow.ids.length := by
  apply (List.subperm_of_subset flow.nodup_emitted _).length_le
  intro id member
  exact mem_ids.mpr (hasId_of_mem_emitted member)

/-- An id is emitted when all its predecessors are. -/
theorem mem_emitted_of_predecessors {flow : Flow} {id : String}
    (has : flow.HasId id)
    (predecessors : ∀ earlier, flow.Arrow earlier id → earlier ∈ flow.emitted) :
    id ∈ flow.emitted := by
  by_cases reached : ∃ link ∈ flow.innerLinks, link.target = id
  · apply Graph.mem_drain_of_sources reached
    intro link member target
    exact predecessors link.source (target ▸ arrow_of_mem_innerLinks member)
  · apply Graph.mem_drain_of_mem_queue
    apply List.mem_filter.mpr
    refine ⟨mem_ids.mpr has, ?_⟩
    simpa using reached

theorem emitted_perm_ids {flow : Flow} (acyclic : flow.Acyclic) :
    flow.emitted.Perm flow.ids := by
  apply (List.perm_ext_iff_of_nodup flow.nodup_emitted (nodup_distinct _)).mpr
  intro id
  constructor
  · intro member
    exact mem_ids.mpr (hasId_of_mem_emitted member)
  · intro member
    exact acyclic.induction
      (fun _ has predecessors => mem_emitted_of_predecessors has predecessors)
      (mem_ids.mp member)

/-! ## The order of the stages -/

/-- A flow in which an id repeats keeps its own order. -/
theorem order_eq_stages_of_repeats {flow : Flow}
    (repeats : ¬ (flow.stages.map Stage.id).Nodup) : flow.order = flow.stages := by
  have fewerIds : flow.ids.length < flow.stages.length := by
    have atMost := length_distinct_le (flow.stages.map Stage.id)
    rw [List.length_map] at atMost
    have different := mt flow.length_ids_eq_iff.mp repeats
    exact Nat.lt_of_le_of_ne atMost different
  have atMost := flow.length_emitted_le
  rw [order, arranged, if_neg (by omega)]

theorem map_id_order {flow : Flow}
    (complete : flow.emitted.length = flow.stages.length) :
    flow.order.map Stage.id = flow.emitted := by
  rw [order, arranged, if_pos complete]
  exact map_id_filterMap_stage? fun _ => hasId_of_mem_emitted

/-- The order loses no stage and adds none. -/
theorem order_perm_stages (flow : Flow) : flow.order.Perm flow.stages := by
  by_cases complete : flow.emitted.length = flow.stages.length
  · have orderIds := map_id_order complete
    have orderNodup : flow.order.Nodup := by
      apply List.Nodup.of_map Stage.id
      rw [orderIds]
      exact flow.nodup_emitted
    have inside : flow.order ⊆ flow.stages := by
      intro stage member
      rw [order, arranged, if_pos complete] at member
      obtain ⟨id, _, found⟩ := List.mem_filterMap.mp member
      exact List.mem_of_find?_eq_some found
    have orderLength : flow.order.length = flow.stages.length := by
      rw [← complete, ← orderIds, List.length_map]
    exact (List.subperm_of_subset orderNodup inside).perm_of_length_le
      (Nat.le_of_eq orderLength.symm)
  · rw [order, arranged, if_neg complete]

theorem order_eq_nil {flow : Flow} (none : flow.stages = []) : flow.order = [] := by
  apply List.Perm.eq_nil
  rw [← none]
  exact flow.order_perm_stages

theorem nodup_map_id_order {flow : Flow}
    (nodup : (flow.stages.map Stage.id).Nodup) :
    (flow.order.map Stage.id).Nodup :=
  (flow.order_perm_stages.map Stage.id).nodup_iff.mpr nodup

theorem length_emitted_eq {flow : Flow} (acyclic : flow.Acyclic)
    (nodup : (flow.stages.map Stage.id).Nodup) :
    flow.emitted.length = flow.stages.length := by
  rw [(emitted_perm_ids acyclic).length_eq, flow.length_ids_eq_iff.mpr nodup]

/-- With ids that do not repeat, the order of an acyclic flow follows its
arrows. -/
theorem follows_order {flow : Flow} (acyclic : flow.Acyclic)
    (nodup : (flow.stages.map Stage.id).Nodup) : flow.Follows flow.order := by
  intro source target arrow
  have complete := length_emitted_eq acyclic nodup
  have orderIds := map_id_order complete
  have targetEmitted : target ∈ flow.emitted :=
    (emitted_perm_ids acyclic).mem_iff.mpr (mem_ids.mpr arrow.2.1)
  obtain ⟨link, member, rfl, rfl⟩ := arrow_iff_innerLinks.mp arrow
  have forward : flow.emitted.idxOf link.source < flow.emitted.idxOf link.target :=
    Graph.idxOf_source_lt_idxOf_target flow.ready_sources member targetEmitted
  have inside : flow.emitted.idxOf link.target < flow.emitted.length :=
    List.idxOf_lt_length_of_mem targetEmitted
  have orderLength : flow.order.length = flow.emitted.length := by
    rw [← orderIds, List.length_map]
  unfold Precedes placeOf
  rw [orderIds, orderLength]
  exact ⟨forward, inside⟩

/-- The order of a flow without cycles leads every arrow forward exactly when
ids do not repeat or the flow's own order does so already. -/
theorem order_follows_iff (flow : Flow) :
    (flow.hasCycle = false → flow.Follows flow.order) ↔
      flow.hasCycle = true ∨ (flow.stages.map Stage.id).Nodup ∨
        flow.Follows flow.stages := by
  cases cyclic : flow.hasCycle with
  | true => simp
  | false =>
      have acyclic := flow.hasCycle_eq_false_iff.mp cyclic
      by_cases nodup : (flow.stages.map Stage.id).Nodup
      · simp [nodup, follows_order acyclic nodup]
      · simp [nodup, order_eq_stages_of_repeats nodup]

/-- Two stages share the id that a link starts from, and a third one, to which
the link leads, stands before both. -/
def sharedId : Flow :=
  { stages := [
      { id := "b", type := TypeName.preprocess },
      { id := "a", type := TypeName.preprocess },
      { id := "a", type := TypeName.preprocess }]
    links := [Link.make "" "a" "b"] }

/-- There is no cycle, and still the link leads backward in the order. -/
theorem sharedId_not_follows :
    sharedId.hasCycle = false ∧ ¬ sharedId.Follows sharedId.order := by
  have repeats : ¬ (sharedId.stages.map Stage.id).Nodup := by decide
  have arrow : sharedId.Arrow "a" "b" := by
    apply arrow_iff_innerLinks.mpr
    exact ⟨Link.make "" "a" "b", by decide, rfl, rfl⟩
  refine ⟨by cbv, ?_⟩
  intro follows
  rw [order_eq_stages_of_repeats repeats] at follows
  have forward := follows "a" "b" arrow
  revert forward
  decide

end Flow

end StageGraph
