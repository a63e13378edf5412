import Mathlib.Data.Nat.SuccPred
import Mathlib.Data.Prod.Lex
import StageGraph.Proofs.Graph.Lookups

/-!
# The rank of a stage in the order

The order of a flow sorts the stages along the arrows, or stays the flow's own when
a cycle makes that impossible.  Among all sorted orders it is one that is described
without a queue: first come the stages that nothing leads to, as they stand in the
flow, and then all others by their ranks.  The rank of a stage is the place of the
last of its predecessors and, where this is the same, the place of the last link
from there.  Ranks speak of the order that they determine; still no other list of
the stages is ordered by its own ranks.
-/

namespace StageGraph.Flow

open Relation

variable {flow : Flow}

/-! ## Cycles keep the order -/

/-- Where all ids are emitted, no cycle passes through them: every arrow leads forward
in the emitted ids. -/
theorem acyclic_of_complete (complete : flow.emitted.length = flow.stages.length) :
    flow.Acyclic := by
  have atMost := length_distinct_le (flow.stages.map Stage.id)
  rw [List.length_map, ← ids] at atMost
  have inside : flow.emitted ⊆ flow.ids :=
    fun id member => mem_ids.mpr (hasId_of_mem_emitted member)
  have all : flow.emitted.Perm flow.ids :=
    (List.subperm_of_subset flow.nodup_emitted inside).perm_of_length_le (by omega)
  have forward : ∀ source target, TransGen flow.Arrow source target →
      flow.emitted.idxOf source < flow.emitted.idxOf target := by
    have step : ∀ source target, flow.Arrow source target →
        flow.emitted.idxOf source < flow.emitted.idxOf target := by
      intro source target arrow
      have emitted := all.mem_iff.mpr (mem_ids.mpr arrow.2.1)
      obtain ⟨link, member, rfl, rfl⟩ := arrow_iff_innerLinks.mp arrow
      exact Graph.idxOf_source_lt_idxOf_target flow.ready_sources member emitted
    intro source target leads
    induction leads with
    | single arrow => exact step _ _ arrow
    | tail _ arrow induction => exact induction.trans (step _ _ arrow)
  intro id cycle
  exact Nat.lt_irrefl _ (forward id id cycle)

/-- A flow with a cycle keeps its own order. -/
theorem order_eq_stages_of_cycle (cyclic : ¬ flow.Acyclic) : flow.order = flow.stages := by
  rw [order, arranged, if_neg fun complete => cyclic (acyclic_of_complete complete)]

/-- When ids do not repeat, the order of an acyclic flow is its stages sorted along the
arrows, a cycle anywhere keeps the flow's own order, and no lookup fails on the way. -/
theorem order_sorts_or_stays (nodup : (flow.stages.map Stage.id).Nodup) :
    flow.orderByTables = some flow.order ∧
      (flow.Acyclic → flow.order.Perm flow.stages ∧ flow.Follows flow.order) ∧
      (¬ flow.Acyclic → flow.order = flow.stages) :=
  ⟨flow.orderByTables_eq,
    fun acyclic => ⟨flow.order_perm_stages, follows_order acyclic nodup⟩,
    order_eq_stages_of_cycle⟩

/-- A stage leads to two that lead to each other, and to one that is not there. -/
def tangledTail : Flow :=
  { stages := [
      { id := "judge", type := TypeName.evaluation },
      { id := "train", type := TypeName.training },
      { id := "split", type := TypeName.dataSplit }]
    links := [
      Link.make "" "split" "train",
      Link.make "" "split" "gone",
      Link.make "" "train" "judge",
      Link.make "" "judge" "train"] }

/-- The same stages with the link back taken away. -/
def untangledTail : Flow :=
  { tangledTail with links := tangledTail.links.take 3 }

theorem tangledTail_stays_untangledTail_sorts :
    (tangledTail.stages.map Stage.id).Nodup ∧ (untangledTail.stages.map Stage.id).Nodup ∧
      ¬ tangledTail.Acyclic ∧ tangledTail.order = tangledTail.stages ∧
      untangledTail.Acyclic ∧ untangledTail.order.Perm untangledTail.stages ∧
      untangledTail.Follows untangledTail.order := by
  have nodup : (tangledTail.stages.map Stage.id).Nodup := by decide
  have cyclic : ¬ tangledTail.Acyclic := by
    rw [← hasCycle_eq_false_iff]
    have closes : tangledTail.hasCycle = true := by cbv
    simp [closes]
  have acyclic : untangledTail.Acyclic := untangledTail.hasCycle_eq_false_iff.mp (by cbv)
  have untangledNodup : (untangledTail.stages.map Stage.id).Nodup := nodup
  have sorted := (order_sorts_or_stays untangledNodup).2.1 acyclic
  exact ⟨nodup, untangledNodup, cyclic, (order_sorts_or_stays nodup).2.2 cyclic, acyclic, sorted⟩

/-! ## Ranks -/

/-- At a place in the list of links one leads from one id to another. -/
def LinksAt (flow : Flow) (source target : String) (place : Nat) : Prop :=
  ∃ link, flow.links[place]? = some link ∧ link.source = source ∧ link.target = target

/-- In an order of the ids, an id waits last for a predecessor, and for the link from there
that stands at a place in the list of links. -/
structure WaitsFor (flow : Flow) (order : List String) (id last : String) (place : Nat) :
    Prop where
  arrow : flow.Arrow last id
  latest : ∀ other, flow.Arrow other id → order.idxOf other ≤ order.idxOf last
  link : IsGreatest { place | flow.LinksAt last id place } place

/-- One id ranks before another: in the lexicographic order of the place of the
predecessor that the id waits for and the place of the link from there. -/
def RanksBefore (flow : Flow) (order : List String) (first second : String) : Prop :=
  ∃ last place otherLast otherPlace,
    flow.WaitsFor order first last place ∧ flow.WaitsFor order second otherLast otherPlace ∧
      toLex (order.idxOf last, place) < toLex (order.idxOf otherLast, otherPlace)

/-- Whether an arrow leads to an id. -/
def isLed (flow : Flow) (id : String) : Bool :=
  flow.innerLinks.any fun link => link.target = id

/-- A list of the stages in which those that nothing leads to come first, as they stand in
the flow, and all others follow by their ranks in the list itself. -/
def Ranked (flow : Flow) (stages : List Stage) : Prop :=
  ∃ led, stages = (flow.stages.filter fun stage => !flow.isLed stage.id) ++ led ∧
    led.Perm (flow.stages.filter fun stage => flow.isLed stage.id) ∧
    led.Pairwise fun first second =>
      flow.RanksBefore (stages.map Stage.id) first.id second.id

theorem isLed_iff {id : String} : flow.isLed id = true ↔ ∃ source, flow.Arrow source id := by
  simp only [isLed, List.any_eq_true, decide_eq_true_eq]
  constructor
  · rintro ⟨link, member, rfl⟩
    exact ⟨link.source, arrow_of_mem_innerLinks member⟩
  · rintro ⟨source, arrow⟩
    obtain ⟨link, member, _, target⟩ := arrow_iff_innerLinks.mp arrow
    exact ⟨link, member, target⟩

theorem exists_linksAt_iff {source target : String} (sourceHas : flow.HasId source)
    (targetHas : flow.HasId target) :
    (∃ place, flow.LinksAt source target place) ↔ flow.Arrow source target := by
  constructor
  · rintro ⟨place, link, found, rfl, rfl⟩
    exact ⟨sourceHas, targetHas, link, List.mem_of_getElem? found, rfl, rfl⟩
  · rintro ⟨_, _, link, member, rfl, rfl⟩
    obtain ⟨place, found⟩ := List.mem_iff_getElem?.mp member
    exact ⟨place, link, found, rfl, rfl⟩

/-- Among the links of an arrow one is the last. -/
theorem exists_isGreatest_linksAt {source target : String} (arrow : flow.Arrow source target) :
    ∃ place, IsGreatest { place | flow.LinksAt source target place } place := by
  apply BddAbove.exists_isGreatest_of_nonempty
  · refine ⟨flow.links.length, ?_⟩
    rintro place ⟨link, found, _⟩
    exact (List.getElem?_eq_some_iff.mp found).1.le
  · exact (exists_linksAt_iff arrow.1 arrow.2.1).mpr arrow

namespace WaitsFor

variable {order : List String} {id last otherLast : String} {place otherPlace : Nat}

/-- What an id waits for is settled by the order. -/
theorem unique (inside : ∀ id, flow.HasId id → id ∈ order)
    (waits : flow.WaitsFor order id last place)
    (other : flow.WaitsFor order id otherLast otherPlace) :
    last = otherLast ∧ place = otherPlace := by
  have same : order.idxOf last = order.idxOf otherLast :=
    Nat.le_antisymm (other.latest _ waits.arrow) (waits.latest _ other.arrow)
  obtain rfl := (List.idxOf_inj (inside _ waits.arrow.1)).mp same
  exact ⟨rfl, waits.link.unique other.link⟩

/-- Orders that agree on the predecessors of an id agree on what it waits for. -/
theorem congr {others : List String} (waits : flow.WaitsFor order id last place)
    (agree : ∀ source, flow.Arrow source id → others.idxOf source = order.idxOf source) :
    flow.WaitsFor others id last place where
  arrow := waits.arrow
  latest := by
    intro other arrow
    rw [agree _ arrow, agree _ waits.arrow]
    exact waits.latest other arrow
  link := waits.link

end WaitsFor

namespace RanksBefore

variable {order : List String} {first second : String}

theorem asymm (inside : ∀ id, flow.HasId id → id ∈ order)
    (before : flow.RanksBefore order first second) : ¬ flow.RanksBefore order second first := by
  rintro ⟨last, place, otherLast, otherPlace, waits, otherWaits, less⟩
  obtain ⟨last', place', otherLast', otherPlace', waits', otherWaits', less'⟩ := before
  obtain ⟨rfl, rfl⟩ := waits.unique inside otherWaits'
  obtain ⟨rfl, rfl⟩ := otherWaits.unique inside waits'
  exact lt_asymm less less'

theorem congr {others : List String} (before : flow.RanksBefore order first second)
    (agreeFirst : ∀ source, flow.Arrow source first →
      others.idxOf source = order.idxOf source)
    (agreeSecond : ∀ source, flow.Arrow source second →
      others.idxOf source = order.idxOf source) :
    flow.RanksBefore others first second := by
  obtain ⟨last, place, otherLast, otherPlace, waits, otherWaits, less⟩ := before
  refine ⟨last, place, otherLast, otherPlace, waits.congr agreeFirst,
    otherWaits.congr agreeSecond, ?_⟩
  rw [agreeFirst _ waits.arrow, agreeSecond _ otherWaits.arrow]
  exact less

end RanksBefore

/-! ## The order is ranked -/

/-- What is taken away together is released in the order of the last links: behind some
point the links lead to the later id still, and to the earlier one no more. -/
theorem pairwise_released (waiting taken : List Link) :
    (Graph.released waiting taken).Pairwise fun first second =>
      ∃ front back, taken = front ++ back ∧ (∃ link ∈ back, link.target = second) ∧
        ∀ link ∈ back, link.target ≠ first := by
  induction taken with
  | nil => exact List.Pairwise.nil
  | cons link rest induction =>
      have later : (Graph.released waiting rest).Pairwise fun first second =>
          ∃ front back, link :: rest = front ++ back ∧ (∃ link ∈ back, link.target = second) ∧
            ∀ link ∈ back, link.target ≠ first := by
        apply induction.imp
        rintro first second ⟨front, back, rfl, reached, unreached⟩
        exact ⟨link :: front, back, rfl, reached, unreached⟩
      rw [Graph.released]
      split
      · exact later
      · rename_i last
        refine List.pairwise_cons.mpr ⟨?_, later⟩
        intro second member
        refine ⟨[link], rest, rfl, (Graph.mem_released.mp member).1, ?_⟩
        intro other otherMember same
        simp only [List.any_append, List.any_eq_true, Bool.or_eq_true, decide_eq_true_eq] at last
        exact last (.inl ⟨other, otherMember, same⟩)

/-- How far the ids of a flow are emitted: some are, the queue is next, and the links of
those that are not emitted are left. -/
structure Emitting (flow : Flow) (done queue : List String) (links : List Link) : Prop where
  whole : flow.emitted = done ++ Graph.drain queue links
  left : links = flow.innerLinks.filter fun link => link.source ∉ done
  ready : Graph.Ready queue links

namespace Emitting

variable {done queue rest : List String} {links : List Link} {id target : String}

theorem start (flow : Flow) : Emitting flow [] flow.sources flow.innerLinks where
  whole := rfl
  left := by simp
  ready := flow.ready_sources

theorem next (emitting : Emitting flow done (id :: rest) links) :
    Emitting flow (done ++ [id])
      (rest ++ Graph.released (Graph.staying id links) (Graph.leaving id links))
      (Graph.staying id links) where
  whole := by
    rw [emitting.whole, Graph.drain, List.append_assoc]
    rfl
  left := by
    rw [Graph.staying, emitting.left, List.filter_filter]
    congr 1
    funext link
    simp [and_comm]
  ready := emitting.ready.next

theorem not_mem_done (emitting : Emitting flow done (id :: rest) links) : id ∉ done := by
  have nodup := flow.nodup_emitted
  rw [emitting.whole, Graph.drain] at nodup
  intro member
  exact (List.nodup_append'.mp nodup).2.2 member List.mem_cons_self

/-- The id that is emitted next stands behind all that were emitted. -/
theorem idxOf_eq (emitting : Emitting flow done (id :: rest) links) :
    flow.emitted.idxOf id = done.length := by
  rw [emitting.whole, List.idxOf_append, if_neg emitting.not_mem_done, Graph.drain,
    List.idxOf_cons_self, Nat.zero_add]

/-- A released id waits last for the id that is emitted. -/
theorem exists_waitsFor (emitting : Emitting flow done (id :: rest) links)
    (member : target ∈ Graph.released (Graph.staying id links) (Graph.leaving id links)) :
    ∃ place, flow.WaitsFor flow.emitted target id place := by
  obtain ⟨⟨link, leaves, rfl⟩, none⟩ := Graph.mem_released.mp member
  obtain ⟨linkMember, rfl⟩ := Graph.mem_leaving.mp leaves
  rw [emitting.left] at linkMember
  have arrow := arrow_of_mem_innerLinks (List.mem_of_mem_filter linkMember)
  obtain ⟨place, greatest⟩ := exists_isGreatest_linksAt arrow
  refine ⟨place, arrow, ?_, greatest⟩
  intro other otherArrow
  obtain ⟨otherLink, inner, rfl, same⟩ := arrow_iff_innerLinks.mp otherArrow
  rw [emitting.idxOf_eq]
  by_cases before : otherLink.source ∈ done
  · rw [emitting.whole, List.idxOf_append_of_mem before]
    exact (List.idxOf_lt_length_of_mem before).le
  · have waits : otherLink ∈ links := by
      rw [emitting.left]
      exact List.mem_filter.mpr ⟨inner, decide_eq_true before⟩
    have itself : otherLink.source = link.source := by
      by_contra different
      exact none otherLink (Graph.mem_staying.mpr ⟨waits, different⟩) same
    rw [itself, emitting.idxOf_eq]

/-- The links of the id that is emitted next, as they stand in the list of all links. -/
theorem leaving_eq (emitting : Emitting flow done (id :: rest) links) :
    Graph.leaving id links =
      flow.links.filter fun link => joins flow.ids link && link.source = id := by
  rw [Graph.leaving, emitting.left, innerLinks, List.filter_filter, List.filter_filter]
  congr 1
  funext link
  by_cases same : link.source = id
  · simp [same, emitting.not_mem_done]
  · simp [same]

/-- Of two released ids the one is first whose last link is. -/
theorem pairwise_place (emitting : Emitting flow done (id :: rest) links) :
    (Graph.released (Graph.staying id links) (Graph.leaving id links)).Pairwise
      fun first second => ∀ place otherPlace, flow.WaitsFor flow.emitted first id place →
        flow.WaitsFor flow.emitted second id otherPlace → place < otherPlace := by
  apply (pairwise_released _ _).imp
  rintro first second ⟨front, back, split, ⟨link, linkMember, target⟩, unreached⟩
    place otherPlace waits otherWaits
  rw [emitting.leaving_eq] at split
  obtain ⟨before, behind, links, _, rfl⟩ := List.filter_eq_append_iff.mp split
  have reaches : before.length ≤ otherPlace := by
    obtain ⟨linkMember, leaves⟩ := List.mem_filter.mp linkMember
    obtain ⟨offset, found⟩ := List.mem_iff_getElem?.mp linkMember
    simp only [Bool.and_eq_true, decide_eq_true_eq] at leaves
    have stands : flow.LinksAt id second (before.length + offset) := by
      refine ⟨link, ?_, leaves.2, target⟩
      rw [links, List.getElem?_append_right (Nat.le_add_right _ _), Nat.add_sub_cancel_left,
        found]
    exact (Nat.le_add_right _ _).trans (otherWaits.link.2 stands)
  apply Nat.lt_of_lt_of_le _ reaches
  by_contra behindPlace
  obtain ⟨last, found, source, lastTarget⟩ := waits.link.1
  rw [links, List.getElem?_append_right (Nat.le_of_not_lt behindPlace)] at found
  apply unreached last _ lastTarget
  apply List.mem_filter.mpr
  refine ⟨List.mem_of_getElem? found, ?_⟩
  have inner : joins flow.ids last = true := by
    rw [joins_iff, source, lastTarget, mem_ids, mem_ids]
    exact ⟨waits.arrow.1, waits.arrow.2.1⟩
  simp [inner, source]

/-- What is emitted behind the queue is ordered by its ranks, and waits for ids that are
not emitted yet. -/
theorem exists_drain_eq (emitting : Emitting flow done queue links) :
    ∃ later, Graph.drain queue links = queue ++ later ∧
      later.Pairwise (flow.RanksBefore flow.emitted) ∧
      ∀ id ∈ later, ∃ last place, flow.WaitsFor flow.emitted id last place ∧
        done.length ≤ flow.emitted.idxOf last := by
  -- The induction follows the queue.  The ids that one step releases wait for the id that
  -- is emitted in it, all later ones wait for ids behind.
  induction queue, links using Graph.drain.induct generalizing done with
  | case1 links => exact ⟨[], by simp [Graph.drain]⟩
  | case2 links id rest induction =>
      obtain ⟨later, drained, ranked, waiting⟩ := induction emitting.next
      refine ⟨Graph.released (Graph.staying id links) (Graph.leaving id links) ++ later,
        ?_, ?_, ?_⟩
      · rw [Graph.drain, drained, List.append_assoc, List.cons_append]
      · apply List.pairwise_append.mpr
        refine ⟨?_, ranked, ?_⟩
        · apply emitting.pairwise_place.imp_of_mem
          intro first second firstMember secondMember forward
          obtain ⟨place, waits⟩ := emitting.exists_waitsFor firstMember
          obtain ⟨otherPlace, otherWaits⟩ := emitting.exists_waitsFor secondMember
          refine ⟨id, place, id, otherPlace, waits, otherWaits, ?_⟩
          exact Prod.Lex.toLex_lt_toLex.mpr (.inr ⟨rfl, forward _ _ waits otherWaits⟩)
        · intro first firstMember second secondMember
          obtain ⟨place, waits⟩ := emitting.exists_waitsFor firstMember
          obtain ⟨last, otherPlace, otherWaits, behind⟩ := waiting second secondMember
          rw [List.length_append, List.length_singleton] at behind
          refine ⟨id, place, last, otherPlace, waits, otherWaits, ?_⟩
          apply Prod.Lex.toLex_lt_toLex.mpr
          left
          rw [emitting.idxOf_eq]
          exact behind
      · intro target member
        rcases List.mem_append.mp member with freed | member
        · obtain ⟨place, waits⟩ := emitting.exists_waitsFor freed
          exact ⟨id, place, waits, emitting.idxOf_eq.ge⟩
        · obtain ⟨last, place, waits, behind⟩ := waiting target member
          rw [List.length_append] at behind
          exact ⟨last, place, waits, (Nat.le_add_right _ _).trans behind⟩

end Emitting

/-- Some stages of a flow are found again by their ids. -/
theorem filterMap_stage?_map_id (nodup : (flow.stages.map Stage.id).Nodup) {part : List Stage}
    (inside : ∀ stage ∈ part, stage ∈ flow.stages) :
    (part.map Stage.id).filterMap flow.stage? = part := by
  induction part with
  | nil => rfl
  | cons stage rest induction =>
      obtain ⟨stageInside, restInside⟩ := List.forall_mem_cons.mp inside
      obtain ⟨found, member, same, id⟩ := stage?_of_hasId ⟨stage, stageInside, rfl⟩
      obtain rfl := List.inj_on_of_nodup_map nodup member stageInside id
      rw [List.map_cons, List.filterMap_cons_some same, induction restInside]

theorem ids_eq_of_nodup (nodup : (flow.stages.map Stage.id).Nodup) :
    flow.ids = flow.stages.map Stage.id :=
  distinct_eq_self nodup

theorem map_id_filter (nodup : (flow.stages.map Stage.id).Nodup) (accepts : String → Bool) :
    (flow.stages.filter fun stage => accepts stage.id).map Stage.id =
      flow.ids.filter accepts := by
  rw [ids_eq_of_nodup nodup, List.filter_map]
  rfl

theorem ranked_order (acyclic : flow.Acyclic) (nodup : (flow.stages.map Stage.id).Nodup) :
    flow.Ranked flow.order := by
  have complete := length_emitted_eq acyclic nodup
  have orderIds := map_id_order complete
  obtain ⟨later, drained, ranked, _⟩ := (Emitting.start flow).exists_drain_eq
  have emitted : flow.emitted = flow.sources ++ later := drained
  have split : flow.order =
      (flow.stages.filter fun stage => !flow.isLed stage.id) ++
        later.filterMap flow.stage? := by
    have first : flow.sources.filterMap flow.stage? =
        flow.stages.filter fun stage => !flow.isLed stage.id := by
      have sources : flow.sources =
          (flow.stages.filter fun stage => !flow.isLed stage.id).map Stage.id :=
        (map_id_filter nodup fun id => !flow.isLed id).symm
      rw [sources]
      exact filterMap_stage?_map_id nodup fun _ member => List.mem_of_mem_filter member
    rw [order, arranged, if_pos complete, emitted, List.filterMap_append, first]
  have laterIds : (later.filterMap flow.stage?).map Stage.id = later := by
    apply map_id_filterMap_stage?
    intro id member
    apply hasId_of_mem_emitted
    rw [emitted]
    exact List.mem_append_right _ member
  refine ⟨later.filterMap flow.stage?, split, ?_, ?_⟩
  · have parts := List.filter_append_perm (fun stage => !flow.isLed stage.id) flow.stages
    simp only [Bool.not_not] at parts
    have whole := flow.order_perm_stages.trans parts.symm
    rw [split] at whole
    exact (List.perm_append_left_iff _).mp whole
  · rw [orderIds, ← List.pairwise_map (f := Stage.id) (R := flow.RanksBefore flow.emitted),
      laterIds]
    exact ranked

/-! ## No other order is ranked -/

/-- An order of the ids that is ranked, and its part behind the ids that nothing leads to. -/
structure IsRanking (flow : Flow) (order led : List String) : Prop where
  split : order = flow.sources ++ led
  members : led.Perm (flow.ids.filter flow.isLed)
  ranked : led.Pairwise (flow.RanksBefore order)

theorem Ranked.exists_isRanking {stages : List Stage} (ranked : flow.Ranked stages)
    (nodup : (flow.stages.map Stage.id).Nodup) :
    ∃ led, flow.IsRanking (stages.map Stage.id) led := by
  obtain ⟨led, split, members, pairs⟩ := ranked
  refine ⟨led.map Stage.id, ?_, ?_, ?_⟩
  · rw [split, List.map_append, map_id_filter nodup fun id => !flow.isLed id]
    rfl
  · rw [← map_id_filter nodup]
    exact members.map Stage.id
  · exact List.pairwise_map.mpr pairs

namespace IsRanking

variable {order led : List String}

theorem perm_ids (ranking : flow.IsRanking order led) : order.Perm flow.ids := by
  rw [ranking.split]
  have parts := List.filter_append_perm (fun id => !flow.isLed id) flow.ids
  simp only [Bool.not_not] at parts
  exact (ranking.members.append_left _).trans parts

theorem mem_iff (ranking : flow.IsRanking order led) {id : String} :
    id ∈ order ↔ flow.HasId id := by
  rw [ranking.perm_ids.mem_iff, mem_ids]

theorem nodup (ranking : flow.IsRanking order led) : order.Nodup :=
  ranking.perm_ids.nodup_iff.mpr flow.nodup_ids

theorem idxOf_eq (ranking : flow.IsRanking order led) {id : String} (member : id ∈ led) :
    order.idxOf id = led.idxOf id + flow.sources.length := by
  have apart := ranking.nodup
  rw [ranking.split] at apart
  have notEarly : id ∉ flow.sources :=
    fun early => (List.nodup_append'.mp apart).2.2 early member
  rw [ranking.split, List.idxOf_append, if_neg notEarly]

/-- What stands behind an id that an arrow leads to is led to as well. -/
theorem mem_led (ranking : flow.IsRanking order led) {first second : String}
    (member : first ∈ led) (has : flow.HasId second)
    (behind : order.idxOf first ≤ order.idxOf second) : second ∈ led := by
  have among := ranking.mem_iff.mpr has
  rw [ranking.split] at among
  refine (List.mem_append.mp among).resolve_left fun early => ?_
  have within := List.idxOf_lt_length_of_mem early
  rw [ranking.idxOf_eq member, ranking.split, List.idxOf_append_of_mem early] at behind
  omega

theorem ranksBefore (ranking : flow.IsRanking order led) {first second : String}
    (firstMember : first ∈ led) (secondMember : second ∈ led)
    (forward : order.idxOf first < order.idxOf second) :
    flow.RanksBefore order first second := by
  rw [ranking.idxOf_eq firstMember, ranking.idxOf_eq secondMember] at forward
  have pair := List.pairwise_iff_getElem.mp ranking.ranked _ _
    (List.idxOf_lt_length_of_mem firstMember) (List.idxOf_lt_length_of_mem secondMember)
    (Nat.lt_of_add_lt_add_right forward)
  rwa [List.getElem_idxOf, List.getElem_idxOf] at pair

/-- Ranks lead every arrow forward.  Otherwise the ids from the target of some arrow on
would all wait for one another: none of them ranks before that target, so each waits for
an id behind it. -/
theorem idxOf_lt (ranking : flow.IsRanking order led) (acyclic : flow.Acyclic)
    {source target : String} (arrow : flow.Arrow source target) :
    order.idxOf source < order.idxOf target := by
  by_contra backward
  have targetLed : target ∈ led := by
    apply ranking.members.mem_iff.mpr
    exact List.mem_filter.mpr ⟨mem_ids.mpr arrow.2.1, isLed_iff.mpr ⟨source, arrow⟩⟩
  have none : ∀ {id}, flow.HasId id → ¬ order.idxOf target ≤ order.idxOf id := by
    intro id has
    apply acyclic.induction _ has
    intro id has earlier behind
    have led := ranking.mem_led targetLed has behind
    rcases Nat.lt_or_eq_of_le behind with later | same
    · obtain ⟨last, place, otherLast, otherPlace, waits, otherWaits, less⟩ :=
        ranking.ranksBefore targetLed led later
      apply earlier otherLast otherWaits.arrow
      have ordered := Prod.Lex.monotone_fst _ _ less.le
      calc order.idxOf target
          ≤ order.idxOf source := Nat.le_of_not_lt backward
        _ ≤ order.idxOf last := waits.latest _ arrow
        _ ≤ order.idxOf otherLast := ordered
    · obtain rfl := (List.idxOf_inj (ranking.mem_iff.mpr arrow.2.1)).mp same
      exact earlier source arrow (Nat.le_of_not_lt backward)
  exact none arrow.2.1 (Nat.le_refl _)

/-- What leads to an id stands in front of it. -/
theorem mem_of_arrow {done rest : List String} {source id : String} (acyclic : flow.Acyclic)
    (ranking : flow.IsRanking order led) (split : order = done ++ id :: rest)
    (arrow : flow.Arrow source id) : source ∈ done := by
  have forward := ranking.idxOf_lt acyclic arrow
  have atMost : order.idxOf id ≤ done.length := by
    rw [split, List.idxOf_append]
    split
    · exact List.idxOf_le_length
    · simp
  by_contra absent
  rw [split, List.idxOf_append, if_neg absent] at forward
  rw [split] at atMost
  omega

variable {others otherLed front rest otherRest : List String} {id other : String}

/-- Two rankings that begin alike go on with the same id: all that leads to the one or the
other next id stands in the common beginning, so each would rank before the other. -/
theorem next_eq (acyclic : flow.Acyclic) (ranking : flow.IsRanking order led)
    (otherRanking : flow.IsRanking others otherLed) (split : led = front ++ id :: rest)
    (otherSplit : otherLed = front ++ other :: otherRest)
    (perm : (id :: rest).Perm (other :: otherRest)) : id = other := by
  by_contra different
  have otherLater : other ∈ rest :=
    List.mem_of_ne_of_mem (Ne.symm different) (perm.mem_iff.mpr List.mem_cons_self)
  have later : id ∈ otherRest :=
    List.mem_of_ne_of_mem different (perm.mem_iff.mp List.mem_cons_self)
  have before : flow.RanksBefore order id other := by
    have pairs := ranking.ranked
    rw [split] at pairs
    exact (List.pairwise_cons.mp (List.pairwise_append.mp pairs).2.1).1 other otherLater
  have otherBefore : flow.RanksBefore others other id := by
    have pairs := otherRanking.ranked
    rw [otherSplit] at pairs
    exact (List.pairwise_cons.mp (List.pairwise_append.mp pairs).2.1).1 id later
  have whole : order = (flow.sources ++ front) ++ id :: rest := by
    rw [ranking.split, split, List.append_assoc]
  have otherWhole : others = (flow.sources ++ front) ++ other :: otherRest := by
    rw [otherRanking.split, otherSplit, List.append_assoc]
  have agree : ∀ source ∈ flow.sources ++ front, others.idxOf source = order.idxOf source := by
    intro source member
    rw [whole, otherWhole, List.idxOf_append_of_mem member, List.idxOf_append_of_mem member]
  have moved : flow.RanksBefore others id other :=
    before.congr (fun source arrow => agree source (ranking.mem_of_arrow acyclic whole arrow))
      fun source arrow => agree source (otherRanking.mem_of_arrow acyclic otherWhole arrow)
  exact moved.asymm (fun _ has => otherRanking.mem_iff.mpr has) otherBefore

/-- Two rankings that begin alike go on alike. -/
theorem rest_eq (acyclic : flow.Acyclic) (ranking : flow.IsRanking order led)
    (otherRanking : flow.IsRanking others otherLed) (split : led = front ++ rest)
    (otherSplit : otherLed = front ++ otherRest) (perm : rest.Perm otherRest) :
    rest = otherRest := by
  induction rest generalizing front otherRest with
  | nil => exact perm.nil_eq
  | cons id rest induction =>
      cases otherRest with
      | nil => exact perm.eq_nil
      | cons other otherRest =>
          obtain rfl := next_eq acyclic ranking otherRanking split otherSplit perm
          rw [List.append_cons] at split otherSplit
          rw [induction split otherSplit perm.cons_inv]

theorem order_eq (acyclic : flow.Acyclic) (ranking : flow.IsRanking order led)
    (otherRanking : flow.IsRanking others otherLed) : order = others := by
  have same := rest_eq acyclic ranking otherRanking (List.nil_append led).symm
    (List.nil_append otherLed).symm (ranking.members.trans otherRanking.members.symm)
  rw [ranking.split, otherRanking.split, same]

end IsRanking

theorem Ranked.mem_stages {stages : List Stage} (ranked : flow.Ranked stages) {stage : Stage}
    (member : stage ∈ stages) : stage ∈ flow.stages := by
  obtain ⟨led, rfl, members, _⟩ := ranked
  rcases List.mem_append.mp member with early | late
  · exact List.mem_of_mem_filter early
  · exact List.mem_of_mem_filter (members.mem_iff.mp late)

theorem Ranked.eq_of_ranked {stages others : List Stage} (acyclic : flow.Acyclic)
    (nodup : (flow.stages.map Stage.id).Nodup) (ranked : flow.Ranked stages)
    (otherRanked : flow.Ranked others) : stages = others := by
  obtain ⟨led, ranking⟩ := ranked.exists_isRanking nodup
  obtain ⟨otherLed, otherRanking⟩ := otherRanked.exists_isRanking nodup
  calc stages
      = (stages.map Stage.id).filterMap flow.stage? :=
        (filterMap_stage?_map_id nodup fun _ member => ranked.mem_stages member).symm
    _ = (others.map Stage.id).filterMap flow.stage? := by
        rw [ranking.order_eq acyclic otherRanking]
    _ = others := filterMap_stage?_map_id nodup fun _ member => otherRanked.mem_stages member

/-- In an acyclic flow whose ids do not repeat, the order of the stages is ranked, and no
other list is. -/
theorem order_ranked_alone (nodup : (flow.stages.map Stage.id).Nodup)
    (acyclic : flow.Acyclic) :
    flow.Ranked flow.order ∧ ∀ stages, flow.Ranked stages → stages = flow.order := by
  have ranked := ranked_order acyclic nodup
  exact ⟨ranked, fun _ other => other.eq_of_ranked acyclic nodup ranked⟩

/-- Two links lead from the first stage to the second, one of them behind the link to the
third, and the last stage waits for both. -/
def parallel : Flow :=
  { stages := [
      { id := "load", type := TypeName.ingest },
      { id := "plot", type := TypeName.exploration },
      { id := "clean", type := TypeName.preprocess },
      { id := "lone", type := TypeName.ingest },
      { id := "split", type := TypeName.dataSplit }]
    links := [
      Link.make "" "plot" "split",
      Link.make "" "load" "plot",
      Link.make "" "clean" "split",
      Link.make "" "gone" "clean",
      Link.make "" "load" "clean",
      Link.make "again" "load" "plot"] }

theorem parallel_ranked_alone :
    (parallel.stages.map Stage.id).Nodup ∧ parallel.Acyclic ∧
      parallel.order.map Stage.id = ["load", "lone", "clean", "plot", "split"] ∧
      parallel.Ranked parallel.order := by
  have nodup : (parallel.stages.map Stage.id).Nodup := by decide
  have acyclic : parallel.Acyclic := parallel.hasCycle_eq_false_iff.mp (by cbv)
  exact ⟨nodup, acyclic, by cbv, (order_ranked_alone nodup acyclic).1⟩

end StageGraph.Flow
