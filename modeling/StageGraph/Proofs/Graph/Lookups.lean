import StageGraph.Graph.Cycle
import StageGraph.Proofs.Graph.ExecutionOrder
import StageGraph.Proofs.Ledger

/-!
# Graphs in tables

Order and cycles of a flow can be found with tables under the ids: of stages, of
targets, of the number of links that still lead to an id.  A lookup in a table may
fail, and what is found with tables is `none` as soon as one of them fails.  This
happens for no flow, and what is found is what the definitions without tables say.
-/

namespace StageGraph

namespace Ledger

variable {α : Type} {names : List String} {key : String} {compute : String → α}

/-- Change the value under a key, which has to be there. -/
def change? (ledger : Ledger α) (key : String) (update : α → α) : Option (Ledger α) :=
  (get? ledger key).map fun value => put ledger key (update value)

theorem change?_tabulate (nodup : names.Nodup) (member : key ∈ names)
    (update : α → α) :
    change? (tabulate names compute) key update =
      some (tabulate names (Function.update compute key (update (compute key)))) := by
  rw [change?, get?_tabulate member, Option.map_some, put_tabulate nodup member]

end Ledger

namespace Graph

/-! ## Searches with tables -/

/-- Enter the target of a link under its source, when both are keys. -/
def enterLink (known : Ledger (List String)) (link : Link) :
    Option (Ledger (List String)) :=
  if Ledger.has known link.source && Ledger.has known link.target then
    Ledger.change? known link.source fun targets => targets ++ [link.target]
  else
    some known

/-- Count a link to an id. -/
def countTarget (degrees : Ledger Int) (target : String) : Option (Ledger Int) :=
  Ledger.change? degrees target (· + 1)

/-- Take away a link to an id; with its last link the id joins the queue. -/
def takeTarget (state : List String × Ledger Int) (target : String) :
    Option (List String × Ledger Int) := do
  let degrees ← Ledger.change? state.2 target (· - 1)
  let degree ← Ledger.get? degrees target
  return (if degree = 0 then state.1 ++ [target] else state.1, degrees)

/-- The number of ids that links still lead to. -/
def waits (degrees : Ledger Int) : Nat :=
  degrees.countP fun entry => 0 < entry.2

theorem waits_put {degrees : Ledger Int} {target : String} {degree : Int}
    (found : Ledger.get? degrees target = some degree) (changed : Int) :
    waits (Ledger.put degrees target changed) + (if 0 < degree then 1 else 0) =
      waits degrees + if 0 < changed then 1 else 0 := by
  induction degrees with
  | nil => cases found
  | cons entry rest induction =>
      obtain ⟨other, held⟩ := entry
      by_cases same : other = target
      · rw [Ledger.get?, if_pos same] at found
        cases found
        simp only [Ledger.put, if_pos same, waits, List.countP_cons, decide_eq_true_eq]
        omega
      · rw [Ledger.get?, if_neg same] at found
        have later := induction found
        simp only [Ledger.put, if_neg same, waits, List.countP_cons] at later ⊢
        omega

/-- An id joins the queue only when it ceases to wait. -/
theorem length_add_waits_takeTarget {state taken : List String × Ledger Int} {target : String}
    (done : takeTarget state target = some taken) :
    taken.1.length + waits taken.2 ≤ state.1.length + waits state.2 := by
  obtain ⟨queue, degrees⟩ := state
  simp only [takeTarget, Ledger.change?, Option.bind_eq_bind, Option.bind_eq_some_iff,
    Option.map_eq_some_iff] at done
  obtain ⟨_, ⟨degree, found, rfl⟩, left, leftFound, same⟩ := done
  cases same
  rw [Ledger.get?_put, if_pos rfl] at leftFound
  cases leftFound
  have balance := waits_put found (degree - 1)
  by_cases last : degree - 1 = 0
  · simp only [if_pos last, List.length_append, List.length_singleton]
    rw [if_pos (by omega), if_neg (by omega)] at balance
    omega
  · simp only [if_neg last]
    split at balance <;> split at balance <;> omega

theorem length_add_waits_foldlM {targets : List String}
    {state taken : List String × Ledger Int}
    (done : targets.foldlM takeTarget state = some taken) :
    taken.1.length + waits taken.2 ≤ state.1.length + waits state.2 := by
  induction targets generalizing state with
  | nil =>
      cases done
      exact Nat.le_refl _
  | cons target rest induction =>
      rw [List.foldlM_cons] at done
      obtain ⟨next, first, later⟩ := Option.bind_eq_some_iff.mp done
      exact (induction later).trans (length_add_waits_takeTarget first)

/-- Emit the stages of a queue and of all that is released by them. -/
def drainTables (stages : Ledger Stage) (successors : Ledger (List String))
    (queue : List String) (degrees : Ledger Int) : Option (List Stage) :=
  match queue with
  | [] => some []
  | id :: rest => do
    let stage ← Ledger.get? stages id
    let targets ← Ledger.get? successors id
    match _ : targets.foldlM takeTarget (rest, degrees) with
    | none => none
    | some state =>
      let later ← drainTables stages successors state.1 state.2
      return stage :: later
termination_by queue.length + waits degrees
decreasing_by
  rename_i done
  have bound := length_add_waits_foldlM done
  simp only [List.length_cons] at bound ⊢
  omega

/-- Follow a path to its end, to `some none` when a cycle closes. -/
def walkTables (successors : Ledger (List String)) (path : List Frame)
    (fresh : List String) : Option (Option (List String)) :=
  match path with
  | [] => some (some fresh)
  | { id := _, pending := [] } :: rest => walkTables successors rest fresh
  | { id, pending := target :: others } :: rest =>
    if target = id || rest.any fun frame => frame.id = target then
      some none
    else if target ∈ fresh then do
      let targets ← Ledger.get? successors target
      walkTables successors
        ({ id := target, pending := targets } :: { id, pending := others } :: rest)
        (fresh.erase target)
    else
      walkTables successors ({ id, pending := others } :: rest) fresh
termination_by (fresh.length, pathWeight path)
decreasing_by
  · apply Prod.Lex.right
    simp [pathWeight]
  · apply Prod.Lex.left
    rename_i entered
    have shorter := List.length_erase_of_mem entered
    have inhabited := List.length_pos_of_mem entered
    omega
  · apply Prod.Lex.right
    simp [pathWeight]

/-- Whether a cycle closes on a walk from one of the starting ids. -/
def closesTables (successors : Ledger (List String)) :
    List String → List String → Option Bool
  | [], _ => some false
  | start :: starts, fresh => do
    if start ∈ fresh then
      let targets ← Ledger.get? successors start
      match ← walkTables successors [{ id := start, pending := targets }]
          (fresh.erase start) with
      | none => return true
      | some remaining => closesTables successors starts remaining
    else
      closesTables successors starts fresh

end Graph

namespace Flow

/-- The targets under every id, entered link by link. -/
def successorTable (flow : Flow) : Option (Ledger (List String)) :=
  flow.links.foldlM Graph.enterLink
    (flow.stages.foldl (fun known stage => Ledger.putNew known stage.id []) [])

/-- The number of links to each of some ids, counted target by target. -/
def degreeTable (ids : List String) (successors : Ledger (List String)) :
    Option (Ledger Int) :=
  (Ledger.values successors).flatten.foldlM Graph.countTarget
    (Ledger.tabulate ids fun _ => 0)

/-- The execution order, found with tables. -/
def orderByTables (flow : Flow) : Option (List Stage) := do
  let successors ← flow.successorTable
  let degrees ← degreeTable (Ledger.keys flow.stageMap) successors
  let start := Ledger.keys (degrees.filter fun entry => entry.2 = 0)
  let ordered ← Graph.drainTables flow.stageMap successors start degrees
  return if ordered.length = flow.stages.length then ordered else flow.stages

/-- Whether there is a cycle, found with tables. -/
def hasCycleByTables (flow : Flow) : Option Bool := do
  let successors ← flow.successorTable
  Graph.closesTables successors (Ledger.keys successors) (Ledger.keys successors)

end Flow

namespace Graph

theorem leaving_append_staying_perm (id : String) (links : List Link) :
    (leaving id links ++ staying id links).Perm links := by
  have split := List.filter_append_perm (fun link => link.source = id) links
  simpa [leaving, staying] using split

end Graph

/-! ## Filling the tables -/

namespace Flow

variable {flow : Flow} {ids : List String}

theorem nodup_ids (flow : Flow) : flow.ids.Nodup :=
  nodup_distinct _

@[simp] theorem keys_stageMap (flow : Flow) : Ledger.keys flow.stageMap = flow.ids :=
  Ledger.keys_foldl_putNew flow.stages Stage.id id

theorem get?_stageMap (flow : Flow) (id : String) :
    Ledger.get? flow.stageMap id = flow.stage? id := by
  exact (Ledger.get?_foldl_putNew flow.stages Stage.id (fun stage => stage) id).trans
    Option.map_id'

@[simp] theorem keys_successorMap (flow : Flow) :
    Ledger.keys flow.successorMap = flow.ids :=
  Ledger.keys_tabulate

theorem joins_iff {link : Link} :
    joins ids link = true ↔ link.source ∈ ids ∧ link.target ∈ ids := by
  simp [joins]

theorem targets_cons (link : Link) (links : List Link) (id : String) :
    targets (link :: links) id =
      if link.source = id then link.target :: targets links id else targets links id := by
  by_cases same : link.source = id <;> simp [targets, same]

theorem targets_staying {id other : String} {links : List Link} (different : other ≠ id) :
    targets (Graph.staying id links) other = targets links other := by
  rw [targets, targets, Graph.staying, List.filter_filter]
  congr 2
  funext link
  by_cases same : link.source = other <;> simp [same, different]

theorem foldlM_enterLink (nodup : ids.Nodup) (links : List Link)
    (known : String → List String) :
    links.foldlM Graph.enterLink (Ledger.tabulate ids known) =
      some (Ledger.tabulate ids fun id =>
        known id ++ targets (links.filter (joins ids)) id) := by
  induction links generalizing known with
  | nil => simp [targets]
  | cons link rest induction =>
      by_cases inner : joins ids link = true
      · obtain ⟨source, target⟩ := joins_iff.mp inner
        have entered : Graph.enterLink (Ledger.tabulate ids known) link =
            some (Ledger.tabulate ids
              (Function.update known link.source (known link.source ++ [link.target]))) := by
          rw [Graph.enterLink, if_pos, Ledger.change?_tabulate nodup source]
          simp [Ledger.has_eq_true_iff, source, target]
        rw [List.foldlM_cons, entered, Option.bind_eq_bind, Option.bind_some, induction]
        congr 2
        funext id
        rw [List.filter_cons_of_pos inner, targets_cons]
        by_cases same : link.source = id
        · subst same
          simp
        · rw [Function.update_of_ne (Ne.symm same), if_neg same]
      · have skipped : Graph.enterLink (Ledger.tabulate ids known) link =
            some (Ledger.tabulate ids known) := by
          rw [Graph.enterLink, if_neg]
          simpa [Ledger.has_eq_true_iff, ← joins_iff] using inner
        rw [List.foldlM_cons, skipped, Option.bind_eq_bind, Option.bind_some, induction,
          List.filter_cons_of_neg inner]

theorem successorTable_eq (flow : Flow) :
    flow.successorTable = some flow.successorMap := by
  have keys := Ledger.keys_foldl_putNew flow.stages Stage.id fun _ => ([] : List String)
  have start : flow.stages.foldl (fun known stage => Ledger.putNew known stage.id []) [] =
      Ledger.tabulate flow.ids fun _ => ([] : List String) := by
    rw [ids, ← keys]
    apply Ledger.eq_tabulate
    · rw [keys]
      exact flow.nodup_ids
    · intro id member
      rw [keys, ← ids, mem_ids] at member
      obtain ⟨stage, stageMember, same⟩ := member
      rw [Ledger.get?_foldl_putNew, Option.map_eq_some_iff]
      cases found : flow.stages.find? fun stage => stage.id = id with
      | none => simpa [same] using List.find?_eq_none.mp found stage stageMember
      | some stage => exact ⟨stage, rfl, rfl⟩
  rw [successorTable, start, foldlM_enterLink flow.nodup_ids]
  rfl

/-- The number of links that lead to an id. -/
def waitingFor (links : List Link) (id : String) : Int :=
  (links.map Link.target).count id

theorem waitingFor_cons (link : Link) (links : List Link) :
    waitingFor (link :: links) =
      Function.update (waitingFor links) link.target (waitingFor links link.target + 1) := by
  funext id
  by_cases same : id = link.target
  · subst same
    simp [waitingFor]
  · simp [waitingFor, same, Ne.symm same]

/-- The test by which ids are found unreached. -/
theorem waitingFor_eq_zero_iff {links : List Link} {id : String} :
    waitingFor links id = 0 ↔ (links.any fun link => link.target = id) = false := by
  simp [waitingFor, List.count_eq_zero]

theorem waitingFor_perm {links others : List Link} (perm : links.Perm others) :
    waitingFor links = waitingFor others := by
  funext id
  rw [waitingFor, waitingFor, (perm.map Link.target).count_eq id]

theorem foldlM_countTarget (nodup : ids.Nodup) {counted : List String}
    (inside : ∀ id ∈ counted, id ∈ ids) (degree : String → Int) :
    counted.foldlM Graph.countTarget (Ledger.tabulate ids degree) =
      some (Ledger.tabulate ids fun id => degree id + counted.count id) := by
  induction counted generalizing degree with
  | nil => simp
  | cons target rest induction =>
      obtain ⟨targetInside, restInside⟩ := List.forall_mem_cons.mp inside
      rw [List.foldlM_cons, Graph.countTarget,
        Ledger.change?_tabulate nodup targetInside, Option.bind_eq_bind, Option.bind_some,
        induction restInside]
      congr 2
      funext id
      by_cases same : id = target
      · subst same
        simp only [Function.update_self, List.count_cons_self]
        omega
      · simp [same, Ne.symm same]

theorem flatMap_targets_perm (nodup : ids.Nodup) {links : List Link}
    (inside : ∀ link ∈ links, link.source ∈ ids) :
    (ids.flatMap (targets links)).Perm (links.map Link.target) := by
  induction ids generalizing links with
  | nil =>
      have none : links = [] := List.eq_nil_iff_forall_not_mem.mpr fun link member =>
        List.not_mem_nil (inside link member)
      simp [none]
  | cons id rest induction =>
      obtain ⟨absent, restNodup⟩ := List.nodup_cons.mp nodup
      have later : rest.flatMap (targets links) =
          rest.flatMap (targets (Graph.staying id links)) := by
        apply List.flatMap_congr
        intro other member
        have different : other ≠ id := by
          rintro rfl
          exact absent member
        exact (targets_staying different).symm
      have stays : ∀ link ∈ Graph.staying id links, link.source ∈ rest := by
        intro link member
        obtain ⟨linkMember, different⟩ := Graph.mem_staying.mp member
        exact (List.mem_cons.mp (inside link linkMember)).resolve_left different
      rw [List.flatMap_cons, later]
      refine ((induction restNodup stays).append_left _).trans ?_
      rw [targets, ← List.map_append]
      exact (Graph.leaving_append_staying_perm id links).map Link.target

theorem degreeTable_eq (flow : Flow) :
    degreeTable flow.ids flow.successorMap =
      some (Ledger.tabulate flow.ids (waitingFor flow.innerLinks)) := by
  have counted : (Ledger.values flow.successorMap).flatten =
      flow.ids.flatMap (targets flow.innerLinks) := by
    rw [List.flatMap_def]
    exact congrArg List.flatten Ledger.values_tabulate
  have perm : (flow.ids.flatMap (targets flow.innerLinks)).Perm
      (flow.innerLinks.map Link.target) := by
    apply flatMap_targets_perm flow.nodup_ids
    intro link member
    exact mem_ids.mpr (mem_innerLinks.mp member).2.1
  have inside : ∀ id ∈ flow.ids.flatMap (targets flow.innerLinks), id ∈ flow.ids := by
    intro id member
    obtain ⟨link, linkMember, rfl⟩ := List.mem_map.mp (perm.mem_iff.mp member)
    exact mem_ids.mpr (mem_innerLinks.mp linkMember).2.2
  rw [degreeTable, counted, foldlM_countTarget flow.nodup_ids inside]
  congr 2
  funext id
  rw [perm.count_eq, Int.zero_add, waitingFor]

theorem keys_filter_degrees (ids : List String) (links : List Link) :
    Ledger.keys ((Ledger.tabulate ids (waitingFor links)).filter
      fun entry => entry.2 = 0) = unreached links ids := by
  have unled : ∀ id, decide (waitingFor links id = 0) =
      !(links.any fun link => link.target = id) := by
    intro id
    simp only [waitingFor_eq_zero_iff, Bool.decide_eq_false]
  simp [Ledger.keys, Ledger.tabulate, unreached, List.filter_map, Function.comp_def, unled]

end Flow

/-! ## Draining with tables -/

namespace Graph

open StageGraph.Flow

variable {ids queue : List String} {links taken : List Link}

/-- Taking links away counts down to zero exactly for the ids that are released. -/
theorem foldlM_takeTarget (nodup : ids.Nodup) (queue : List String) (waiting : List Link)
    (inside : ∀ link ∈ taken, link.target ∈ ids) :
    (taken.map Link.target).foldlM takeTarget
        (queue, Ledger.tabulate ids (waitingFor (taken ++ waiting))) =
      some (queue ++ released waiting taken, Ledger.tabulate ids (waitingFor waiting)) := by
  induction taken generalizing queue with
  | nil => simp [released]
  | cons link rest induction =>
      obtain ⟨targetInside, restInside⟩ := List.forall_mem_cons.mp inside
      have counted : Ledger.change?
          (Ledger.tabulate ids (waitingFor (link :: rest ++ waiting))) link.target (· - 1) =
            some (Ledger.tabulate ids (waitingFor (rest ++ waiting))) := by
        rw [Ledger.change?_tabulate nodup targetInside, List.cons_append, waitingFor_cons]
        simp
      have taken : takeTarget (queue,
            Ledger.tabulate ids (waitingFor (link :: rest ++ waiting))) link.target =
          some (if waitingFor (rest ++ waiting) link.target = 0 then queue ++ [link.target]
              else queue,
            Ledger.tabulate ids (waitingFor (rest ++ waiting))) := by
        rw [takeTarget, counted, Option.bind_eq_bind, Option.bind_some,
          Ledger.get?_tabulate targetInside]
        rfl
      rw [List.map_cons, List.foldlM_cons, taken, Option.bind_eq_bind, Option.bind_some,
        induction _ restInside, released]
      cases again : (rest ++ waiting).any fun other => other.target = link.target with
      | true =>
          have waits : waitingFor (rest ++ waiting) link.target ≠ 0 := by
            simp [waitingFor_eq_zero_iff, again]
          rw [if_neg waits, if_pos rfl]
      | false =>
          rw [if_pos (waitingFor_eq_zero_iff.mpr again), if_neg Bool.false_ne_true,
            List.append_assoc]
          rfl

/-- What the tables say while a queue is drained: links lead within the flow, and
those of the ids that are still to be emitted have not been taken away. -/
structure Tabled (flow : Flow) (queue : List String) (links : List Link) : Prop where
  ready : Ready queue links
  inner : ∀ link ∈ links, link ∈ flow.innerLinks
  has : ∀ id ∈ queue, flow.HasId id
  whole : ∀ id ∈ drain queue links, targets links id = targets flow.innerLinks id

theorem Tabled.start (flow : Flow) : Tabled flow flow.sources flow.innerLinks where
  ready := flow.ready_sources
  inner _ member := member
  has _ member := mem_ids.mp (List.mem_filter.mp member).1
  whole _ _ := rfl

/-- Taking the first id from the queue, with its links, keeps what the tables say. -/
theorem Tabled.next {flow : Flow} {id : String} {rest : List String}
    (tabled : Tabled flow (id :: rest) links) :
    Tabled flow (rest ++ released (staying id links) (leaving id links))
      (staying id links) where
  ready := tabled.ready.next
  inner := by
    intro link member
    exact tabled.inner link (mem_staying.mp member).1
  has := by
    intro other member
    rcases List.mem_append.mp member with queued | freed
    · exact tabled.has other (List.mem_cons_of_mem _ queued)
    · obtain ⟨⟨link, linkMember, rfl⟩, _⟩ := mem_released.mp freed
      exact (mem_innerLinks.mp (tabled.inner link (mem_leaving.mp linkMember).1)).2.2
  whole := by
    intro other emitted
    have different : other ≠ id := by
      rintro rfl
      exact tabled.ready.not_mem_drain_next emitted
    rw [targets_staying different]
    apply tabled.whole
    rw [drain]
    exact List.mem_cons_of_mem _ emitted

theorem drainTables_eq {flow : Flow} (tabled : Tabled flow queue links) :
    drainTables flow.stageMap flow.successorMap queue
        (Ledger.tabulate flow.ids (waitingFor links)) =
      some ((drain queue links).filterMap flow.stage?) := by
  induction queue, links using drain.induct with
  | case1 links => simp [drainTables, drain]
  | case2 links id rest induction =>
      have has := tabled.has id List.mem_cons_self
      obtain ⟨stage, _, found, _⟩ := stage?_of_hasId has
      have taken : Ledger.get? flow.successorMap id =
          some ((leaving id links).map Link.target) := by
        have first : id ∈ drain (id :: rest) links := by
          rw [drain]
          exact List.mem_cons_self
        rw [successorMap, targetMap]
        exact (Ledger.get?_tabulate (mem_ids.mpr has)).trans
          (congrArg some (tabled.whole id first).symm)
      have inside : ∀ link ∈ leaving id links, link.target ∈ flow.ids := by
        intro link member
        have inner := tabled.inner link (mem_leaving.mp member).1
        exact mem_ids.mpr (mem_innerLinks.mp inner).2.2
      have parts : waitingFor links = waitingFor (leaving id links ++ staying id links) :=
        waitingFor_perm (leaving_append_staying_perm id links).symm
      have passed := foldlM_takeTarget flow.nodup_ids rest (staying id links) inside
      rw [drainTables, drain, parts]
      simp only [get?_stageMap, found, taken, Option.bind_eq_bind, Option.bind_some,
        List.filterMap_cons]
      split
      · rename_i failed
        rw [passed] at failed
        cases failed
      · rename_i state done
        rw [passed] at done
        cases done
        rw [induction tabled.next]
        rfl

/-! ## Walking with tables -/

variable {flow : Flow}

theorem get?_successorMap {id : String} (has : id ∈ flow.ids) :
    Ledger.get? flow.successorMap id = some (targets flow.innerLinks id) :=
  Ledger.get?_tabulate has

theorem mem_ids_of_mem_targets {id target : String}
    (member : target ∈ targets flow.innerLinks id) : target ∈ flow.ids :=
  mem_ids.mpr (mem_targets_innerLinks.mp member).2.1

/-- Nothing outside the flow is still to be tried on a path. -/
def PendingInside (flow : Flow) (path : List Frame) : Prop :=
  ∀ frame ∈ path, ∀ id ∈ frame.pending, id ∈ flow.ids

theorem walkTables_eq {path : List Frame} {fresh : List String}
    (inside : PendingInside flow path) :
    walkTables flow.successorMap path fresh =
      some (walk (targets flow.innerLinks) path fresh) := by
  induction path, fresh using walk.induct (targets flow.innerLinks) with
  | case1 fresh => simp [walkTables, walk]
  | case2 fresh id rest induction =>
      rw [walkTables, walk]
      exact induction (List.forall_mem_cons.mp inside).2
  | case3 fresh id target others rest closing =>
      rw [walkTables, walk, if_pos closing, if_pos closing]
  | case4 fresh id target others rest open_ isFresh induction =>
      obtain ⟨top, restInside⟩ := List.forall_mem_cons.mp inside
      obtain ⟨targetInside, othersInside⟩ := List.forall_mem_cons.mp top
      rw [walkTables, walk, if_neg open_, if_neg open_, if_pos isFresh, if_pos isFresh,
        get?_successorMap targetInside, Option.bind_eq_bind, Option.bind_some]
      apply induction
      refine List.forall_mem_cons.mpr ⟨?_, List.forall_mem_cons.mpr ⟨othersInside, restInside⟩⟩
      intro next member
      exact mem_ids_of_mem_targets member
  | case5 fresh id target others rest open_ entered induction =>
      obtain ⟨top, restInside⟩ := List.forall_mem_cons.mp inside
      rw [walkTables, walk, if_neg open_, if_neg open_, if_neg entered, if_neg entered]
      apply induction
      exact List.forall_mem_cons.mpr ⟨(List.forall_mem_cons.mp top).2, restInside⟩

theorem closesTables_eq {starts fresh : List String} (inside : ∀ id ∈ starts, id ∈ flow.ids) :
    closesTables flow.successorMap starts fresh =
      some (closes (targets flow.innerLinks) starts fresh) := by
  induction starts generalizing fresh with
  | nil => rfl
  | cons start rest induction =>
      obtain ⟨startInside, restInside⟩ := List.forall_mem_cons.mp inside
      rw [closesTables, closes]
      split
      · have pending : PendingInside flow
            [{ id := start, pending := targets flow.innerLinks start }] := by
          intro frame member id idMember
          obtain rfl := List.mem_singleton.mp member
          exact mem_ids_of_mem_targets idMember
        simp only [get?_successorMap startInside, walkTables_eq pending,
          Option.bind_eq_bind, Option.bind_some]
        cases walk (targets flow.innerLinks)
            [{ id := start, pending := targets flow.innerLinks start }]
            (fresh.erase start) with
        | none => rfl
        | some remaining => exact induction restInside
      · exact induction restInside

end Graph

namespace Flow

/-- No lookup fails while the order is found with tables. -/
theorem orderByTables_eq (flow : Flow) : flow.orderByTables = some flow.order := by
  have drained := Graph.drainTables_eq (Graph.Tabled.start flow)
  have start := keys_filter_degrees flow.ids flow.innerLinks
  have sameLength : (flow.emitted.filterMap flow.stage?).length = flow.emitted.length := by
    have ids : (flow.emitted.filterMap flow.stage?).map Stage.id = flow.emitted :=
      map_id_filterMap_stage? fun id member => hasId_of_mem_emitted member
    rw [← List.length_map (f := Stage.id), ids]
  simp only [orderByTables, successorTable_eq, keys_stageMap, degreeTable_eq, start,
    Option.bind_eq_bind, Option.bind_some]
  rw [← sources, drained, ← emitted]
  simp [order, arranged, sameLength]

/-- No lookup fails while cycles are looked for with tables. -/
theorem hasCycleByTables_eq (flow : Flow) :
    flow.hasCycleByTables = some flow.hasCycle := by
  simp only [hasCycleByTables, successorTable_eq, keys_successorMap, Option.bind_eq_bind,
    Option.bind_some]
  exact Graph.closesTables_eq fun _ member => member

end Flow

end StageGraph
