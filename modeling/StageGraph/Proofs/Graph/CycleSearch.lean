import StageGraph.Graph.Cycle
import StageGraph.Proofs.Graph.Arrows

/-!
# The search for cycles decides acyclicity

A walk that ends in `none` has met its own path, and the path spells the cycle.
A walk that ends otherwise leaves a list of settled ids behind, the last one
first, in which every target of an id stands later than the id itself; no cycle
fits into such a list.  `Search` is what every step of a walk preserves.
-/

namespace StageGraph.Graph

open Relation

/-- The arrows of a graph that is given by its targets. -/
def Leads (next : String → List String) (source target : String) : Prop :=
  target ∈ next source

/-! ## A closed path is a cycle -/

/-- Every frame tries targets of its own id, and every id on the path leads to
all ids above it. -/
structure Traced (next : String → List String) (path : List Frame) : Prop where
  pending : ∀ frame ∈ path, ∀ target ∈ frame.pending, target ∈ next frame.id
  leads : path.Pairwise fun upper lower =>
    TransGen (Leads next) lower.id upper.id

namespace Traced

variable {next : String → List String} {id target : String}
  {others : List String} {rest : List Frame}

theorem start : Traced next [{ id := id, pending := next id }] := by
  constructor
  · intro frame member target pending
    obtain rfl := List.mem_singleton.mp member
    exact pending
  · exact List.pairwise_singleton _ _

theorem pop {frame : Frame} (traced : Traced next (frame :: rest)) :
    Traced next rest :=
  { pending := fun lower member =>
      traced.pending lower (List.mem_cons_of_mem _ member)
    leads := (List.pairwise_cons.mp traced.leads).2 }

theorem skip (traced : Traced next ({ id, pending := target :: others } :: rest)) :
    Traced next ({ id, pending := others } :: rest) := by
  constructor
  · intro frame member tried pending
    rcases List.mem_cons.mp member with rfl | member
    · exact traced.pending _ List.mem_cons_self tried
        (List.mem_cons_of_mem _ pending)
    · exact traced.pending frame (List.mem_cons_of_mem _ member) tried pending
  · obtain ⟨top, below⟩ := List.pairwise_cons.mp traced.leads
    exact List.pairwise_cons.mpr ⟨top, below⟩

theorem top_leads
    (traced : Traced next ({ id, pending := target :: others } :: rest)) :
    Leads next id target :=
  traced.pending _ List.mem_cons_self target List.mem_cons_self

theorem push (traced : Traced next ({ id, pending := target :: others } :: rest)) :
    Traced next ({ id := target, pending := next target } ::
      { id, pending := others } :: rest) := by
  have top := traced.top_leads
  have skipped := traced.skip
  constructor
  · intro frame member tried pending
    rcases List.mem_cons.mp member with rfl | member
    · exact pending
    · exact skipped.pending frame member tried pending
  · apply List.pairwise_cons.mpr
    refine ⟨?_, skipped.leads⟩
    intro lower member
    rcases List.mem_cons.mp member with rfl | member
    · exact .single top
    · exact ((List.pairwise_cons.mp traced.leads).1 lower member).tail top

/-- A target that is on the path already closes a cycle. -/
theorem closes
    (traced : Traced next ({ id, pending := target :: others } :: rest))
    (onPath : target = id ∨ ∃ frame ∈ rest, frame.id = target) :
    TransGen (Leads next) target target := by
  have top := traced.top_leads
  rcases onPath with rfl | ⟨frame, member, rfl⟩
  · exact .single top
  · exact ((List.pairwise_cons.mp traced.leads).1 frame member).tail top

end Traced

theorem cycle_of_walk_eq_none {next : String → List String}
    {path : List Frame} {fresh : List String} (traced : Traced next path)
    (closed : walk next path fresh = none) :
    ∃ id, TransGen (Leads next) id id := by
  induction path, fresh using walk.induct next with
  | case1 fresh => simp [walk] at closed
  | case2 fresh id rest induction =>
      rw [walk] at closed
      exact induction traced.pop closed
  | case3 fresh id target others rest onPath =>
      refine ⟨target, traced.closes ?_⟩
      simpa using onPath
  | case4 fresh id target others rest offPath entered induction =>
      rw [walk, if_neg offPath, if_pos entered] at closed
      exact induction traced.push closed
  | case5 fresh id target others rest offPath known induction =>
      rw [walk, if_neg offPath, if_neg known] at closed
      exact induction traced.skip closed

theorem cycle_of_closes {next : String → List String}
    {starts fresh : List String} (closed : closes next starts fresh = true) :
    ∃ id, TransGen (Leads next) id id := by
  induction starts generalizing fresh with
  | nil => simp [closes] at closed
  | cons start starts induction =>
      rw [closes] at closed
      split at closed
      · split at closed
        · rename_i walked
          exact cycle_of_walk_eq_none Traced.start walked
        · exact induction closed
      · exact induction closed

/-! ## A finished walk leaves no cycle -/

/-- Every target of an id of the list stands later in the list. -/
def Settled (next : String → List String) : List String → Prop
  | [] => True
  | id :: rest => (∀ target ∈ next id, target ∈ rest) ∧ Settled next rest

namespace Settled

variable {next : String → List String} {done : List String} {id target : String}

theorem mem_of_leads (settled : Settled next done) (member : id ∈ done)
    (leads : Leads next id target) : target ∈ done := by
  induction done with
  | nil => cases member
  | cons head rest induction =>
      rcases List.mem_cons.mp member with rfl | member
      · exact List.mem_cons_of_mem _ (settled.1 target leads)
      · exact List.mem_cons_of_mem _ (induction settled.2 member)

theorem mem_of_transGen (settled : Settled next done) (member : id ∈ done)
    (reached : TransGen (Leads next) id target) : target ∈ done := by
  induction reached with
  | single leads => exact settled.mem_of_leads member leads
  | tail _ leads induction => exact settled.mem_of_leads induction leads

/-- No cycle passes through a settled id: the first id of the list that is on
it would have to stand later than itself. -/
theorem not_cycle (settled : Settled next done) (member : id ∈ done) :
    ¬ TransGen (Leads next) id id := by
  intro cycle
  induction done with
  | nil => cases member
  | cons head rest induction =>
      have inRest : id ∈ rest := by
        rcases List.mem_cons.mp member with rfl | inRest
        · obtain ⟨middle, leads, onward⟩ := TransGen.head'_iff.mp cycle
          have middleMember : middle ∈ rest := settled.1 middle leads
          rcases reflTransGen_iff_eq_or_transGen.mp onward with same | onward
          · exact same ▸ middleMember
          · exact settled.2.mem_of_transGen middleMember onward
        · exact inRest
      exact induction settled.2 inRest

end Settled

/-- Every target of a frame is settled, still to be tried, or above the frame on
the path. -/
def Explored (next : String → List String) (done : List String) :
    List String → List Frame → Prop
  | _, [] => True
  | above, frame :: rest =>
    (∀ target ∈ next frame.id,
      target ∈ done ∨ target ∈ frame.pending ∨ target ∈ above) ∧
      Explored next done (frame.id :: above) rest

theorem Explored.mono {next : String → List String}
    {done more above higher : List String} {path : List Frame}
    (explored : Explored next done above path)
    (doneKept : ∀ id ∈ done, id ∈ more)
    (aboveKept : ∀ id ∈ above, id ∈ more ∨ id ∈ higher) :
    Explored next more higher path := by
  induction path generalizing above higher with
  | nil => trivial
  | cons frame rest induction =>
      constructor
      · intro target leads
        rcases explored.1 target leads with known | pending | onPath
        · exact .inl (doneKept target known)
        · exact .inr (.inl pending)
        · exact (aboveKept target onPath).imp_right .inr
      · apply induction explored.2
        intro id member
        rcases List.mem_cons.mp member with rfl | member
        · exact .inr List.mem_cons_self
        · exact (aboveKept id member).imp_right (List.mem_cons_of_mem _)

/-- The state of a search among some ids: those that are done with are settled,
the frames of the path are explored up to their pending targets, and every id is
not entered yet, on the path, or done with. -/
structure Search (next : String → List String) (ids : List String)
    (path : List Frame) (fresh done : List String) : Prop where
  settled : Settled next done
  explored : Explored next done [] path
  covered : ∀ id ∈ ids, id ∈ fresh ∨ (∃ frame ∈ path, frame.id = id) ∨ id ∈ done

namespace Search

variable {next : String → List String} {ids fresh done others : List String}
  {id target : String} {rest : List Frame}

/-- What a frame still has to try does not matter for where the ids are. -/
theorem covered_retry {pending : List String}
    (search : Search next ids ({ id, pending } :: rest) fresh done) :
    ∀ known ∈ ids, known ∈ fresh ∨
      (∃ frame ∈ { id, pending := others } :: rest, frame.id = known) ∨
        known ∈ done := by
  simpa using search.covered

/-- A frame without pending targets is done with. -/
theorem finish (search : Search next ids ({ id, pending := [] } :: rest) fresh done) :
    Search next ids rest fresh (id :: done) := by
  obtain ⟨top, below⟩ := search.explored
  constructor
  · refine ⟨?_, search.settled⟩
    intro target leads
    simpa using top target leads
  · apply below.mono
    · intro known member
      exact List.mem_cons_of_mem _ member
    · intro known member
      obtain rfl := List.mem_singleton.mp member
      exact .inl List.mem_cons_self
  · intro known member
    rcases search.covered known member with unentered | onPath | finished
    · exact .inl unentered
    · obtain ⟨frame, frameMember, rfl⟩ := onPath
      rcases List.mem_cons.mp frameMember with rfl | frameMember
      · exact .inr (.inr List.mem_cons_self)
      · exact .inr (.inl ⟨frame, frameMember, rfl⟩)
    · exact .inr (.inr (List.mem_cons_of_mem _ finished))

/-- A pending target that was not entered yet becomes the new end of the path. -/
theorem enter (search :
      Search next ids ({ id, pending := target :: others } :: rest) fresh done) :
    Search next ids
      ({ id := target, pending := next target } :: { id, pending := others } :: rest)
      (fresh.erase target) done := by
  obtain ⟨top, below⟩ := search.explored
  refine ⟨search.settled, ⟨?_, ?_, ?_⟩, ?_⟩
  · intro onward leads
    exact .inr (.inl leads)
  · intro onward leads
    rcases top onward leads with known | pending | impossible
    · exact .inl known
    · rcases List.mem_cons.mp pending with rfl | pending
      · exact .inr (.inr List.mem_cons_self)
      · exact .inr (.inl pending)
    · cases impossible
  · apply below.mono
    · intro known member
      exact member
    · intro known member
      obtain rfl := List.mem_singleton.mp member
      exact .inr List.mem_cons_self
  · intro known member
    by_cases same : known = target
    · subst same
      exact .inr (.inl ⟨_, List.mem_cons_self, rfl⟩)
    · rcases search.covered_retry known member with unentered | onPath | finished
      · exact .inl ((List.mem_erase_of_ne same).mpr unentered)
      · obtain ⟨frame, frameMember, rfl⟩ := onPath
        exact .inr (.inl ⟨frame, List.mem_cons_of_mem _ frameMember, rfl⟩)
      · exact .inr (.inr finished)

/-- A pending target that was entered before and is not on the path is settled. -/
theorem skip (search :
      Search next ids ({ id, pending := target :: others } :: rest) fresh done)
    (inside : target ∈ ids) (known : target ∉ fresh)
    (offPath : ¬ (target = id ∨ ∃ frame ∈ rest, frame.id = target)) :
    Search next ids ({ id, pending := others } :: rest) fresh done := by
  have targetDone : target ∈ done := by
    rcases search.covered target inside with unentered | onPath | finished
    · exact (known unentered).elim
    · obtain ⟨frame, frameMember, same⟩ := onPath
      rcases List.mem_cons.mp frameMember with rfl | frameMember
      · exact (offPath (.inl same.symm)).elim
      · exact (offPath (.inr ⟨frame, frameMember, same⟩)).elim
    · exact finished
  obtain ⟨top, below⟩ := search.explored
  refine ⟨search.settled, ⟨?_, below⟩, search.covered_retry⟩
  · intro onward leads
    rcases top onward leads with finished | pending | impossible
    · exact .inl finished
    · rcases List.mem_cons.mp pending with rfl | pending
      · exact .inl targetDone
      · exact .inr (.inl pending)
    · cases impossible

end Search

/-- A walk from an id that was not entered yet. -/
theorem Search.start {next : String → List String}
    {ids fresh done : List String} {id : String}
    (search : Search next ids [] fresh done) :
    Search next ids [{ id := id, pending := next id }] (fresh.erase id) done := by
  refine ⟨search.settled, ⟨?_, trivial⟩, ?_⟩
  · intro target leads
    exact .inr (.inl leads)
  · intro known member
    by_cases same : known = id
    · exact .inr (.inl ⟨_, List.mem_cons_self, same.symm⟩)
    · rcases search.covered known member with unentered | onPath | finished
      · exact .inl ((List.mem_erase_of_ne same).mpr unentered)
      · obtain ⟨frame, impossible, _⟩ := onPath
        cases impossible
      · exact .inr (.inr finished)

/-- A finished walk has settled every id that was on its path. -/
theorem search_of_walk_eq_some {next : String → List String}
    {ids fresh done remaining : List String} {path : List Frame}
    (inside : ∀ source target, Leads next source target → target ∈ ids)
    (traced : Traced next path) (search : Search next ids path fresh done)
    (walked : walk next path fresh = some remaining) :
    ∃ more, Search next ids [] remaining (more ++ done) ∧
      ∀ frame ∈ path, frame.id ∈ more ++ done := by
  -- The induction follows the walk.  Only the step that takes a frame from the
  -- path adds to the ids that are done with.
  induction path, fresh using walk.induct next generalizing done with
  | case1 fresh =>
      rw [walk] at walked
      cases walked
      exact ⟨[], search, by simp⟩
  | case2 fresh id rest induction =>
      rw [walk] at walked
      obtain ⟨more, finished, left⟩ := induction traced.pop search.finish walked
      refine ⟨more ++ [id], by simpa using finished, ?_⟩
      intro frame member
      rcases List.mem_cons.mp member with rfl | member
      · simp
      · simpa using left frame member
  | case3 fresh id target others rest onPath =>
      rw [walk, if_pos onPath] at walked
      cases walked
  | case4 fresh id target others rest offPath entered induction =>
      rw [walk, if_neg offPath, if_pos entered] at walked
      obtain ⟨more, finished, left⟩ := induction traced.push search.enter walked
      refine ⟨more, finished, ?_⟩
      intro frame member
      rcases List.mem_cons.mp member with rfl | member
      · exact left { id, pending := others } (by simp)
      · exact left frame (by simp [member])
  | case5 fresh id target others rest offPath known induction =>
      rw [walk, if_neg offPath, if_neg known] at walked
      have targetInside := inside id target traced.top_leads
      have skipped := search.skip targetInside known (by simpa using offPath)
      obtain ⟨more, finished, left⟩ := induction traced.skip skipped walked
      refine ⟨more, finished, ?_⟩
      intro frame member
      rcases List.mem_cons.mp member with rfl | member
      · exact left { id, pending := others } (by simp)
      · exact left frame (by simp [member])

/-- When no walk closes, all starting ids end up settled. -/
theorem settled_of_closes_eq_false {next : String → List String}
    {ids starts fresh done : List String}
    (inside : ∀ source target, Leads next source target → target ∈ ids)
    (startsInside : ∀ start ∈ starts, start ∈ ids)
    (search : Search next ids [] fresh done)
    (unclosed : closes next starts fresh = false) :
    ∃ more, Settled next (more ++ done) ∧
      ∀ start ∈ starts, start ∈ more ++ done := by
  induction starts generalizing fresh done with
  | nil => exact ⟨[], search.settled, by simp⟩
  | cons start starts induction =>
      have restInside : ∀ other ∈ starts, other ∈ ids := by
        intro other member
        exact startsInside other (List.mem_cons_of_mem _ member)
      rw [closes] at unclosed
      split at unclosed
      · split at unclosed
        · cases unclosed
        · rename_i remaining walked
          obtain ⟨entered, finished, left⟩ :=
            search_of_walk_eq_some inside Traced.start search.start walked
          obtain ⟨more, settled, covered⟩ := induction restInside finished unclosed
          refine ⟨more ++ entered, by simpa using settled, ?_⟩
          intro other member
          rcases List.mem_cons.mp member with rfl | member
          · have startEntered := left _ List.mem_cons_self
            simp only [List.append_assoc]
            exact List.mem_append_right more startEntered
          · simpa using covered other member
      · rename_i known
        obtain ⟨more, settled, covered⟩ := induction restInside search unclosed
        refine ⟨more, settled, ?_⟩
        intro other member
        rcases List.mem_cons.mp member with rfl | member
        · rcases search.covered other (startsInside other List.mem_cons_self)
            with unentered | onPath | finished
          · exact (known unentered).elim
          · obtain ⟨frame, impossible, _⟩ := onPath
            cases impossible
          · exact List.mem_append_right more finished
        · exact covered other member

end StageGraph.Graph

namespace StageGraph.Flow

open Relation StageGraph.Graph

private theorem leads_iff_arrow {flow : Flow} {source target : String} :
    Leads (targets flow.innerLinks) source target ↔ flow.Arrow source target :=
  mem_targets_innerLinks

/-- Every cycle passes through ids of stages, which are the starting ids of the
search. -/
theorem hasId_of_transGen {flow : Flow} {source target : String}
    (reached : TransGen flow.Arrow source target) : flow.HasId source := by
  obtain ⟨middle, arrow, _⟩ := TransGen.head'_iff.mp reached
  exact arrow.1

/-- The search finds a cycle exactly when there is one. -/
theorem hasCycle_eq_false_iff (flow : Flow) :
    flow.hasCycle = false ↔ flow.Acyclic := by
  have sameRelation :
      Leads (targets flow.innerLinks) = flow.Arrow := by
    funext source target
    exact propext leads_iff_arrow
  constructor
  · intro unclosed id cycle
    have inside : ∀ source target,
        Leads (targets flow.innerLinks) source target → target ∈ flow.ids := by
      intro source target leads
      exact mem_ids.mpr (leads_iff_arrow.mp leads).2.1
    have search :
        Search (targets flow.innerLinks) flow.ids [] flow.ids [] :=
      { settled := trivial
        explored := trivial
        covered := fun _ member => .inl member }
    obtain ⟨more, settled, covered⟩ :=
      settled_of_closes_eq_false inside (fun _ member => member) search unclosed
    have member := covered id (mem_ids.mpr (hasId_of_transGen cycle))
    exact settled.not_cycle member (sameRelation ▸ cycle)
  · intro acyclic
    apply Bool.eq_false_iff.mpr
    intro closed
    obtain ⟨id, cycle⟩ := cycle_of_closes closed
    exact acyclic id (sameRelation ▸ cycle)

end StageGraph.Flow
