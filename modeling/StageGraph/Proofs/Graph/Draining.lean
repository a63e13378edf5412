import StageGraph.Graph.Order
import StageGraph.Proofs.Graph.Arrows

/-!
# What draining a queue emits

While a queue is drained no link that is still waiting leads into the queue.
From this it follows that every id is emitted at most once and only after the
sources of all its links, and that an id whose links all come from emitted ids
is emitted itself.
-/

namespace StageGraph.Graph

variable {queue : List String} {links waiting taken : List Link} {id : String}

/-! ## Links taken away together -/

theorem mem_leaving {link : Link} :
    link ∈ leaving id links ↔ link ∈ links ∧ link.source = id := by
  simp [leaving]

theorem mem_staying {link : Link} :
    link ∈ staying id links ↔ link ∈ links ∧ link.source ≠ id := by
  simp [staying]

/-- An id is released when a link to it is taken away and none is left. -/
theorem mem_released :
    id ∈ released waiting taken ↔
      (∃ link ∈ taken, link.target = id) ∧ ∀ link ∈ waiting, link.target ≠ id := by
  induction taken with
  | nil => simp [released]
  | cons head rest induction =>
      simp only [released, List.any_eq_true, decide_eq_true_eq]
      split
      · rename_i again
        rw [induction]
        refine and_congr_left fun unled => ⟨?_, ?_⟩
        · rintro ⟨link, member, target⟩
          exact ⟨link, List.mem_cons_of_mem _ member, target⟩
        · rintro ⟨link, member, target⟩
          rcases List.mem_cons.mp member with rfl | member
          · obtain ⟨other, otherMember, same⟩ := again
            rcases List.mem_append.mp otherMember with inRest | inWaiting
            · exact ⟨other, inRest, same.trans target⟩
            · exact (unled other inWaiting (same.trans target)).elim
          · exact ⟨link, member, target⟩
      · rename_i last
        rw [List.mem_cons, induction]
        constructor
        · rintro (rfl | ⟨⟨link, member, target⟩, unled⟩)
          · refine ⟨⟨head, List.mem_cons_self, rfl⟩, ?_⟩
            intro link member same
            exact last ⟨link, List.mem_append_right _ member, same⟩
          · exact ⟨⟨link, List.mem_cons_of_mem _ member, target⟩, unled⟩
        · rintro ⟨⟨link, member, target⟩, unled⟩
          rcases List.mem_cons.mp member with rfl | member
          · exact .inl target.symm
          · exact .inr ⟨⟨link, member, target⟩, unled⟩

theorem nodup_released : (released waiting taken).Nodup := by
  induction taken with
  | nil => exact List.nodup_nil
  | cons head rest induction =>
      rw [released]
      split
      · exact induction
      · rename_i last
        refine List.nodup_cons.mpr ⟨?_, induction⟩
        intro member
        obtain ⟨⟨link, linkMember, same⟩, _⟩ := mem_released.mp member
        apply last
        simp only [List.any_append, List.any_eq_true, Bool.or_eq_true,
          decide_eq_true_eq]
        exact .inl ⟨link, linkMember, same⟩

/-! ## Draining -/

theorem mem_drain_of_mem_queue (member : id ∈ queue) : id ∈ drain queue links := by
  induction queue, links using drain.induct with
  | case1 links => cases member
  | case2 links head rest induction =>
      rw [drain]
      rcases List.mem_cons.mp member with rfl | member
      · exact List.mem_cons_self
      · exact List.mem_cons_of_mem _ (induction (List.mem_append_left _ member))

/-- Only what waits in the queue or is led to by a link is ever emitted. -/
theorem mem_queue_or_target_of_mem_drain (emitted : id ∈ drain queue links) :
    id ∈ queue ∨ ∃ link ∈ links, link.target = id := by
  induction queue, links using drain.induct with
  | case1 links => simp [drain] at emitted
  | case2 links head rest induction =>
      rw [drain] at emitted
      rcases List.mem_cons.mp emitted with rfl | emitted
      · exact .inl List.mem_cons_self
      · rcases induction emitted with queued | ⟨link, linkMember, target⟩
        · rcases List.mem_append.mp queued with queued | freed
          · exact .inl (List.mem_cons_of_mem _ queued)
          · obtain ⟨⟨link, linkMember, target⟩, _⟩ := mem_released.mp freed
            exact .inr ⟨link, (mem_leaving.mp linkMember).1, target⟩
        · exact .inr ⟨link, (mem_staying.mp linkMember).1, target⟩

/-- The queue has no repeats, and no waiting link leads into it. -/
structure Ready (queue : List String) (links : List Link) : Prop where
  nodup : queue.Nodup
  unreached : ∀ link ∈ links, link.target ∉ queue

/-- Taking the first id from the queue, with its links, keeps the queue ready. -/
theorem Ready.next {rest : List String} (ready : Ready (id :: rest) links) :
    Ready (rest ++ released (staying id links) (leaving id links))
      (staying id links) := by
  obtain ⟨_, restNodup⟩ := List.nodup_cons.mp ready.nodup
  constructor
  · apply List.nodup_append'.mpr
    refine ⟨restNodup, nodup_released, ?_⟩
    intro other queued freed
    obtain ⟨⟨link, linkMember, rfl⟩, _⟩ := mem_released.mp freed
    exact ready.unreached link (mem_leaving.mp linkMember).1
      (List.mem_cons_of_mem _ queued)
  · intro link linkMember member
    rcases List.mem_append.mp member with queued | freed
    · exact ready.unreached link (mem_staying.mp linkMember).1
        (List.mem_cons_of_mem _ queued)
    · exact (mem_released.mp freed).2 link linkMember rfl

/-- The id that leaves a ready queue is not emitted again. -/
theorem Ready.not_mem_drain_next {rest : List String}
    (ready : Ready (id :: rest) links) :
    id ∉ drain (rest ++ released (staying id links) (leaving id links))
      (staying id links) := by
  have unreached : ∀ link ∈ links, link.target ≠ id := by
    intro link linkMember target
    exact ready.unreached link linkMember (target ▸ List.mem_cons_self)
  intro again
  rcases mem_queue_or_target_of_mem_drain again with queued | ⟨link, linkMember, target⟩
  · rcases List.mem_append.mp queued with queued | freed
    · exact (List.nodup_cons.mp ready.nodup).1 queued
    · obtain ⟨⟨link, linkMember, target⟩, _⟩ := mem_released.mp freed
      exact unreached link (mem_leaving.mp linkMember).1 target
  · exact unreached link (mem_staying.mp linkMember).1 target

theorem nodup_drain (ready : Ready queue links) : (drain queue links).Nodup := by
  induction queue, links using drain.induct with
  | case1 links => simp [drain]
  | case2 links head rest induction =>
      rw [drain]
      exact List.nodup_cons.mpr ⟨ready.not_mem_drain_next, induction ready.next⟩

/-- An emitted id stands behind the sources of all links that lead to it. -/
theorem idxOf_source_lt_idxOf_target (ready : Ready queue links) {link : Link}
    (member : link ∈ links) (emitted : link.target ∈ drain queue links) :
    (drain queue links).idxOf link.source <
      (drain queue links).idxOf link.target := by
  induction queue, links using drain.induct with
  | case1 links => simp [drain] at emitted
  | case2 links head rest induction =>
      rw [drain] at emitted ⊢
      have notHead : head ≠ link.target := by
        intro same
        exact ready.unreached link member (same ▸ List.mem_cons_self)
      have later := (List.mem_cons.mp emitted).resolve_left notHead.symm
      rw [List.idxOf_cons_ne _ notHead]
      by_cases first : head = link.source
      · rw [first, List.idxOf_cons_self]
        omega
      · rw [List.idxOf_cons_ne _ first]
        have stays := mem_staying.mpr ⟨member, Ne.symm first⟩
        have before := induction ready.next stays later
        omega

/-- An id with links to it is emitted as soon as all their sources are. -/
theorem mem_drain_of_sources
    (reached : ∃ link ∈ links, link.target = id)
    (sources : ∀ link ∈ links, link.target = id →
      link.source ∈ drain queue links) :
    id ∈ drain queue links := by
  induction queue, links using drain.induct with
  | case1 links =>
      obtain ⟨link, member, target⟩ := reached
      simpa [drain] using sources link member target
  | case2 links head rest induction =>
      rw [drain] at sources ⊢
      apply List.mem_cons_of_mem
      by_cases waits : ∃ link ∈ staying head links, link.target = id
      · apply induction waits
        intro link member target
        obtain ⟨linkMember, different⟩ := mem_staying.mp member
        exact (List.mem_cons.mp (sources link linkMember target)).resolve_left
          different
      · apply mem_drain_of_mem_queue
        apply List.mem_append_right
        apply mem_released.mpr
        obtain ⟨link, member, target⟩ := reached
        refine ⟨⟨link, ?_, target⟩, ?_⟩
        · apply mem_leaving.mpr
          refine ⟨member, ?_⟩
          by_contra different
          exact waits ⟨link, mem_staying.mpr ⟨member, different⟩, target⟩
        · intro other otherMember same
          exact waits ⟨other, otherMember, same⟩

end StageGraph.Graph
