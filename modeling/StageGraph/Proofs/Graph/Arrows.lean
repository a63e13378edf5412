import Mathlib.Order.WellFoundedSet
import StageGraph.Graph.Basic

/-!
# Arrows between stages

`Flow.Arrow` is the edge relation of a flow as a graph on ids, said without the
lists that the algorithms work on.  A flow is acyclic when no id is reached from
itself by one or more arrows.  On the finitely many ids of an acyclic flow one
may induct from the stages that nothing leads to.
-/

namespace StageGraph.Flow

open Relation

/-- Some stage bears the id. -/
def HasId (flow : Flow) (id : String) : Prop :=
  ∃ stage ∈ flow.stages, stage.id = id

/-- A link leads from one id to another, and both belong to stages. -/
def Arrow (flow : Flow) (source target : String) : Prop :=
  flow.HasId source ∧ flow.HasId target ∧
    ∃ link ∈ flow.links, link.source = source ∧ link.target = target

/-- No id is reached from itself. -/
def Acyclic (flow : Flow) : Prop :=
  ∀ id, ¬ TransGen flow.Arrow id id

@[simp] theorem mem_ids {flow : Flow} {id : String} :
    id ∈ flow.ids ↔ flow.HasId id := by
  simp [ids, HasId]

theorem mem_innerLinks {flow : Flow} {link : Link} :
    link ∈ flow.innerLinks ↔
      link ∈ flow.links ∧ flow.HasId link.source ∧ flow.HasId link.target := by
  simp [innerLinks, joins]

theorem arrow_of_mem_innerLinks {flow : Flow} {link : Link}
    (member : link ∈ flow.innerLinks) :
    flow.Arrow link.source link.target := by
  obtain ⟨linkMember, sourceHas, targetHas⟩ := mem_innerLinks.mp member
  exact ⟨sourceHas, targetHas, link, linkMember, rfl, rfl⟩

theorem arrow_iff_innerLinks {flow : Flow} {source target : String} :
    flow.Arrow source target ↔
      ∃ link ∈ flow.innerLinks, link.source = source ∧ link.target = target := by
  constructor
  · rintro ⟨sourceHas, targetHas, link, member, rfl, rfl⟩
    exact ⟨link, mem_innerLinks.mpr ⟨member, sourceHas, targetHas⟩, rfl, rfl⟩
  · rintro ⟨link, member, rfl, rfl⟩
    exact arrow_of_mem_innerLinks member

theorem mem_targets {links : List Link} {source target : String} :
    target ∈ targets links source ↔
      ∃ link ∈ links, link.source = source ∧ link.target = target := by
  simp [targets, and_assoc]

theorem mem_targets_innerLinks {flow : Flow} {source target : String} :
    target ∈ targets flow.innerLinks source ↔ flow.Arrow source target := by
  rw [mem_targets, arrow_iff_innerLinks]

/-- Induction along arrows: a property of ids that passes from all
predecessors of an id to the id itself holds of every id of an acyclic flow. -/
theorem Acyclic.induction {flow : Flow} (acyclic : flow.Acyclic)
    {motive : String → Prop}
    (step : ∀ id, flow.HasId id →
      (∀ earlier, flow.Arrow earlier id → motive earlier) → motive id)
    {id : String} (has : flow.HasId id) : motive id := by
  have strict : IsStrictOrder String (TransGen flow.Arrow) :=
    { irrefl := acyclic
      trans := fun _ _ _ => TransGen.trans }
  have finite : Set.Finite { id | flow.HasId id } := by
    apply (List.finite_toSet flow.ids).subset
    intro id member
    exact mem_ids.mpr member
  apply (finite.wellFoundedOn (r := TransGen flow.Arrow)).induction has
  intro id member earlierHold
  apply step id member
  intro earlier arrow
  exact earlierHold earlier arrow.1 (.single arrow)

end StageGraph.Flow
