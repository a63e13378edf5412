/-!
# First occurrences

A list without repeats that keeps every item where it came first.
-/

namespace StageGraph

/-- The items of a list, each once, in the order of their first occurrences. -/
def distinct {α : Type} [DecidableEq α] : List α → List α
  | [] => []
  | item :: rest => item :: (distinct rest).filter (· ≠ item)

@[simp] theorem mem_distinct {α : Type} [DecidableEq α] {item : α} {items : List α} :
    item ∈ distinct items ↔ item ∈ items := by
  induction items with
  | nil => simp [distinct]
  | cons head rest induction =>
    by_cases same : item = head <;> simp [distinct, induction, same]

end StageGraph
